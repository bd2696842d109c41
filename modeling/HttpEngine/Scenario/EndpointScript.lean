import HttpEngine.Inbound.Endpoint
import HttpEngine.Net.Network
import HttpEngine.Scenario.HandlerScript

/-! Scripts over an endpoint that nobody connects to. -/

namespace HttpEngine

/-- One step with an endpoint. -/
inductive EndpointStep where
  | bind (options : EndpointOptions)
  | setHandler (handler : HandlerScript)
  | serve
  | shutdown
  | address
  /-- Binds a second endpoint to the address of the first, and drops it. -/
  | again (options : EndpointOptions)
  | describe

/-- What a step comes to. -/
inductive EndpointResult where
  | outcome (outcome : Except Error Unit)
  | address (address : SocketAddr)
  | described (text : String)

/-- What is seen after a step. -/
structure EndpointAnswer where
  result : EndpointResult
  isServing : Bool

/-- An endpoint with a scripted handler. -/
abbrev ScriptedEndpoint := Endpoint HandlerScript

namespace EndpointScript

/-- What the operating system answers in a network, beside the listeners that are there. -/
def io (network : Network) (listeners : List SocketAddr) : EndpointIo where
  bind _ address := network.bind listeners address
  spawn _ := none
  crashed _ := false

/-- One step at a time: the endpoint after it, and what it comes to. -/
def perform (network : Network) (endpoint : ScriptedEndpoint) :
    EndpointStep → ScriptedEndpoint × EndpointResult
  | .bind options =>
    let (endpoint, outcome) := endpoint.bindWith (io network []) options
    (endpoint, .outcome outcome)
  | .setHandler handler => (endpoint.setHandler handler, .outcome (.ok ()))
  | .serve =>
    let (endpoint, outcome) := endpoint.serve (io network [])
    (endpoint, .outcome outcome)
  | .shutdown =>
    let (endpoint, outcome) := endpoint.shutdown (io network [])
    (endpoint, .outcome outcome)
  | .address => (endpoint, .address endpoint.address)
  | .again options =>
    let second : ScriptedEndpoint := { address := endpoint.address }
    (endpoint, .outcome (second.bindWith (io network endpoint.listener.toList) options).2)
  | .describe => (endpoint, .described endpoint.describe)

/-- The steps of a script from an endpoint on. -/
def runFrom (network : Network) : ScriptedEndpoint → List EndpointStep → List EndpointAnswer
  | _, [] => []
  | endpoint, step :: rest =>
    let (next, result) := perform network endpoint step
    ⟨result, next.isServing⟩ :: runFrom network next rest

/-- The steps of a script with an endpoint for an address. -/
def run (network : Network) (address : String) (steps : List EndpointStep) :
    Except Error (List EndpointAnswer) :=
  match Endpoint.create address with
  | .error error => .error error
  | .ok endpoint => .ok (runFrom network endpoint steps)

end EndpointScript

end HttpEngine
