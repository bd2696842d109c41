import HttpEngine.Scenario.EndpointScript

/-!
Scripts over an endpoint that serves, up to the point where a peer opens a connection to it. What
goes over a connection that opens is the business of sessions.
-/

namespace HttpEngine

/-- One step with an endpoint that serves. -/
inductive ServiceStep where
  /-- A peer opens a connection to the endpoint. -/
  | connect
  | shutdown

/--
What comes of a script: the steps, how the endpoint was shut down, and whether it still serves.
-/
structure ServiceReport where
  steps : List (Except Error Unit)
  shutdown : Except Error Unit
  isServing : Bool

namespace ServiceScript

/-- An endpoint that serves on any port of its own machine. -/
def start (network : Network) (options : EndpointOptions) (handler : HandlerScript) :
    Except Error ScriptedEndpoint := do
  let created : ScriptedEndpoint ← Endpoint.create "127.0.0.1:0"
  let (bound, outcome) := created.bindWith (EndpointScript.io network []) options
  outcome
  let (serving, outcome) := (bound.setHandler handler).serve (EndpointScript.io network [])
  outcome
  return serving

/-- One step at a time: the endpoint after it, and what it comes to. -/
def perform (network : Network) (endpoint : ScriptedEndpoint) :
    ServiceStep → ScriptedEndpoint × Except Error Unit
  | .connect =>
    (endpoint, match network.connect endpoint.address with
      | .error failure => .error (.transport failure)
      | .ok () => .ok ())
  | .shutdown => endpoint.shutdown (EndpointScript.io network [])

/-- The steps of a script from an endpoint on, and the endpoint after them. -/
def runFrom (network : Network) : ScriptedEndpoint → List ServiceStep →
    List (Except Error Unit) × ScriptedEndpoint
  | endpoint, [] => ([], endpoint)
  | endpoint, step :: rest =>
    let (next, outcome) := perform network endpoint step
    let (outcomes, last) := runFrom network next rest
    (outcome :: outcomes, last)

/-- The steps of a script, after which the endpoint is shut down. -/
def run (network : Network) (options : EndpointOptions) (handler : HandlerScript)
    (steps : List ServiceStep) : Except Error ServiceReport :=
  match start network options handler with
  | .error error => .error error
  | .ok serving =>
    let (outcomes, last) := runFrom network serving steps
    let (stopped, outcome) := last.shutdown (EndpointScript.io network [])
    .ok ⟨outcomes, outcome, stopped.isServing⟩

end ServiceScript

end HttpEngine
