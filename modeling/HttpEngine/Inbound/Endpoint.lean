import HttpEngine.Inbound.Worker
import HttpEngine.Net.Lookup

/-!
An endpoint from its creation to its end. It goes through four stages and never back: created,
bound to an address, serving with its workers, and stopped.
-/

namespace HttpEngine

/-- How an endpoint serves. -/
structure EndpointOptions where
  threads : Nat := 1
  reuseAddr : Bool := false
  backlog : Int := 128
  maxPayload : Nat := 4096
  noDelay : Bool := false
  maxEvents : Nat := 1024
  headerTimeout : Duration := .ofSecs 60
  bodyTimeout : Duration := .ofSecs 60
  keepAliveTimeout : Duration := .ofSecs 600
  deriving DecidableEq, Repr

namespace EndpointOptions

/-- The options of an endpoint that was given none. -/
def standard : EndpointOptions := {}

/-- What is wrong with options, if anything is. -/
def fault? (options : EndpointOptions) : Option OptionsFault :=
  -- The first fault is the one that is told of.
  if options.threads = 0 then some .noThreads
  else if options.backlog ≤ 0 then some .noBacklog
  else if options.headerTimeout.isZero || options.bodyTimeout.isZero
      || options.keepAliveTimeout.isZero then some .noTimeouts
  else none

/-- The limits that sessions have. -/
def timeouts (options : EndpointOptions) : Timeouts :=
  ⟨options.headerTimeout, options.bodyTimeout, options.keepAliveTimeout⟩

end EndpointOptions

/-- The stages of an endpoint. -/
inductive Lifecycle where
  | created
  | initialized
  | serving
  | stopped
  deriving DecidableEq, Repr

namespace Lifecycle

/-- The name of a stage. -/
def name : Lifecycle → String
  | created => "Created"
  | initialized => "Initialized"
  | serving => "Serving"
  | stopped => "Stopped"

/-- How far a stage is from the first. -/
def rank : Lifecycle → Nat
  | created => 0
  | initialized => 1
  | serving => 2
  | stopped => 3

end Lifecycle

/-- An endpoint whose handler is of some type. -/
structure Endpoint (η : Type) where
  address : SocketAddr
  options : EndpointOptions := .standard
  /-- The address that it listens at, while it listens. -/
  listener : Option SocketAddr := none
  handler : Option η := none
  /-- The workers that run, by their numbers. -/
  workers : List Nat := []
  /-- The workers that were started and waited for. -/
  joined : List Nat := []
  stopRequested : Bool := false
  lifecycle : Lifecycle := .created

/-- What the operating system answers to an endpoint. -/
structure EndpointIo where
  /-- The address that is bound for one that was asked for, with its port. -/
  bind : EndpointOptions → SocketAddr → Except IoError SocketAddr
  /-- Why a worker could not be started, if it could not. -/
  spawn : Nat → Option IoError
  /-- Whether a worker had crashed by the time it was waited for. -/
  crashed : Nat → Bool

namespace Endpoint

variable {η : Type}

/-- An endpoint for an address, which is looked up at once, and bound later. -/
def create (address : String) (lookup : HostLookup := numericHosts) : Except Error (Endpoint η) :=
  match resolve address lookup with
  | .ok address => .ok { address }
  | .error failure => .error (.transport failure)

/-- Whether workers are running. -/
def isServing (endpoint : Endpoint η) : Bool := endpoint.lifecycle == .serving

/-- Binds the address, if the endpoint is new and the options are sound. -/
def bindWith (endpoint : Endpoint η) (io : EndpointIo) (options : EndpointOptions) :
    Endpoint η × Except Error Unit :=
  if endpoint.lifecycle ≠ .created then (endpoint, .error (.invalidOptions .alreadyInitialized))
  else
    match options.fault? with
    | some fault => (endpoint, .error (.invalidOptions fault))
    | none =>
      -- A failure leaves the endpoint new, so that it can be bound again.
      match io.bind options endpoint.address with
      | .error failure => (endpoint, .error (.transport failure))
      | .ok bound =>
        ({ endpoint with
            address := bound, listener := some bound, options, lifecycle := .initialized }, .ok ())

/-- Gives the endpoint a handler. -/
def setHandler (endpoint : Endpoint η) (handler : η) : Endpoint η :=
  { endpoint with handler := some handler }

/--
Stops the workers and waits for them, and gives the address up.

A second time changes nothing.
-/
def shutdown (endpoint : Endpoint η) (io : EndpointIo) : Endpoint η × Except Error Unit :=
  if endpoint.lifecycle = .stopped then (endpoint, .ok ())
  else
    -- Every worker is waited for, and only then it is told how many of them crashed.
    let crashed := (endpoint.workers.filter io.crashed).length
    let stopped :=
      { endpoint with
        stopRequested := true, workers := [], joined := endpoint.joined ++ endpoint.workers
        listener := none, lifecycle := .stopped }
    if 0 < crashed then (stopped, .error (.rejected (decimal crashed ++ " worker(s) panicked")))
    else (stopped, .ok ())

/-- Starts workers from a number on, as long as that works. -/
def startWorkers (io : EndpointIo) : Nat → Nat → List Nat × Option IoError
  | _, 0 => ([], none)
  | id, count + 1 =>
    match io.spawn id with
    | some failure => ([], some failure)
    | none =>
      let (started, failure) := startWorkers io (id + 1) count
      (id :: started, failure)

/--
Starts the workers. An endpoint that is not bound yet is bound with the standard options first.
-/
def serve (endpoint : Endpoint η) (io : EndpointIo) : Endpoint η × Except Error Unit :=
  let (endpoint, bound) :=
    if endpoint.lifecycle = .created then endpoint.bindWith io .standard else (endpoint, .ok ())
  match bound with
  | .error error => (endpoint, .error error)
  | .ok () =>
    if endpoint.lifecycle ≠ .initialized then (endpoint, .error (.invalidOptions .servingOrStopped))
    else if endpoint.handler.isNone then (endpoint, .error (.invalidOptions .noHandler))
    else if endpoint.listener.isNone then (endpoint, .error (.invalidOptions .notBound))
    else
      let (started, failure) := startWorkers io 0 endpoint.options.threads
      let serving :=
        { endpoint with workers := endpoint.workers ++ started, lifecycle := .serving }
      match failure with
      | none => (serving, .ok ())
      -- Workers that did start are stopped again.
      | some failure => ((serving.shutdown io).1, .error (.transport failure))

/-- How the end of the description of an endpoint reads. -/
def describe (endpoint : Endpoint η) : String :=
  "workers: " ++ decimal endpoint.workers.length ++ ", lifecycle: " ++ endpoint.lifecycle.name
    ++ " \x7d"

end Endpoint

end HttpEngine
