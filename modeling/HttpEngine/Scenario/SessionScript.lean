import HttpEngine.Net.Network
import HttpEngine.Scenario.HandlerScript

/-! Scripts over the server's side of one connection, with a peer that takes whatever it is sent. -/

namespace HttpEngine

/-- One step with a session. -/
inductive SessionStep where
  | receive (bytes : Bytes)
  /-- The peer sends nothing more. -/
  | finish
  | dispatch
  | timeOut
  | flush
  | peer

/-- What a step comes to. -/
inductive SessionResult where
  | read (count : Nat)
  | done
  | flushed (bytes : Bytes)
  | peer (address : String)

/-- What is seen after a step. -/
structure SessionAnswer where
  result : SessionResult
  /-- The entries that the handler left during the step. -/
  handled : List HandlerEntry
  /-- The limit that is in force, if there is one. -/
  limit : Option Duration
  isDone : Bool

/-- What a session is made with. -/
structure SessionScript where
  handler : HandlerScript
  maxPayload : Nat := 4096
  timeouts : Timeouts := ⟨.ofSecs 1000, .ofSecs 2000, .ofSecs 3000⟩

namespace SessionScript

/-- The address that the session is told to have as its peer. -/
def peerAddress : SocketAddr := Network.self 1

/-- One step at a time: the session after it, the entries of the handler, and what it comes to. -/
def perform (script : SessionScript) (now : Instant) (session : Session) :
    SessionStep → (Session × List HandlerEntry) × SessionResult
  | .receive bytes => ((session.fill ⟨bytes, .blocked⟩, []), .read bytes.length)
  | .finish => ((session.fill ⟨[], .closed⟩, []), .read 0)
  | .dispatch => (session.dispatch script.handler.handler script.maxPayload now [], .done)
  | .timeOut => ((session.timeOut, []), .done)
  | .flush =>
    ((session.flush (.everything session.writeBuffer), []), .flushed session.writeBuffer)
  | .peer => ((session, []), .peer (peerAddress.ip.text ++ ":" ++ decimal peerAddress.port))

/-- The steps of a script from a session on. -/
def runFrom (script : SessionScript) (now : Instant) : Session → List SessionStep →
    List SessionAnswer
  | _, [] => []
  | session, step :: rest =>
    let ((next, handled), result) := script.perform now session step
    -- What is told is the length of the limit, since the time of the day is not known.
    let limit := (next.deadline? script.timeouts).map fun _ => (next.allowance script.timeouts).2
    ⟨result, handled, limit, next.isDone⟩ :: runFrom script now next rest

/-- The steps of a script, for which the machine has to reach itself. -/
def run (script : SessionScript) (network : Network) (now : Instant) (steps : List SessionStep) :
    Except IoError (List SessionAnswer) :=
  match network.connectFailure? peerAddress with
  | some failure => .error failure
  | none => .ok (script.runFrom now (.accepted now) steps)

end SessionScript

end HttpEngine
