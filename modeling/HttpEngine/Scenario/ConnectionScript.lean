import HttpEngine.Net.Network
import HttpEngine.Outbound.Connection
import HttpEngine.Promise.Cell

/-! Scripts over the client's side of one connection, with a peer that takes whatever it is sent. -/

namespace HttpEngine

/-- One step with a connection. -/
inductive ConnectionStep where
  | finishConnect
  | start (request : Request) (keepAlive : Bool) (timeout : Duration) (retried : Bool)
  | flush
  | receive (bytes : Bytes)
  | finish
  | poll
  | resolve
  | reject (error : Error)
  | drop
  | expired

/-- What a step comes to. -/
inductive ConnectionResult where
  | flag (value : Bool)
  | done
  | flushed (bytes : Bytes)
  | read (count : Nat)
  | polled (decoded : Decoded Response)
  | nothingToResolve
  | nothingToReject
  /-- Whether the exchange was expired just before its deadline, at it, and just after it. -/
  | expiry (before there after : Bool)
  | noExchange

/-- What is seen after a step. -/
structure ConnectionAnswer where
  result : ConnectionResult
  connection : Connection
  /-- The promise of the exchange that was started last: none, pending, or settled. -/
  promise : Option (Option (Outcome Response))

/-- A connection with what a script keeps beside it. -/
structure ConnectionDesk where
  connection : Connection
  /-- The response that was polled last, until it is used. -/
  kept : Option Response := none
  promise : Option (Option (Outcome Response)) := none

namespace ConnectionDesk

/-- The desk after the exchange of the connection was settled. -/
def settle (desk : ConnectionDesk) (outcome : Outcome Response) : ConnectionDesk :=
  { desk with connection := desk.connection.release, promise := some (some outcome) }

/-- One step at a time: the desk after it, and what it comes to. -/
def perform (now : Instant) (desk : ConnectionDesk) : ConnectionStep →
    ConnectionDesk × ConnectionResult
  | .finishConnect =>
    ({ desk with connection := { desk.connection with connected := true } }, .flag true)
  | .start request keepAlive timeout retried =>
    let exchange : Exchange :=
      { promise := 0, request, authority := desk.connection.authority, timeout
        deadline := (now.add? timeout).getD now, retried }
    ({ desk with connection := desk.connection.start exchange keepAlive, promise := some none },
      .done)
  | .flush =>
    let pending := desk.connection.writeBuffer
    ({ desk with connection := desk.connection.flush (.everything pending) }, .flushed pending)
  | .receive bytes =>
    ({ desk with connection := desk.connection.fill ⟨bytes, .blocked⟩ }, .read bytes.length)
  | .finish => ({ desk with connection := desk.connection.fill ⟨[], .closed⟩ }, .read 0)
  | .poll =>
    match desk.connection.poll with
    | (connection, .message response consumed) =>
      -- The response is kept until a later step settles the exchange with it.
      ({ desk with connection, kept := some response }, .polled (.message response consumed))
    | (connection, decoded) => ({ desk with connection }, .polled decoded)
  | .resolve =>
    let unkept := { desk with kept := none }
    match desk.kept, desk.connection.exchange with
    | some response, some _ => (unkept.settle (.ok response), .done)
    | _, _ => (unkept, .nothingToResolve)
  | .reject error =>
    if desk.connection.isBusy then (desk.settle (.error error), .done)
    else (desk, .nothingToReject)
  | .drop =>
    -- An exchange that is dropped rejects its promise.
    if desk.connection.isBusy then (desk.settle (.error .shutdown), .flag true)
    else (desk, .flag false)
  | .expired =>
    match desk.connection.exchange with
    | none => (desk, .noExchange)
    | some exchange =>
      -- The deadline itself is too late already.
      let seenAt (nanos : Nat) : Bool := exchange.isExpired ⟨nanos⟩
      let deadline := exchange.deadline.nanos
      (desk.settle (.error .shutdown),
        .expiry (seenAt (deadline - 1)) (seenAt deadline) (seenAt (deadline + 1)))

/-- The steps of a script from a desk on. -/
def runFrom (now : Instant) : ConnectionDesk → List ConnectionStep → List ConnectionAnswer
  | _, [] => []
  | desk, step :: rest =>
    let (next, result) := desk.perform now step
    ⟨result, next.connection, next.promise⟩ :: runFrom now next rest

/-- The steps of a script, for which the machine has to reach itself. -/
def run (network : Network) (now : Instant) (authority : String) (steps : List ConnectionStep) :
    Except IoError (List ConnectionAnswer) :=
  match network.connectFailure? (Network.self 1) with
  | some failure => .error failure
  | none => .ok (runFrom now { connection := { authority } } steps)

end ConnectionDesk

end HttpEngine
