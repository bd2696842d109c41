import HttpEngine.Net.Socket
import HttpEngine.Outbound.Exchange
import HttpEngine.Wire.Decoding
import HttpEngine.Wire.Encoding

/-! The client's side of one connection, which carries at most one exchange at a time. -/

namespace HttpEngine

/-- The client's side of one connection. -/
structure Connection where
  authority : String
  connected : Bool := false
  exchange : Option Exchange := none
  readBuffer : Bytes := []
  writeBuffer : Bytes := []
  peerClosed : Bool := false
  /-- How many responses came over it. -/
  served : Nat := 0
  deriving DecidableEq, Repr

namespace Connection

/-- Whether it carries an exchange. -/
def isBusy (connection : Connection) : Bool := connection.exchange.isSome

/-- The deadline of the exchange that it carries. -/
def deadline? (connection : Connection) : Option Instant :=
  connection.exchange.map (·.deadline)

/--
Whether its exchange may be tried again on another connection.

The server may have closed a connection that was used before at the very moment at which it was
used again. Then not one byte of an answer has come.
-/
def isStale (connection : Connection) : Bool :=
  decide (0 < connection.served) && connection.readBuffer.isEmpty
    && connection.exchange.any (fun exchange => !exchange.retried)

/-- A connection is stale if it was used before, nothing came since, and all is tried first. -/
theorem isStale_iff {connection : Connection} {exchange : Exchange}
    (carried : connection.exchange = some exchange) :
    connection.isStale = true ↔
      0 < connection.served ∧ connection.readBuffer = [] ∧ exchange.retried = false := by
  simp [isStale, carried, and_assoc]

/-- A stale connection carries an exchange. -/
theorem carries_of_isStale {connection : Connection} (stale : connection.isStale = true) :
    ∃ exchange, connection.exchange = some exchange := by
  cases carried : connection.exchange with
  | none => simp [isStale, carried] at stale
  | some exchange => exact ⟨exchange, rfl⟩

/-- Takes up an exchange: its request waits to go out. -/
def start (connection : Connection) (exchange : Exchange) (keepAlive : Bool) : Connection :=
  { connection with
    exchange := some exchange
    writeBuffer :=
      connection.writeBuffer ++ encodeRequest exchange.request connection.authority keepAlive }

/-- The connection without its exchange. -/
def release (connection : Connection) : Connection := { connection with exchange := none }

/-- Takes in the bytes that arrived. -/
def fill (connection : Connection) (arrival : Arrival) : Connection :=
  { connection with
    readBuffer := connection.readBuffer ++ arrival.bytes
    peerClosed := connection.peerClosed || arrival.ending == .closed }

/-- Gives out as many bytes as the socket takes. -/
def flush (connection : Connection) (departure : Departure) : Connection :=
  { connection with writeBuffer := departure.left connection.writeBuffer }

/-- Whether the request that is answered asked for the head alone. -/
def asksForHead (connection : Connection) : Bool :=
  connection.exchange.any fun exchange => exchange.request.method == .head

/-- Looks for a response. One that is complete leaves the buffer. -/
def poll (connection : Connection) : Connection × Decoded Response :=
  let decoded := decodeResponse connection.asksForHead connection.peerClosed connection.readBuffer
  match decoded with
  -- Bytes behind the response stay, and are looked at when the connection is to be used again.
  | .message _ consumed =>
    ({ connection with
        readBuffer := connection.readBuffer.drop consumed, served := connection.served + 1 },
      decoded)
  | _ => (connection, decoded)

/-- A connection over which a response was complete. -/
theorem polled_eq {connection polled : Connection} {response : Response} {consumed : Nat}
    (decoded : connection.poll = (polled, .message response consumed)) :
    polled = { connection with
      readBuffer := connection.readBuffer.drop consumed, served := connection.served + 1 } := by
  unfold poll at decoded
  generalize decodeResponse _ _ _ = found at decoded
  cases found <;> cases decoded
  rfl

/-- Whether bytes are there that nobody asked for. -/
def hasUnsolicited (connection : Connection) : Bool := !connection.readBuffer.isEmpty

/-- Whether the connection can carry one more exchange after a response. -/
def isReusable (connection : Connection) (response : Response) : Bool :=
  response.keepAlive && !connection.peerClosed && !connection.hasUnsolicited

end Connection

end HttpEngine
