import HttpEngine.Inbound.ResponseWriter
import HttpEngine.Net.Socket
import HttpEngine.Time.Instant
import HttpEngine.Wire.Progress

/-!
The server's side of one connection: bytes that came in, bytes that wait to go out, and the time
by which something has to happen.
-/

namespace HttpEngine

/--
What a handler does with one request: actions in their order, and possibly a crash at the end.
-/
structure Performance where
  actions : List WriterAction
  crashes : Bool := false
  deriving DecidableEq, Repr

/-- A handler, with whatever it keeps between requests. -/
abbrev Handler (σ : Type) := σ → Request → Performance × σ

/-- How long a connection may take for a head, for a whole request, and for the next request. -/
structure Timeouts where
  header : Duration
  body : Duration
  keepAlive : Duration
  deriving DecidableEq, Repr

/-- The server's side of one connection. -/
structure Session where
  readBuffer : Bytes := []
  writeBuffer : Bytes := []
  /-- No more requests are read, and the connection ends when everything is written. -/
  closing : Bool := false
  peerClosed : Bool := false
  /-- When the first byte of the request came that is still being received. -/
  started : Option Instant := none
  headReceived : Bool := false
  idleSince : Instant
  deriving DecidableEq, Repr

/-- Whether some place in the bytes holds two ends of line in a row. -/
def hasBlankLine : Bytes → Bool
  | [] => false
  | byte :: rest =>
    [0x0D, 0x0A, 0x0D, 0x0A].isPrefixOf (byte :: rest) || hasBlankLine rest

namespace Session

/-- A session that was accepted at a time. -/
def accepted (now : Instant) : Session := { idleSince := now }

/-- Takes in the bytes that arrived. -/
def fill (session : Session) (arrival : Arrival) : Session :=
  { session with
    readBuffer := session.readBuffer ++ arrival.bytes
    peerClosed := session.peerClosed || arrival.ending == .closed }

/-- Gives out as many bytes as the socket takes. -/
def flush (session : Session) (departure : Departure) : Session :=
  { session with writeBuffer := departure.left session.writeBuffer }

/-- Answers a request by a performance. Anything but one clean answer ends the session. -/
def respond (session : Session) (request : Request) (performance : Performance) : Session :=
  let writer : ResponseWriter :=
    { version := request.version, keepAlive := request.keepAlive, out := session.writeBuffer }
  -- What a crashing handler has sent before stays written.
  let (completion, out) := (writer.performAll performance.actions).finish
  { session with
    writeBuffer := out
    closing := session.closing || performance.crashes || completion != .sent true }

/-- The response that refuses a request. -/
def refusal (status : Status) : Response := { status }

/-- Refuses whatever is being received, and ends the session. -/
def refuse (session : Session) (status : Status) : Session :=
  { session with
    writeBuffer := session.writeBuffer ++ encodeResponse (refusal status) false
    -- Nothing behind the fault can be told apart any more.
    readBuffer := []
    closing := true }

/-- The status with which a request that cannot be decoded is refused. -/
def refusalStatus : DecodeError → Status
  | .tooLarge _ _ => .contentTooLarge
  | .malformed _ => .badRequest

/-- Answering does not touch the bytes that came in. -/
@[simp] theorem readBuffer_respond (session : Session) (request : Request)
    (performance : Performance) :
    (session.respond request performance).readBuffer = session.readBuffer := rfl

/--
Answers every complete request in the order of their arrival, until the session closes or more
bytes are needed.
-/
def answerAll {σ : Type} (handler : Handler σ) (maxPayload : Nat) (session : Session) (kept : σ) :
    Session × σ :=
  if session.closing then (session, kept)
  else
    match decoded : decodeRequest maxPayload session.readBuffer with
    | .message request consumed =>
      let (performance, kept) := handler kept request
      let received :=
        { session with readBuffer := session.readBuffer.drop consumed, started := none }
      answerAll handler maxPayload (received.respond request performance) kept
    | .incomplete => (session, kept)
    | .failed error => (session.refuse (refusalStatus error), kept)
termination_by session.readBuffer.length
decreasing_by
  -- A request takes at least one byte, so that the buffer is shorter each time.
  have taken := decodeRequest_consumed decoded
  simp only [readBuffer_respond, List.length_drop]
  omega

/--
Answers what can be answered, and takes the time of what is left.

A session whose peer sends nothing more is closing afterwards, whatever is left.
-/
def dispatch {σ : Type} (handler : Handler σ) (maxPayload : Nat) (now : Instant)
    (session : Session) (kept : σ) : Session × σ :=
  let (session, kept) := session.answerAll handler maxPayload kept
  let session := { session with closing := session.closing || session.peerClosed }
  -- The time between requests begins anew, or the time of the request that has begun goes on.
  if session.readBuffer.isEmpty then
    ({ session with started := none, headReceived := false, idleSince := now }, kept)
  else
    ({ session with
        started := some (session.started.getD now)
        headReceived := hasBlankLine session.readBuffer }, kept)

/-- When the time began that is running out, and how long it is. -/
def allowance (session : Session) (timeouts : Timeouts) : Instant × Duration :=
  match session.started with
  | some started =>
    -- Whoever sends a body has sent the head in time.
    if session.headReceived then (started, timeouts.body)
    else (started, timeouts.header.shorter timeouts.body)
  | none => (session.idleSince, timeouts.keepAlive)

/-- The time by which the request has to be complete, or the next one begun. -/
def deadline? (session : Session) (timeouts : Timeouts) : Option Instant :=
  if session.closing then none
  else
    let (since, limit) := session.allowance timeouts
    since.add? limit

/-- Gives up on the peer: a request that was begun is refused, and an idle connection just ends. -/
def timeOut (session : Session) : Session :=
  if session.started.isSome then session.refuse .requestTimeout
  else { session with closing := true }

/-- Whether nothing is left to write and nothing more will be answered. -/
def isDone (session : Session) : Bool :=
  session.closing && session.writeBuffer.isEmpty

end Session

end HttpEngine
