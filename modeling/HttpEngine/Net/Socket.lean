import HttpEngine.Fault.Io
import HttpEngine.Text.Utf8

/-! What a stream socket does when it is read and written without blocking. -/

namespace HttpEngine

/-- How the bytes that are there come to an end. -/
inductive ReadEnd where
  /-- More may come later. -/
  | blocked
  /-- The peer sends nothing more. -/
  | closed
  | failed (error : IoError)
  deriving DecidableEq, Repr

/-- The bytes that reading finds, and how they end. -/
structure Arrival where
  bytes : Bytes
  ending : ReadEnd := .blocked
  deriving DecidableEq, Repr

/-- What reading answers: how many bytes came, unless it failed after them. -/
def Arrival.result (arrival : Arrival) : Except IoError Nat :=
  match arrival.ending with
  | .failed error => .error error
  | _ => .ok arrival.bytes.length

/-- How far a write gets: the bytes that the socket takes, and why it takes no more. -/
structure Departure where
  room : Nat
  failure : Option IoError := none
  deriving DecidableEq, Repr

namespace Departure

/-- The bytes of a buffer that are taken. -/
def taken (departure : Departure) (buffer : Bytes) : Bytes := buffer.take departure.room

/-- The bytes of a buffer that are left. -/
def left (departure : Departure) (buffer : Bytes) : Bytes := buffer.drop departure.room

/-- What writing answers: a failure is met only while bytes are left. -/
def result (departure : Departure) (buffer : Bytes) : Except IoError Nat :=
  match departure.failure with
  | some error => if departure.room < buffer.length then .error error else .ok buffer.length
  | none => .ok (min departure.room buffer.length)

/-- Nothing is lost between what is taken and what is left. -/
theorem taken_append_left (departure : Departure) (buffer : Bytes) :
    departure.taken buffer ++ departure.left buffer = buffer :=
  List.take_append_drop departure.room buffer

/-- Room for everything, and no failure. -/
def everything (buffer : Bytes) : Departure := ⟨buffer.length, none⟩

end Departure

/-- Whether a reading failed. -/
def Arrival.hasFailed (arrival : Arrival) : Bool :=
  match arrival.ending with
  | .failed _ => true
  | _ => false

/-- What a socket is ready for. -/
structure Readiness where
  readable : Bool := false
  readClosed : Bool := false
  writable : Bool := false
  writeClosed : Bool := false
  error : Bool := false
  deriving DecidableEq, Repr

/-- Whether reading will find bytes or their end. -/
def Readiness.reads (ready : Readiness) : Bool := ready.readable || ready.readClosed

end HttpEngine
