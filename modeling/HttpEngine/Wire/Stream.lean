import HttpEngine.Wire.Decoding
import HttpEngine.Wire.Encoding

/-! Messages one after the other, the growth of one message byte by byte, and its passing on. -/

namespace HttpEngine

/--
The answers of decoding at the front, dropping each message, as long as bytes are left.

The last answer is the first one that is no message, or the message after which nothing is left.
-/
def decodeStream {α : Type} (decode : Bytes → Decoded α) (buffer : Bytes) : List (Decoded α) :=
  match decode buffer with
  | .message value consumed =>
    let rest := buffer.drop consumed
    -- A message takes at least one byte, so that the rest is always shorter.
    if 0 < consumed ∧ rest ≠ [] then .message value consumed :: decodeStream decode rest
    else [.message value consumed]
  | answer => [answer]
termination_by buffer.length
decreasing_by
  rename_i left
  have longer : 0 < (buffer.drop consumed).length := List.length_pos_iff.2 left.2
  simp only [List.length_drop] at longer ⊢
  omega

/-- An answer with the length of the body in the place of the message. -/
def Decoded.outline {α : Type} (bodyOf : α → Bytes) : Decoded α → Decoded Nat
  | .message value consumed => .message (bodyOf value).length consumed
  | .incomplete => .incomplete
  | .failed error => .failed error

/-- The entries of a list that differ from the entry before them, with their positions. -/
def changesFrom {α : Type} [BEq α] (position : Nat) (before : Option α) : List α → List (Nat × α)
  | [] => []
  | value :: rest =>
    if before == some value then changesFrom (position + 1) before rest
    else (position, value) :: changesFrom (position + 1) (some value) rest

/-- How the answer changes while a buffer grows byte by byte: the lengths at which it does. -/
def decodeGrowth {α : Type} (decode : Bytes → Decoded α) (bodyOf : α → Bytes) (input : Bytes) :
    List (Nat × Decoded Nat) :=
  changesFrom 0 none
    -- The empty buffer and the whole input are both among the lengths.
    ((List.range (input.length + 1)).map fun n => (decode (input.take n)).outline bodyOf)

/-- A decoded request as it is passed on to a host, with its own wish for the connection. -/
def passOnRequest (request : Request) (host : String) : Bytes :=
  encodeRequest request host request.keepAlive

/-- A decoded response as it is passed on, with its own wish for the connection. -/
def passOnResponse (response : Response) : Bytes :=
  encodeResponse response response.keepAlive

/-- The limit that every declared body keeps. -/
def noPayloadLimit : Nat := wordLimit - 1

end HttpEngine
