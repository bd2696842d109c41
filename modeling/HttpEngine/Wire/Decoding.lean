import HttpEngine.Message.Request
import HttpEngine.Message.Response
import HttpEngine.Text.Blank
import HttpEngine.Wire.Head

/-!
Whole messages at the front of bytes: the head, then a body whose length the headers declare, or,
for a response without a declared length, a body that the end of the stream ends.
-/

namespace HttpEngine

/-- What comes of decoding a message at the front of some bytes. -/
inductive Decoded (α : Type) where
  | message (value : α) (consumed : Nat)
  | incomplete
  | failed (error : DecodeError)
  deriving DecidableEq, Repr

/-- A decoding that fails for a reason. -/
def Decoded.malformed {α : Type} (reason : Malformation) : Decoded α :=
  .failed (.malformed reason)

/-- The fields of a head, each value a text without white space around it. -/
def collectFields : List RawField → Except Malformation (List Field)
  | [] => .ok []
  | raw :: rest =>
    match utf8Text? raw.value with
    | none => .error (.valueNotUtf8 raw.name)
    | some text =>
      -- The first value that is at fault is the one that is told of.
      match collectFields rest with
      | .error reason => .error reason
      | .ok fields => .ok (⟨raw.name, trimText text⟩ :: fields)

/-- The body length that the headers declare, if they declare one. -/
def declaredLength (headers : Headers) : Except Malformation (Option Nat) :=
  -- Only the first field of each name counts.
  if (headers.get? "transfer-encoding").any (fun coding => !sameName coding "identity") then
    .error .transferCoding
  else
    match headers.get? "content-length" with
    | none => .ok none
    | some value =>
      match readUnsigned? wordLimit value with
      | some length => .ok (some length)
      | none => .error (.lengthText value)

/-- The bytes of a head and a body together, if a machine word can count them. -/
def messageEnd (headLength bodyLength : Nat) : Except Malformation Nat :=
  if headLength + bodyLength < wordLimit then .ok (headLength + bodyLength)
  else .error (.lengthOutOfRange bodyLength)

/-- The bytes of the body, which lies between the head and the end of the message. -/
def bodyBytes (buffer : Bytes) (headLength : Nat) (messageEnd : Nat) : Bytes :=
  (buffer.drop headLength).take (messageEnd - headLength)

/--
The request at the front of a buffer.

A body longer than `maxPayload` is refused as soon as the head is there.
-/
def decodeRequest (maxPayload : Nat) (buffer : Bytes) : Decoded Request :=
  match scanRequestHead buffer with
  | .wrong fault => .malformed (.head fault)
  -- A head that is open is waited for, up to a length.
  | .more => if maxHeadLength < buffer.length then .malformed .headTooLong else .incomplete
  | .found head rest =>
    let headLength := buffer.length - rest.length
    match Method.ofToken head.method with
    | .error fault => .malformed (.line fault)
    | .ok method =>
    match collectFields head.fields with
    | .error reason => .malformed reason
    | .ok fields =>
    match declaredLength ⟨fields⟩ with
    | .error reason => .malformed reason
    | .ok declared =>
      -- A request without a declared length has no body.
      let length := declared.getD 0
      if maxPayload < length then .failed (.tooLarge length maxPayload)
      else
        match messageEnd headLength length with
        | .error reason => .malformed reason
        | .ok stop =>
          if buffer.length < stop then .incomplete
          else .message ⟨method, head.target, head.version, ⟨fields⟩, bodyBytes buffer headLength stop⟩
            stop

/--
The response at the front of a buffer.

`toHead` tells that it answers a request for the head alone, and `ended` that no more bytes come.
-/
def decodeResponse (toHead ended : Bool) (buffer : Bytes) : Decoded Response :=
  match scanResponseHead buffer with
  | .wrong fault => .malformed (.head fault)
  | .more =>
    if maxHeadLength < buffer.length then .malformed .headTooLong
    -- An end before the first byte is not the fault of a message.
    else if ended ∧ buffer ≠ [] then .malformed .endedInHead
    else .incomplete
  | .found head rest =>
    let headLength := buffer.length - rest.length
    match Status.ofCode head.code with
    | .error fault => .malformed (.line fault)
    | .ok status =>
    match collectFields head.fields with
    | .error reason => .malformed reason
    | .ok fields =>
    -- Where there can be no body, the declared length is not even looked at.
    match (if toHead || status.isBodiless then .ok (some 0) else declaredLength ⟨fields⟩) with
    | .error reason => .malformed reason
    | .ok none =>
      -- Without a declared length the body is everything up to the end of the stream.
      if ended then
        .message ⟨head.version, status, ⟨fields⟩, bodyBytes buffer headLength buffer.length⟩
          buffer.length
      else .incomplete
    | .ok (some length) =>
      match messageEnd headLength length with
      | .error reason => .malformed reason
      | .ok stop =>
        if stop ≤ buffer.length then
          .message ⟨head.version, status, ⟨fields⟩, bodyBytes buffer headLength stop⟩ stop
        else if ended then .malformed .endedInBody
        else .incomplete

end HttpEngine
