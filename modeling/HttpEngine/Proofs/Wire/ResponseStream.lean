import HttpEngine.Proofs.Wire.RequestStream

/-!
Responses at the front of a stream: later bytes change nothing about a response that is whole, and a
part of one that has the right length is waited for.
-/

namespace HttpEngine

/-- What the head of a response announces: the response without its body, and the body's length. -/
def announcedResponse (toHead : Bool) (head : ResponseHead) :
    Except Malformation (Response × Option Nat) :=
  match Status.ofCode head.code with
  | .error fault => .error (.line fault)
  | .ok status =>
  match collectFields head.fields with
  | .error reason => .error reason
  | .ok fields =>
  match (if toHead || status.isBodiless then .ok (some 0) else declaredLength ⟨fields⟩) with
  | .error reason => .error reason
  | .ok length => .ok (⟨head.version, status, ⟨fields⟩, []⟩, length)

/-- A response is decoded by its head, and only its body looks at the bytes again. -/
theorem decodeResponse_eq (toHead ended : Bool) (buffer : Bytes) :
    decodeResponse toHead ended buffer =
      match scanResponseHead buffer with
      | .wrong fault => .malformed (.head fault)
      | .more =>
        if maxHeadLength < buffer.length then .malformed .headTooLong
        else if ended ∧ buffer ≠ [] then .malformed .endedInHead
        else .incomplete
      | .found head rest =>
        match announcedResponse toHead head with
        | .error reason => .malformed reason
        | .ok (response, none) =>
          if ended then
            .message { response with
              body := bodyBytes buffer (buffer.length - rest.length) buffer.length } buffer.length
          else .incomplete
        | .ok (response, some length) =>
          match messageEnd (buffer.length - rest.length) length with
          | .error reason => .malformed reason
          | .ok stop =>
            if stop ≤ buffer.length then
              .message
                { response with body := bodyBytes buffer (buffer.length - rest.length) stop } stop
            else if ended then .malformed .endedInBody
            else .incomplete := by
  -- Both sides ask the same questions in the same order.
  unfold decodeResponse
  cases scanResponseHead buffer with
  | wrong fault => rfl
  | more => rfl
  | found head rest =>
    dsimp only [announcedResponse]
    cases Status.ofCode head.code with
    | error fault => rfl
    | ok status =>
      cases collectFields head.fields with
      | error reason => rfl
      | ok fields =>
        -- From here on it is the declared length that decides.
        dsimp only
        cases (if toHead || status.isBodiless then .ok (some 0) else declaredLength ⟨fields⟩ :
            Except Malformation (Option Nat)) with
        | error reason => rfl
        | ok declared => cases declared <;> rfl

/--
How many bytes the head of a response takes at the front of some bytes, as far as they go.

Bytes that no head begins with do not count.
-/
def responseHeadExtent (bytes : Bytes) : Nat :=
  match scanResponseHead bytes with
  | .found _ rest => bytes.length - rest.length
  | .more => bytes.length
  | .wrong _ => 0

section Front

variable {toHead : Bool} {front later : Bytes} {response : Response} {consumed : Nat}

/-- A response has a head that announces where it ends, or that it takes all up to the end. -/
theorem ends_of_message {ended : Bool}
    (decoded : decodeResponse toHead ended front = .message response consumed) :
    ∃ head rest bare declared, scanResponseHead front = .found head rest ∧
      announcedResponse toHead head = .ok (bare, declared) ∧
      response = { bare with body := bodyBytes front (front.length - rest.length) consumed } ∧
      match declared with
      | some length =>
        messageEnd (front.length - rest.length) length = .ok consumed ∧ consumed ≤ front.length
      | none => ended = true ∧ consumed = front.length := by
  rw [decodeResponse_eq] at decoded
  cases scanned : scanResponseHead front with
  | wrong fault =>
    rw [scanned] at decoded
    cases decoded
  | more =>
    -- An open head is refused or waited for, and is no message in either case.
    rw [scanned] at decoded
    dsimp only at decoded
    repeat' split at decoded
    all_goals cases decoded
  | found head rest =>
    rw [scanned] at decoded
    dsimp only at decoded
    cases announced : announcedResponse toHead head with
    | error reason => rw [announced] at decoded; cases decoded
    | ok pair =>
      obtain ⟨bare, declared⟩ := pair
      rw [announced] at decoded
      refine ⟨head, rest, bare, declared, rfl, announced, ?_⟩
      cases declared with
      | none =>
        -- Only the end of the stream tells where the body ends.
        dsimp only at decoded
        split at decoded
        · rename_i last
          cases decoded
          exact ⟨rfl, last, rfl⟩
        · cases decoded
      | some length =>
        -- The message was decoded because its end is inside the front.
        dsimp only at decoded
        cases ends : messageEnd (front.length - rest.length) length with
        | error reason => rw [ends] at decoded; cases decoded
        | ok stop =>
          rw [ends] at decoded
          dsimp only at decoded
          split at decoded
          · rename_i inside
            cases decoded
            exact ⟨rfl, ends, inside⟩
          · split at decoded <;> cases decoded

/-- A response that does not need the end of the stream has a head that announces where it ends. -/
theorem announced_of_message
    (decoded : decodeResponse toHead false front = .message response consumed) :
    ∃ head rest bare length, scanResponseHead front = .found head rest ∧
      announcedResponse toHead head = .ok (bare, some length) ∧
      messageEnd (front.length - rest.length) length = .ok consumed ∧
      consumed ≤ front.length ∧
      response = { bare with body := bodyBytes front (front.length - rest.length) consumed } := by
  obtain ⟨head, rest, bare, declared, scanned, announced, same, ends⟩ := ends_of_message decoded
  cases declared with
  | none => cases ends.1
  | some length => exact ⟨head, rest, bare, length, scanned, announced, ends.1, ends.2, same⟩

/-- A response stays the same whatever comes behind it, and whether more comes or not. -/
theorem decodeResponse_append
    (decoded : decodeResponse toHead false front = .message response consumed) (ended : Bool)
    (later : Bytes) : decodeResponse toHead ended (front ++ later) = .message response consumed := by
  -- Head and announcement are found again, and the end that was inside still is.
  obtain ⟨head, rest, bare, length, scanned, announced, ends, inside, rfl⟩ :=
    announced_of_message decoded
  rw [decodeResponse_eq, forward_scanResponseHead.found scanned later]
  dsimp only
  rw [forward_scanResponseHead.taken_append scanned later, announced]
  dsimp only
  rw [ends]
  dsimp only
  rw [if_pos (by rw [List.length_append]; omega), bodyBytes_append inside]

/-- A fault stays the same whatever comes behind it, unless it is that the head has no end yet. -/
theorem decodeResponse_append_failed {error : DecodeError}
    (decoded : decodeResponse toHead false front = .failed error)
    (closed : scanResponseHead front ≠ .more) (ended : Bool) (later : Bytes) :
    decodeResponse toHead ended (front ++ later) = .failed error := by
  rw [decodeResponse_eq] at decoded ⊢
  cases scanned : scanResponseHead front with
  | wrong fault =>
    -- A wrong head is wrong whatever comes behind it.
    rw [scanned] at decoded
    rw [forward_scanResponseHead.wrong scanned later]
    exact decoded
  | more => exact absurd scanned closed
  | found head rest =>
    -- The head announces the same, and whatever was wrong with that still is.
    rw [scanned] at decoded
    rw [forward_scanResponseHead.found scanned later]
    dsimp only at decoded ⊢
    rw [forward_scanResponseHead.taken_append scanned later]
    cases announced : announcedResponse toHead head with
    | error reason => rw [announced] at decoded; exact decoded
    | ok pair =>
      obtain ⟨bare, declared⟩ := pair
      rw [announced] at decoded
      cases declared with
      | none => cases decoded
      | some length =>
        dsimp only at decoded ⊢
        -- Only an end that no machine word can count is a fault here.
        cases ends : messageEnd (front.length - rest.length) length with
        | error reason => rw [ends] at decoded; exact decoded
        | ok stop =>
          rw [ends] at decoded
          dsimp only at decoded
          split at decoded <;> cases decoded

/-- Why a part of a response is refused: nothing comes behind it, or its head is too long. -/
inductive Truncated (ended : Bool) (whole : Bytes) : Malformation → Prop where
  | inHead (last : ended = true) : Truncated ended whole .endedInHead
  | inBody (last : ended = true) : Truncated ended whole .endedInBody
  | tooLong (long : maxHeadLength < responseHeadExtent whole) : Truncated ended whole .headTooLong

/-- A part of a response is waited for, or refused for being a part. -/
theorem decodeResponse_part_or
    (whole : decodeResponse toHead false (front ++ later) = .message response consumed)
    (short : front.length < consumed) (ended : Bool) :
    decodeResponse toHead ended front = .incomplete ∨
      ∃ reason, decodeResponse toHead ended front = .malformed reason ∧
        Truncated ended (front ++ later) reason := by
  obtain ⟨head, rest, bare, length, again, announced, ends, -, -⟩ := announced_of_message whole
  rw [decodeResponse_eq]
  cases scanned : scanResponseHead front with
  | wrong fault =>
    -- The whole would be wrong as well.
    rw [forward_scanResponseHead.wrong scanned later] at again
    cases again
  | more =>
    -- The head ends behind the part.
    have behind := forward_scanResponseHead.more scanned again
    dsimp only
    split
    · rename_i long
      refine .inr ⟨_, rfl, .tooLong ?_⟩
      rw [responseHeadExtent, again]
      dsimp only
      rw [List.length_append]
      omega
    · split
      · rename_i last
        exact .inr ⟨_, rfl, .inHead last.1⟩
      · exact .inl rfl
  | found known left =>
    -- The head is there, and announces a message that ends behind the part.
    rw [forward_scanResponseHead.found scanned later] at again
    cases again
    rw [forward_scanResponseHead.taken_append scanned later] at ends
    dsimp only
    rw [announced]
    dsimp only
    rw [ends]
    dsimp only
    rw [if_neg (by omega)]
    split
    · rename_i last
      exact .inr ⟨_, rfl, .inBody last⟩
    · exact .inl rfl

/-- A part of a response is waited for, if the head of the response has the right length. -/
theorem decodeResponse_part
    (whole : decodeResponse toHead false (front ++ later) = .message response consumed)
    (short : front.length < consumed)
    (fits : responseHeadExtent (front ++ later) ≤ maxHeadLength) :
    decodeResponse toHead false front = .incomplete := by
  refine (decodeResponse_part_or whole short false).resolve_right ?_
  rintro ⟨reason, -, truncated⟩
  cases truncated with
  | inHead last | inBody last => cases last
  | tooLong long => omega

end Front

/--
The responses that some bytes begin with, and the bytes behind them.

One is looked for after the other, each of them knowing whether it answers a request for the head
alone, and there are none if one of them is missing.
-/
def readResponses (ended : Bool) : List Bool → Bytes → Option (List Response × Bytes)
  | [], bytes => some ([], bytes)
  | toHead :: others, bytes =>
    match decodeResponse toHead ended bytes with
    | .message response consumed =>
      (readResponses ended others (bytes.drop consumed)).map fun (responses, rest) =>
        (response :: responses, rest)
    | _ => none

/-- A response at the front is the first one that is read. -/
theorem readResponses_cons {toHead ended : Bool} {bytes : Bytes} {response : Response}
    {consumed : Nat} (decoded : decodeResponse toHead ended bytes = .message response consumed)
    (others : List Bool) :
    readResponses ended (toHead :: others) bytes =
      (readResponses ended others (bytes.drop consumed)).map fun (responses, rest) =>
        (response :: responses, rest) := by
  rw [readResponses, decoded]

end HttpEngine
