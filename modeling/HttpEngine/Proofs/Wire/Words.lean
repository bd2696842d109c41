import HttpEngine.Proofs.Loop
import HttpEngine.Proofs.Wire.Accepted
import HttpEngine.Proofs.Wire.Sequence

/-!
Decoding with lengths in machine words: sums that may overflow and cuts that may lie outside the
buffer. On every buffer that a machine can hold, nothing of the kind happens.
-/

namespace HttpEngine

/-- The sum of two words, unless it wraps around. -/
def checkedSum? (left right : UInt64) : Option UInt64 :=
  -- A sum that has wrapped around is smaller than both of its parts.
  if left ≤ left + right then some (left + right) else none

/-- The bytes from one place to another, and a crash if they are not in order or not there. -/
def slice? (buffer : Bytes) (start stop : UInt64) : Option Bytes :=
  if start ≤ stop ∧ stop.toNat ≤ buffer.length then
    some ((buffer.drop start.toNat).take (stop - start).toNat)
  else none

/-- The request at the front of a buffer, by the arithmetic of words. No answer is a crash. -/
def decodeRequestInWords (maxPayload : UInt64) (buffer : Bytes) : Option (Decoded Request) :=
  match scanRequestHead buffer with
  | .wrong fault => some (.malformed (.head fault))
  | .more =>
    some (if maxHeadLength < buffer.length then .malformed .headTooLong else .incomplete)
  | .found head rest =>
    let headLength := UInt64.ofNat (buffer.length - rest.length)
    match Method.ofToken head.method with
    | .error fault => some (.malformed (.line fault))
    | .ok method =>
    match collectFields head.fields with
    | .error reason => some (.malformed reason)
    | .ok fields =>
    match declaredLength ⟨fields⟩ with
    | .error reason => some (.malformed reason)
    | .ok declared =>
      let length := UInt64.ofNat (declared.getD 0)
      if maxPayload < length then some (.failed (.tooLarge length.toNat maxPayload.toNat))
      else
        match checkedSum? headLength length with
        | none => some (.malformed (.lengthOutOfRange length.toNat))
        | some stop =>
          if UInt64.ofNat buffer.length < stop then some .incomplete
          else
            (slice? buffer headLength stop).map fun body =>
              .message ⟨method, head.target, head.version, ⟨fields⟩, body⟩ stop.toNat

/-- The response at the front of a buffer, by the arithmetic of words. No answer is a crash. -/
def decodeResponseInWords (toHead ended : Bool) (buffer : Bytes) : Option (Decoded Response) :=
  match scanResponseHead buffer with
  | .wrong fault => some (.malformed (.head fault))
  | .more =>
    some (if maxHeadLength < buffer.length then .malformed .headTooLong
      else if ended ∧ buffer ≠ [] then .malformed .endedInHead
      else .incomplete)
  | .found head rest =>
    let headLength := UInt64.ofNat (buffer.length - rest.length)
    let size := UInt64.ofNat buffer.length
    match Status.ofCode head.code with
    | .error fault => some (.malformed (.line fault))
    | .ok status =>
    match collectFields head.fields with
    | .error reason => some (.malformed reason)
    | .ok fields =>
    match (if toHead || status.isBodiless then .ok (some 0) else declaredLength ⟨fields⟩) with
    | .error reason => some (.malformed reason)
    | .ok none =>
      if ended then
        (slice? buffer headLength size).map fun body =>
          .message ⟨head.version, status, ⟨fields⟩, body⟩ size.toNat
      else some .incomplete
    | .ok (some declared) =>
      let length := UInt64.ofNat declared
      match checkedSum? headLength length with
      | none => some (.malformed (.lengthOutOfRange length.toNat))
      | some stop =>
        if stop ≤ size then
          (slice? buffer headLength stop).map fun body =>
            .message ⟨head.version, status, ⟨fields⟩, body⟩ stop.toNat
        else if ended then some (.malformed .endedInBody)
        else some .incomplete

section Words

/-- A number that a word can hold comes out of it as it went in. -/
theorem toNat_ofNat_of_lt {n : Nat} (below : n < wordLimit) : (UInt64.ofNat n).toNat = n :=
  UInt64.toNat_ofNat_of_lt' below

/-- A checked sum is the sum where that fits into a word, and nothing where it does not. -/
theorem checkedSum?_ofNat {left right : Nat} (small : left < wordLimit)
    (few : right < wordLimit) :
    checkedSum? (.ofNat left) (.ofNat right) =
      if left + right < wordLimit then some (.ofNat (left + right)) else none := by
  -- Words are added up to whole words.
  have sum : (UInt64.ofNat left + UInt64.ofNat right).toNat = (left + right) % wordLimit := by
    rw [UInt64.toNat_add, toNat_ofNat_of_lt small, toNat_ofNat_of_lt few]
    rfl
  unfold checkedSum?
  by_cases fits : left + right < wordLimit
  · -- A sum that fits is no less than its left part.
    have kept : UInt64.ofNat left ≤ UInt64.ofNat left + UInt64.ofNat right := by
      rw [UInt64.le_iff_toNat_le, sum, toNat_ofNat_of_lt small, Nat.mod_eq_of_lt fits]
      exact Nat.le_add_right left right
    rw [if_pos kept, if_pos fits, UInt64.ofNat_add]
  · -- What wraps around loses a whole word, and the right part is less than that.
    have wrapped : ¬ UInt64.ofNat left ≤ UInt64.ofNat left + UInt64.ofNat right := by
      rw [UInt64.le_iff_toNat_le, sum, toNat_ofNat_of_lt small,
        Nat.mod_eq_sub_mod (by omega), Nat.mod_eq_of_lt (by omega)]
      omega
    rw [if_neg wrapped, if_neg fits]

/-- A cut between two places of a buffer is what lies between them. -/
theorem slice?_ofNat {buffer : Bytes} (size : buffer.length < wordLimit) {start stop : Nat}
    (order : start ≤ stop) (inside : stop ≤ buffer.length) :
    slice? buffer (.ofNat start) (.ofNat stop) = some (bodyBytes buffer start stop) := by
  -- Both places are inside the buffer, and so they fit into words.
  have first := toNat_ofNat_of_lt (n := start) (by omega)
  have last := toNat_ofNat_of_lt (n := stop) (by omega)
  have inOrder : UInt64.ofNat start ≤ UInt64.ofNat stop := by
    rw [UInt64.le_iff_toNat_le, first, last]
    exact order
  rw [slice?, if_pos ⟨inOrder, by rw [last]; exact inside⟩, UInt64.toNat_sub_of_le _ _ inOrder,
    first, last, bodyBytes]

/-- A length that is declared fits into a word. -/
theorem declaredLength_lt {headers : Headers} {length : Nat}
    (declares : declaredLength headers = .ok (some length)) : length < wordLimit := by
  obtain ⟨value, -, read⟩ := Option.map_eq_some_iff.1 (declaredLength_eq_ok_iff.1 declares).2
  unfold readUnsigned? at read
  simpa using (Option.filter_eq_some_iff.1 read).2

/-- The order of two numbers is that of the words that hold them. -/
theorem ofNat_lt_ofNat {left right : Nat} (small : left < wordLimit) (few : right < wordLimit) :
    UInt64.ofNat left < UInt64.ofNat right ↔ left < right := by
  rw [UInt64.lt_iff_toNat_lt, toNat_ofNat_of_lt small, toNat_ofNat_of_lt few]

/-- The order of two numbers is that of the words that hold them. -/
theorem ofNat_le_ofNat {left right : Nat} (small : left < wordLimit) (few : right < wordLimit) :
    UInt64.ofNat left ≤ UInt64.ofNat right ↔ left ≤ right := by
  rw [UInt64.le_iff_toNat_le, toNat_ofNat_of_lt small, toNat_ofNat_of_lt few]

end Words

section Agreement

variable {buffer : Bytes}

/-- No request makes the arithmetic of words overflow, or cuts outside the buffer. -/
theorem decodeRequestInWords_eq (size : buffer.length < wordLimit) (maxPayload : UInt64) :
    decodeRequestInWords maxPayload buffer =
      some (decodeRequest maxPayload.toNat buffer) := by
  unfold decodeRequestInWords decodeRequest
  -- Both decoders scan the same head, and differ only in how they count.
  cases scanRequestHead buffer with
  | wrong fault => rfl
  | more => rfl
  | found head rest =>
    dsimp only
    -- What the head takes is a part of the buffer.
    have headSize : buffer.length - rest.length < wordLimit := by omega
    cases Method.ofToken head.method with
    | error fault => rfl
    | ok method =>
      cases collectFields head.fields with
      | error reason => rfl
      | ok fields =>
        dsimp only
        cases declares : declaredLength ⟨fields⟩ with
        | error reason => rfl
        | ok declared =>
          dsimp only
          -- The declared length fits into a word, or none is declared.
          have few : declared.getD 0 < wordLimit := by
            cases declared with
            | none => decide
            | some length => exact declaredLength_lt declares
          generalize declared.getD 0 = length at few
          -- The limit is compared with the same number.
          have refused : maxPayload < .ofNat length ↔ maxPayload.toNat < length := by
            rw [UInt64.lt_iff_toNat_lt, toNat_ofNat_of_lt few]
          rw [checkedSum?_ofNat headSize few, toNat_ofNat_of_lt few, messageEnd]
          simp only [refused]
          by_cases large : maxPayload.toNat < length
          · rw [if_pos large, if_pos large]
          · rw [if_neg large, if_neg large]
            by_cases fits : buffer.length - rest.length + length < wordLimit
            · -- The message ends at the same place in both.
              rw [if_pos fits, if_pos fits]
              dsimp only
              simp only [ofNat_lt_ofNat size fits]
              by_cases short : buffer.length < buffer.length - rest.length + length
              · rw [if_pos short, if_pos short]
              · -- The request is there to its end, and the end lies behind the head.
                rw [if_neg short, if_neg short, slice?_ofNat size (Nat.le_add_right _ _)
                  (by omega), toNat_ofNat_of_lt fits]
                rfl
            · -- A message that is longer than a word can say is refused by both.
              rw [if_neg fits, if_neg fits]

/-- No response makes the arithmetic of words overflow, or cuts outside the buffer. -/
theorem decodeResponseInWords_eq (size : buffer.length < wordLimit) (toHead ended : Bool) :
    decodeResponseInWords toHead ended buffer = some (decodeResponse toHead ended buffer) := by
  unfold decodeResponseInWords decodeResponse
  -- Both decoders scan the same head, and differ only in how they count.
  cases scanResponseHead buffer with
  | wrong fault => rfl
  | more => rfl
  | found head rest =>
    dsimp only
    have headSize : buffer.length - rest.length < wordLimit := by omega
    cases Status.ofCode head.code with
    | error fault => rfl
    | ok status =>
      cases collectFields head.fields with
      | error reason => rfl
      | ok fields =>
        dsimp only
        cases declares : (if toHead || status.isBodiless then .ok (some 0)
            else declaredLength ⟨fields⟩ : Except Malformation (Option Nat)) with
        | error reason => rfl
        | ok declared =>
          cases declared with
          | none =>
            -- Without a length the body is all that comes up to the end of the stream.
            dsimp only
            cases ended with
            | true =>
              rw [if_pos rfl, if_pos rfl, slice?_ofNat size (Nat.sub_le _ _) (Nat.le_refl _),
                toNat_ofNat_of_lt size]
              rfl
            | false => rfl
          | some length =>
            -- A length is declared, or it is zero because the response has no body.
            have few : length < wordLimit := by
              split at declares
              · cases declares
                decide
              · exact declaredLength_lt declares
            dsimp only
            rw [checkedSum?_ofNat headSize few, toNat_ofNat_of_lt few, messageEnd]
            by_cases fits : buffer.length - rest.length + length < wordLimit
            · -- The message ends at the same place in both.
              rw [if_pos fits, if_pos fits]
              dsimp only
              simp only [ofNat_le_ofNat fits size]
              by_cases inside : buffer.length - rest.length + length ≤ buffer.length
              · rw [if_pos inside, if_pos inside, slice?_ofNat size (Nat.le_add_right _ _) inside,
                  toNat_ofNat_of_lt fits]
                rfl
              · rw [if_neg inside, if_neg inside]
                cases ended <;> rfl
            · -- A message that is longer than a word can say is refused by both.
              rw [if_neg fits, if_neg fits]

end Agreement

section Taking

variable {buffer : Bytes} {consumed : Nat}

/-- What a message takes of a buffer: at least a byte, and its body is all of it behind the head. -/
structure Takes (buffer : Bytes) (headLength consumed : Nat) (body : Bytes) : Prop where
  positive : 0 < consumed
  inside : consumed ≤ buffer.length
  head : headLength ≤ consumed
  body : body = (buffer.take consumed).drop headLength

/-- The body is all that is taken behind the head. -/
theorem bodyBytes_eq_drop_take (buffer : Bytes) (headLength stop : Nat) :
    bodyBytes buffer headLength stop = (buffer.take stop).drop headLength :=
  List.drop_take.symm

/-- A request takes its head and the body behind it, which is no longer than the limit. -/
theorem takes_of_decodeRequest {maxPayload : Nat} {request : Request}
    (decoded : decodeRequest maxPayload buffer = .message request consumed) :
    request.body.length ≤ maxPayload ∧ ∃ head rest, scanRequestHead buffer = .found head rest ∧
      Takes buffer (buffer.length - rest.length) consumed request.body := by
  obtain ⟨taken, inside⟩ := decodeRequest_consumed decoded
  obtain ⟨head, rest, bare, scanned, announced, -, rfl⟩ := announced_of_request decoded
  obtain ⟨behind, reads⟩ := Request.readFrom_of_announced announced
  have few := (reads _ (length_bodyBytes inside _)).1
  exact ⟨few, head, rest, scanned, taken, inside, behind, bodyBytes_eq_drop_take _ _ _⟩

/-- A response takes its head and the body behind it. -/
theorem takes_of_decodeResponse {toHead ended : Bool} {response : Response}
    (decoded : decodeResponse toHead ended buffer = .message response consumed) :
    ∃ head rest, scanResponseHead buffer = .found head rest ∧
      Takes buffer (buffer.length - rest.length) consumed response.body := by
  obtain ⟨taken, inside⟩ := decodeResponse_consumed decoded
  obtain ⟨head, rest, bare, declared, scanned, -, -, body, sum, -⟩ :=
    Response.exists_readFrom decoded
  exact ⟨head, rest, scanned, taken, inside, by omega, by rw [body, bodyBytes_eq_drop_take]⟩

end Taking

section Stream

variable {α : Type} {decode : Bytes → Decoded α}

/--
One round of decoding a stream, with the answers so far: a message is dropped, and the first answer
that is none, or the end of the bytes, is the last one.
-/
def streamRound (decode : Bytes → Decoded α) :
    Bytes × List (Decoded α) → (Bytes × List (Decoded α)) ⊕ List (Decoded α)
  | (buffer, answers) =>
    match decode buffer with
    | .message value consumed =>
      let rest := buffer.drop consumed
      if rest.isEmpty then .inr (answers ++ [.message value consumed])
      else .inl (rest, answers ++ [.message value consumed])
    | answer => .inr (answers ++ [answer])

/-- An answer that is no message is the only one. -/
theorem decodeStream_of_ne_message {buffer : Bytes}
    (different : ∀ value consumed, decode buffer = .message value consumed → False) :
    decodeStream decode buffer = [decode buffer] := by
  rw [decodeStream]
  split
  · rename_i value consumed decoded
    exact (different value consumed decoded).elim
  · rfl

/-- A stream of messages that each take a byte is decoded in at most one round for every byte. -/
theorem loop_streamRound
    (takes : ∀ buffer value consumed, decode buffer = .message value consumed →
      0 < consumed ∧ consumed ≤ buffer.length) (buffer : Bytes) :
    loop (streamRound decode) (buffer.length + 1) (buffer, []) =
      some (decodeStream decode buffer) := by
  -- The answers so far and those to come are the same list from round to round.
  refine loop_eq_some (fun _ => True) (fun state : Bytes × List (Decoded α) => state.1.length)
    (fun state => state.2 ++ decodeStream decode state.1) ?_ ?_ trivial (Nat.lt_succ_self _)
  · rintro ⟨bytes, answers⟩ next - round
    -- A round that goes on has taken a message, and so the rest is shorter.
    unfold streamRound at round
    dsimp only at round
    split at round
    · rename_i value consumed decoded
      obtain ⟨positive, inside⟩ := takes _ _ _ decoded
      split at round
      · cases round
      · rename_i left
        cases round
        rw [decodeStream_of_message decoded positive, if_neg left]
        simp only [List.length_drop, List.append_assoc, List.singleton_append, and_true, true_and]
        omega
    · cases round
  · rintro ⟨bytes, answers⟩ result - round
    -- A round that is the last one has found no message, or nothing behind the message.
    unfold streamRound at round
    dsimp only at round
    split at round
    · rename_i value consumed decoded
      split at round
      · rename_i emptied
        cases round
        rw [decodeStream_of_message decoded (takes _ _ _ decoded).1, if_pos emptied]
      · cases round
    · rename_i different
      cases round
      rw [decodeStream_of_ne_message different]

end Stream

end HttpEngine
