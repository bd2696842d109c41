import HttpEngine.Proofs.Wire.HeadForward

/-!
Requests at the front of a stream: later bytes change nothing about a request that is whole, nor
about a fault, except that a head that is too long for its place is only refused while it is open.
-/

namespace HttpEngine

/-- What the head of a request announces: the request without its body, and where the body ends. -/
def announcedRequest (maxPayload : Nat) (head : RequestHead) (headLength : Nat) :
    Except DecodeError (Request × Nat) :=
  match Method.ofToken head.method with
  | .error fault => .error (.malformed (.line fault))
  | .ok method =>
  match collectFields head.fields with
  | .error reason => .error (.malformed reason)
  | .ok fields =>
  match declaredLength ⟨fields⟩ with
  | .error reason => .error (.malformed reason)
  | .ok declared =>
    let length := declared.getD 0
    if maxPayload < length then .error (.tooLarge length maxPayload)
    else
      match messageEnd headLength length with
      | .error reason => .error (.malformed reason)
      | .ok stop => .ok (⟨method, head.target, head.version, ⟨fields⟩, []⟩, stop)

/-- A request is decoded by its head, and only its body looks at the bytes again. -/
theorem decodeRequest_eq (maxPayload : Nat) (buffer : Bytes) :
    decodeRequest maxPayload buffer =
      match scanRequestHead buffer with
      | .wrong fault => .malformed (.head fault)
      | .more => if maxHeadLength < buffer.length then .malformed .headTooLong else .incomplete
      | .found head rest =>
        match announcedRequest maxPayload head (buffer.length - rest.length) with
        | .error error => .failed error
        | .ok (request, stop) =>
          if buffer.length < stop then .incomplete
          else .message
            { request with body := bodyBytes buffer (buffer.length - rest.length) stop } stop := by
  -- Both sides ask the same questions in the same order.
  unfold decodeRequest
  cases scanRequestHead buffer with
  | wrong fault => rfl
  | more => rfl
  | found head rest =>
    -- From here on only the head is looked at, until the body is cut out.
    dsimp only [announcedRequest]
    cases Method.ofToken head.method with
    | error fault => rfl
    | ok method =>
      cases collectFields head.fields with
      | error reason => rfl
      | ok fields =>
        dsimp only
        cases declaredLength ⟨fields⟩ with
        | error reason => rfl
        | ok declared =>
          dsimp only
          by_cases large : maxPayload < declared.getD 0
          · rw [if_pos large, if_pos large]
          · rw [if_neg large, if_neg large]
            cases messageEnd (buffer.length - rest.length) (declared.getD 0) <;> rfl

/-- A body that is there does not change when more bytes come. -/
theorem bodyBytes_append {buffer : Bytes} {stop : Nat} (there : stop ≤ buffer.length)
    (headLength : Nat) (later : Bytes) :
    bodyBytes (buffer ++ later) headLength stop = bodyBytes buffer headLength stop := by
  -- The body ends before the later bytes begin.
  unfold bodyBytes
  by_cases inside : headLength ≤ buffer.length
  · rw [List.drop_append_of_le_length inside, List.take_append_of_le_length]
    rw [List.length_drop]
    omega
  · rw [Nat.sub_eq_zero_of_le (by omega), List.take_zero, List.take_zero]

section Append

variable {maxPayload : Nat} {buffer : Bytes}

/-- A request has a head that announces where it ends. -/
theorem announced_of_request {request : Request} {consumed : Nat}
    (decoded : decodeRequest maxPayload buffer = .message request consumed) :
    ∃ head rest bare, scanRequestHead buffer = .found head rest ∧
      announcedRequest maxPayload head (buffer.length - rest.length) = .ok (bare, consumed) ∧
      consumed ≤ buffer.length ∧
      request = { bare with body := bodyBytes buffer (buffer.length - rest.length) consumed } := by
  rw [decodeRequest_eq] at decoded
  cases scanned : scanRequestHead buffer with
  | wrong fault => rw [scanned] at decoded; cases decoded
  | more => rw [scanned] at decoded; dsimp only at decoded; split at decoded <;> cases decoded
  | found head rest =>
    rw [scanned] at decoded
    dsimp only at decoded
    cases announced : announcedRequest maxPayload head (buffer.length - rest.length) with
    | error error => rw [announced] at decoded; cases decoded
    | ok pair =>
      obtain ⟨bare, stop⟩ := pair
      rw [announced] at decoded
      dsimp only at decoded
      split at decoded
      · cases decoded
      · -- The body is there to its end.
        rename_i enough
        cases decoded
        exact ⟨head, rest, bare, rfl, announced, Nat.not_lt.1 enough, rfl⟩

/-- A whole request is decoded the same whatever comes behind it. -/
theorem decodeRequest_append_message {request : Request} {consumed : Nat}
    (decoded : decodeRequest maxPayload buffer = .message request consumed) (later : Bytes) :
    decodeRequest maxPayload (buffer ++ later) = .message request consumed := by
  obtain ⟨head, rest, bare, scanned, announced, inside, rfl⟩ := announced_of_request decoded
  -- The head is found again, announces the same, and the body is there.
  rw [decodeRequest_eq, forward_scanRequestHead.found scanned later]
  dsimp only
  rw [forward_scanRequestHead.taken_append scanned later, announced]
  dsimp only
  rw [if_neg (by rw [List.length_append]; omega), bodyBytes_append inside]

/-- A fault stays the same whatever comes behind it, unless it is that the head has no end yet. -/
theorem decodeRequest_append_failed {error : DecodeError}
    (decoded : decodeRequest maxPayload buffer = .failed error)
    (closed : scanRequestHead buffer ≠ .more) (later : Bytes) :
    decodeRequest maxPayload (buffer ++ later) = .failed error := by
  -- The head is found again, or is wrong in the same way, and announces the same.
  rw [decodeRequest_eq] at decoded ⊢
  cases scanned : scanRequestHead buffer with
  | wrong fault =>
    rw [scanned] at decoded
    rw [forward_scanRequestHead.wrong scanned later]
    exact decoded
  | more => exact absurd scanned closed
  | found head rest =>
    rw [scanned] at decoded
    rw [forward_scanRequestHead.found scanned later]
    dsimp only at decoded ⊢
    rw [forward_scanRequestHead.taken_append scanned later]
    cases announced : announcedRequest maxPayload head (buffer.length - rest.length) with
    | error found => rw [announced] at decoded; exact decoded
    | ok pair =>
      rw [announced] at decoded
      dsimp only at decoded
      split at decoded <;> cases decoded

/-- The only fault of a head without an end is its length. -/
theorem headTooLong_of_more {error : DecodeError}
    (decoded : decodeRequest maxPayload buffer = .failed error)
    (scanned : scanRequestHead buffer = .more) :
    error = .malformed .headTooLong ∧ maxHeadLength < buffer.length := by
  -- A head that is open is either waited for or too long.
  rw [decodeRequest_eq, scanned] at decoded
  dsimp only at decoded
  split at decoded
  · rename_i long
    cases decoded
    exact ⟨rfl, long⟩
  · cases decoded

end Append

/--
How many bytes the head at the front of some bytes takes, as far as they go.

Bytes that no head begins with do not count.
-/
def headExtent (bytes : Bytes) : Nat :=
  match scanRequestHead bytes with
  | .found _ rest => bytes.length - rest.length
  | .more => bytes.length
  | .wrong _ => 0

/-- No head takes more bytes than there are. -/
theorem headExtent_le (bytes : Bytes) : headExtent bytes ≤ bytes.length := by
  unfold headExtent
  split <;> omega

/--
A refusal is the same whether or not more bytes have come, if the head has the right length.

Only a head that is still open can be refused for its length. Then later bytes show that it was
wrong anyway, and the refusal is of the same kind.
-/
theorem failed_append_of_headExtent_le {maxPayload : Nat} {buffer : Bytes} {error : DecodeError}
    (decoded : decodeRequest maxPayload buffer = .failed error) {later : Bytes}
    (fits : headExtent (buffer ++ later) ≤ maxHeadLength) :
    decodeRequest maxPayload (buffer ++ later) = .failed error ∨
      error = .malformed .headTooLong ∧
        ∃ fault, decodeRequest maxPayload (buffer ++ later) = .malformed (.head fault) := by
  cases scanned : scanRequestHead buffer with
  | wrong fault => exact .inl (decodeRequest_append_failed decoded (by simp [scanned]) later)
  | found head rest =>
    exact .inl (decodeRequest_append_failed decoded (by simp [scanned]) later)
  | more =>
    -- The bytes before the later ones are too many for one head already.
    obtain ⟨reason, long⟩ := headTooLong_of_more decoded scanned
    refine .inr ⟨reason, ?_⟩
    unfold headExtent at fits
    cases again : scanRequestHead (buffer ++ later) with
    | wrong fault => exact ⟨fault, by rw [decodeRequest_eq, again]⟩
    | more =>
      -- A head that is still open takes all of them.
      rw [again] at fits
      dsimp only at fits
      rw [List.length_append] at fits
      omega
    | found head rest =>
      -- A head that ends among the later bytes is longer than the bytes before them.
      have ends := forward_scanRequestHead.more scanned again
      rw [again] at fits
      dsimp only at fits
      rw [List.length_append] at fits
      omega

/-- A part of a request is waited for, if the head of the request has the right length. -/
theorem decodeRequest_part {maxPayload : Nat} {front later : Bytes} {request : Request}
    {consumed : Nat}
    (whole : decodeRequest maxPayload (front ++ later) = .message request consumed)
    (short : front.length < consumed) (fits : headExtent (front ++ later) ≤ maxHeadLength) :
    decodeRequest maxPayload front = .incomplete := by
  cases decoded : decodeRequest maxPayload front with
  | incomplete => rfl
  | message early taken =>
    -- The same request would be found in the whole, and it would end before the part does.
    have again := decodeRequest_append_message decoded later
    rw [whole] at again
    cases again
    have bound := (decodeRequest_consumed decoded).2
    omega
  | failed error =>
    -- The whole would be refused as well.
    rcases failed_append_of_headExtent_le decoded fits with again | ⟨_, fault, again⟩
    · rw [whole] at again
      cases again
    · rw [whole] at again
      cases again

/-- The requests that some bytes begin with, in their order, and the bytes behind them. -/
inductive RequestsOf (maxPayload : Nat) : Bytes → List Request → Bytes → Prop where
  | none (bytes : Bytes) : RequestsOf maxPayload bytes [] bytes
  | next {bytes rest : Bytes} {request : Request} {requests : List Request} {consumed : Nat}
      (decoded : decodeRequest maxPayload bytes = .message request consumed)
      (others : RequestsOf maxPayload (bytes.drop consumed) requests rest) :
      RequestsOf maxPayload bytes (request :: requests) rest

namespace RequestsOf

variable {maxPayload : Nat} {bytes rest : Bytes} {requests : List Request}

/-- Later bytes stand behind the requests that are there. -/
theorem append (these : RequestsOf maxPayload bytes requests rest) (later : Bytes) :
    RequestsOf maxPayload (bytes ++ later) requests (rest ++ later) := by
  -- Each request is decoded again, and leaves the later bytes behind what it left before.
  induction these with
  | none bytes => exact .none _
  | next decoded _ ih =>
    refine .next (decodeRequest_append_message decoded later) ?_
    rw [List.drop_append_of_le_length (decodeRequest_consumed decoded).2]
    exact ih

/-- Requests that follow upon requests. -/
theorem trans (these : RequestsOf maxPayload bytes requests rest) {others : List Request}
    {last : Bytes} (those : RequestsOf maxPayload rest others last) :
    RequestsOf maxPayload bytes (requests ++ others) last := by
  -- The first ones are decoded as before, and the others behind them.
  induction these with
  | none bytes => exact those
  | next decoded _ ih => exact .next decoded (ih those)

/-- Requests leave no more bytes than there were. -/
theorem length_le (these : RequestsOf maxPayload bytes requests rest) :
    rest.length ≤ bytes.length := by
  -- Every request takes something away.
  induction these with
  | none bytes => exact Nat.le_refl _
  | next decoded _ ih =>
    rw [List.length_drop] at ih
    omega

end RequestsOf

/-- No head in a stream of requests is too long, whether or not it is there to its end. -/
def HeadsFit (maxPayload : Nat) (stream : Bytes) : Prop :=
  ∀ requests rest, RequestsOf maxPayload stream requests rest → headExtent rest ≤ maxHeadLength

/-- Heads fit into a stream that is itself no longer than a head may be. -/
theorem headsFit_of_length_le {maxPayload : Nat} {stream : Bytes}
    (short : stream.length ≤ maxHeadLength) : HeadsFit maxPayload stream := by
  -- No head is longer than the bytes that it is read from.
  intro requests rest these
  have := these.length_le
  have := headExtent_le rest
  omega

end HttpEngine
