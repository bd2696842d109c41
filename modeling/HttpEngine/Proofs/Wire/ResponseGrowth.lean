import HttpEngine.Proofs.Wire.Accepted

/-!
A buffer that grows while a response arrives, up to the end of the stream: what is said about it is
said for good, and where the stream ends nothing is waited for any more. A body is never shorter
than the length that is stated for it.
-/

namespace HttpEngine

variable {toHead : Bool} {buffer : Bytes}

/-- A fault is found again behind whatever comes later, unless it is the length of an open head. -/
theorem decodeResponse_append_fault {error : DecodeError}
    (decoded : decodeResponse toHead false buffer = .failed error)
    (other : error ≠ .malformed .headTooLong) (ended : Bool) (later : Bytes) :
    decodeResponse toHead ended (buffer ++ later) = .failed error := by
  refine decodeResponse_append_failed decoded (fun waits => other ?_) ended later
  -- Before the stream ends, the length is all that can be wrong with an open head.
  rw [decodeResponse_eq, waits] at decoded
  dsimp only at decoded
  split at decoded <;> cases decoded
  rfl

/-- At the end of the stream only that is waited for of which nothing has come. -/
theorem decodeResponse_ended_eq_incomplete_iff :
    decodeResponse toHead true buffer = .incomplete ↔ buffer = [] := by
  constructor
  · intro waits
    refine Decidable.byContradiction fun nonempty => ?_
    rw [decodeResponse_eq] at waits
    cases scanned : scanResponseHead buffer with
    | wrong fault =>
      -- Without an open head every answer is a verdict, since the stream has ended.
      rw [scanned] at waits; cases waits
    | more =>
      -- The head has begun, and its end will not come.
      rw [scanned] at waits
      dsimp only at waits
      split at waits
      · cases waits
      · rw [if_pos ⟨rfl, nonempty⟩] at waits
        cases waits
    | found head rest =>
      rw [scanned] at waits
      dsimp only at waits
      -- An announcement that is refused is refused at once.
      cases announced : announcedResponse toHead head with
      | error reason => rw [announced] at waits; cases waits
      | ok pair =>
        obtain ⟨bare, declared⟩ := pair
        rw [announced] at waits
        cases declared with
        | none =>
          -- A body without a length is complete now, and one with a length is complete or cut off.
          cases waits
        | some length =>
          dsimp only at waits
          cases ends : messageEnd (buffer.length - rest.length) length with
          | error reason => rw [ends] at waits; cases waits
          | ok stop =>
            rw [ends] at waits
            dsimp only at waits
            split at waits <;> cases waits
  · rintro rfl
    rfl

section Bodied

variable {ended : Bool} {response : Response} {consumed : Nat}

/-- A body is all that stands behind the head in front of the end of the message. -/
theorem Response.body_eq
    (decoded : decodeResponse toHead ended buffer = .message response consumed) :
    consumed = responseHeadExtent buffer + response.body.length ∧
      response.body = (buffer.take consumed).drop (responseHeadExtent buffer) := by
  -- The reading took the body from behind the head.
  obtain ⟨head, rest, bare, declared, scanned, -, -, body, sum, -⟩ :=
    Response.exists_readFrom decoded
  have extent : responseHeadExtent buffer = buffer.length - rest.length := by
    rw [responseHeadExtent, scanned]
  rw [extent, List.drop_take]
  exact ⟨sum, body⟩

/-- Where there can be a body, it is as long as is stated, if it is stated. -/
theorem Response.length_of_stated
    (decoded : decodeResponse toHead ended buffer = .message response consumed)
    (bodied : (toHead || response.status.isBodiless) = false) {value : String}
    (stated : response.headers.get? "content-length" = some value) :
    readUnsigned? wordLimit value = some response.body.length := by
  obtain ⟨head, rest, bare, declared, -, -, read, -, -, ends⟩ := Response.exists_readFrom decoded
  have declares := read.declares
  -- The response may have a body, so that its declaration is the one in its head.
  rw [bodied, if_neg Bool.false_ne_true, declaredLength_eq_ok_iff, stated] at declares
  cases declared with
  | none => cases declares.2
  | some length =>
    -- What was read is what was declared, and that is how long the body is.
    dsimp only at ends
    rw [ends]
    simpa using declares.2

/-- Where there can be a body and no length is stated, only the end of the stream ends the body. -/
theorem Response.ended_of_unstated
    (decoded : decodeResponse toHead ended buffer = .message response consumed)
    (bodied : (toHead || response.status.isBodiless) = false)
    (unstated : response.headers.get? "content-length" = none) :
    ended = true ∧ consumed = buffer.length ∧
      ∀ later, decodeResponse toHead false (buffer ++ later) = .incomplete := by
  obtain ⟨head, rest, bare, declared, scanned, announced, read, -, -, ends⟩ :=
    Response.exists_readFrom decoded
  have declares := read.declares
  rw [bodied, if_neg Bool.false_ne_true, declaredLength_eq_ok_iff, unstated] at declares
  cases declared with
  | some length => cases declares.2
  | none =>
    refine ⟨ends.1, ends.2, fun later => ?_⟩
    -- The head is found again, and announces the same.
    rw [decodeResponse_eq, forward_scanResponseHead.found scanned later]
    dsimp only
    rw [announced]
    rfl

end Bodied

/--
What is said about a response at the front of a buffer stands, however much comes behind it, and
whether or not the stream has ended by then.

A response that is decoded before the end stays that response, and takes the same bytes. A fault is
the same fault in every longer buffer, unless it is the length of a head that has no end yet. Where
the stream has ended, nothing is waited for but the first byte of a response. The body is what
stands behind the head. Where there can be one, it is exactly as long as the first length that is
stated, so that no part of it is taken for the whole, and if none is stated it takes all that there
is at the end of the stream, and is waited for until then.
-/
theorem response_stands (toHead : Bool) (buffer later : Bytes) :
    (∀ response consumed, decodeResponse toHead false buffer = .message response consumed →
      ∀ ended, decodeResponse toHead ended (buffer ++ later) = .message response consumed) ∧
    (∀ error, decodeResponse toHead false buffer = .failed error →
      error ≠ .malformed .headTooLong →
        ∀ ended, decodeResponse toHead ended (buffer ++ later) = .failed error) ∧
    (decodeResponse toHead true buffer = .incomplete ↔ buffer = []) ∧
    ∀ ended response consumed,
      decodeResponse toHead ended buffer = .message response consumed →
      consumed = responseHeadExtent buffer + response.body.length ∧
      response.body = (buffer.take consumed).drop (responseHeadExtent buffer) ∧
      ((toHead || response.status.isBodiless) = false →
        (∀ value, response.headers.get? "content-length" = some value →
          readUnsigned? wordLimit value = some response.body.length) ∧
        (response.headers.get? "content-length" = none →
          ended = true ∧ consumed = buffer.length ∧
            decodeResponse toHead false (buffer ++ later) = .incomplete)) := by
  -- The parts were shown one by one.
  refine ⟨?_, ?_, decodeResponse_ended_eq_incomplete_iff, ?_⟩
  · intro response consumed decoded ended
    exact decodeResponse_append decoded ended later
  · intro error decoded other ended
    exact decodeResponse_append_fault decoded other ended later
  · intro ended response consumed decoded
    obtain ⟨sum, body⟩ := Response.body_eq decoded
    refine ⟨sum, body, fun bodied => ⟨?_, ?_⟩⟩
    · exact fun value stated => Response.length_of_stated decoded bodied stated
    · intro unstated
      obtain ⟨last, whole, waits⟩ := Response.ended_of_unstated decoded bodied unstated
      exact ⟨last, whole, waits later⟩

/--
A response that states its length twice has as many bytes as it says first, one that states none
takes all that comes before the end and is waited for until then, and one that states no number is
refused whatever comes.
-/
theorem response_stands_three :
    let measured := utf8Bytes "HTTP/1.1 200 \r\ncontent-length: +02\r\nContent-Length: 9\r\n\r\nok"
    let streamed := utf8Bytes "\nHTTP/1.0 200 OK\n\nok"
    let twisted := utf8Bytes "HTTP/1.1 200 OK\r\nContent-Length: -2\r\n\r\nok"
    (∃ response, decodeResponse false false measured = .message response measured.length ∧
      readUnsigned? wordLimit "+02" = some response.body.length ∧
      ∀ ended, decodeResponse false ended (measured ++ streamed) =
        .message response measured.length) ∧
    (∃ response, decodeResponse false true streamed = .message response streamed.length ∧
      response.body = utf8Bytes "ok" ∧
      decodeResponse false false (streamed ++ measured) = .incomplete) ∧
    (decodeResponse false false twisted = .malformed (.lengthText "-2") ∧
      ∀ ended, decodeResponse false ended (twisted ++ measured) =
        .malformed (.lengthText "-2")) := by
  intro measured streamed twisted
  have first : decodeResponse false false measured = .message ⟨.http11, .ok,
      ⟨[⟨"content-length", "+02"⟩, ⟨"Content-Length", "9"⟩]⟩, utf8Bytes "ok"⟩
      measured.length := by decide +kernel
  have second : decodeResponse false true streamed =
      .message ⟨.http10, .ok, ⟨[]⟩, utf8Bytes "ok"⟩ streamed.length := by decide +kernel
  have third : decodeResponse false false twisted = .malformed (.lengthText "-2") := by
    decide +kernel
  refine ⟨⟨_, first, ?_, (response_stands false measured streamed).1 _ _ first⟩,
    ⟨_, second, rfl, ?_⟩, third, ?_⟩
  · -- The first one has the first length that it states, and the second one none.
    obtain ⟨-, -, lengths⟩ := (response_stands false measured streamed).2.2.2 _ _ _ first
    exact (lengths rfl).1 _ (by decide +kernel)
  · obtain ⟨-, -, lengths⟩ := (response_stands false streamed measured).2.2.2 _ _ _ second
    exact ((lengths rfl).2 rfl).2.2
  · exact (response_stands false twisted measured).2.1 _ third (by decide)

end HttpEngine
