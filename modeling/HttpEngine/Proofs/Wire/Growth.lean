import HttpEngine.Proofs.Wire.RequestStream

/-!
A buffer that grows while a request arrives: what is said about it is said for good, with the one
exception of a head that is too long while its end is awaited.
-/

namespace HttpEngine

variable {maxPayload : Nat} {buffer : Bytes}

/-- A fault is found again behind whatever comes later, unless it is the length of an open head. -/
theorem decodeRequest_append_fault {error : DecodeError}
    (decoded : decodeRequest maxPayload buffer = .failed error)
    (other : error ≠ .malformed .headTooLong) (later : Bytes) :
    decodeRequest maxPayload (buffer ++ later) = .failed error := by
  refine decodeRequest_append_failed decoded (fun waits => other ?_) later
  -- The length is all that can be wrong with an open head.
  exact (headTooLong_of_more decoded waits).1

/-- A part of a request is waited for, unless it is too long for a head and no head ends in it. -/
theorem decodeRequest_take {request : Request} {consumed k : Nat}
    (decoded : decodeRequest maxPayload buffer = .message request consumed)
    (inside : k < consumed) :
    decodeRequest maxPayload (buffer.take k) = .incomplete ∨
      maxHeadLength < k ∧ decodeRequest maxPayload (buffer.take k) = .malformed .headTooLong := by
  have whole : buffer.take k ++ buffer.drop k = buffer := List.take_append_drop k buffer
  have few : (buffer.take k).length ≤ k := List.length_take_le k buffer
  cases part : decodeRequest maxPayload (buffer.take k) with
  | incomplete => exact .inl rfl
  | message early taken =>
    -- The same request would be found in the buffer, and it ends with the part at the latest.
    have again := decodeRequest_append_message part (buffer.drop k)
    rw [whole, decoded] at again
    cases again
    have bound := (decodeRequest_consumed part).2
    omega
  | failed error =>
    by_cases waits : scanRequestHead (buffer.take k) = .more
    · -- The head is open, so that the part is at fault for its length alone.
      obtain ⟨rfl, long⟩ := headTooLong_of_more part waits
      exact .inr ⟨by omega, rfl⟩
    · -- Any other fault would be found in the buffer as well.
      have again := decodeRequest_append_failed part waits (buffer.drop k)
      rw [whole, decoded] at again
      cases again

/--
What is said about a request at the front of a buffer stands, however much comes behind it.

A request that is decoded stays that request, and takes the same bytes. While these bytes come in,
the request is waited for, and only from more bytes than a head may have on it can be refused, for
having no end yet. Any other fault is the same fault in every longer buffer.
-/
theorem verdict_stands (maxPayload : Nat) (buffer later : Bytes) :
    (∀ request consumed, decodeRequest maxPayload buffer = .message request consumed →
      decodeRequest maxPayload (buffer ++ later) = .message request consumed ∧
      ∀ k < consumed, decodeRequest maxPayload (buffer.take k) = .incomplete ∨
        maxHeadLength < k ∧
          decodeRequest maxPayload (buffer.take k) = .malformed .headTooLong) ∧
    ∀ error, decodeRequest maxPayload buffer = .failed error →
      error ≠ .malformed .headTooLong →
        decodeRequest maxPayload (buffer ++ later) = .failed error := by
  constructor
  · intro request consumed decoded
    exact ⟨decodeRequest_append_message decoded later, fun k inside =>
      decodeRequest_take decoded inside⟩
  · intro error decoded other
    exact decodeRequest_append_fault decoded other later

/--
A request behind an empty line stands in front of the next one and is waited for up to its last
byte, and one whose body is too large is refused before its body is there.
-/
theorem verdict_stands_pipelined :
    let first := utf8Bytes "\r\nPUT /a HTTP/1.0\nContent-Length: 2\r\n\r\nok"
    let large := utf8Bytes "PUT /b HTTP/1.1\r\nContent-Length: 3\r\n\r\n"
    (∃ request, decodeRequest 2 first = .message request first.length ∧
      decodeRequest 2 (first ++ large) = .message request first.length ∧
      ∀ k < first.length, decodeRequest 2 (first.take k) = .incomplete) ∧
    decodeRequest 2 large = .failed (.tooLarge 3 2) ∧
    decodeRequest 2 (large ++ first) = .failed (.tooLarge 3 2) := by
  intro first large
  have decoded : decodeRequest 2 first = .message ⟨.put, "/a", .http10,
      ⟨[⟨"Content-Length", "2"⟩]⟩, utf8Bytes "ok"⟩ first.length := by decide +kernel
  have refused : decodeRequest 2 large = .failed (.tooLarge 3 2) := by decide +kernel
  have few : first.length ≤ maxHeadLength := by decide +kernel
  obtain ⟨stays, parts⟩ := (verdict_stands 2 first large).1 _ _ decoded
  refine ⟨⟨_, decoded, stays, fun k inside => ?_⟩, refused, ?_⟩
  · -- No part of it is too long for a head.
    exact (parts k inside).resolve_right fun long => by omega
  · exact (verdict_stands 2 large first).2 _ refused (by simp)

end HttpEngine
