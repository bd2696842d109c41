import HttpEngine.Proofs.Inbound.Turn
import HttpEngine.Proofs.Wire.Words

/-!
Answering as a loop over a buffer: one request a round, until the session closes or more bytes are
needed. Each round makes the buffer shorter, so that the loop is left whatever came in.
-/

namespace HttpEngine

namespace Session

variable {σ : Type}

/-- A peer that sends nothing more and leaves part of a request ends the session. -/
def hungUp (session : Session) : Session :=
  { session with
    closing := session.closing || (session.peerClosed && !session.readBuffer.isEmpty) }

/-- One round of answering, with what the handler keeps: the loop goes on or is left. -/
def answerRound (handler : Handler σ) (maxPayload : Nat) :
    Session × σ → (Session × σ) ⊕ (Session × σ)
  | (session, kept) =>
    if session.closing then .inr (session, kept)
    else
      match decodeRequest maxPayload session.readBuffer with
      | .message request consumed =>
        let (performance, kept) := handler kept request
        let received :=
          { session with readBuffer := session.readBuffer.drop consumed, started := none }
        .inl (received.respond request performance, kept)
      | .incomplete => .inr (session.hungUp, kept)
      -- The loop is left in the next round, since the session is closing then.
      | .failed error => .inl (session.refuse (refusalStatus error), kept)

/-- What a dispatch does behind its loop: it takes the time of what is left. -/
def rested (session : Session) (now : Instant) : Session :=
  let session := { session with closing := session.closing || session.peerClosed }
  if session.readBuffer.isEmpty then
    { session with started := none, headReceived := false, idleSince := now }
  else
    { session with
      started := some (session.started.getD now)
      headReceived := hasBlankLine session.readBuffer }

/-- A dispatch is the answering and what comes behind it. -/
theorem dispatch_eq (handler : Handler σ) (maxPayload : Nat) (now : Instant) (session : Session)
    (kept : σ) :
    session.dispatch handler maxPayload now kept =
      ((session.answerAll handler maxPayload kept).1.rested now,
        (session.answerAll handler maxPayload kept).2) := by
  unfold dispatch rested
  dsimp only
  split <;> rfl

/-- A session whose peer sends nothing more closes in any case. -/
theorem rested_hungUp (session : Session) (now : Instant) :
    session.hungUp.rested now = session.rested now := by
  unfold rested hungUp
  cases session.closing <;> cases session.peerClosed <;> simp

/-- Nothing is wrong with no bytes. -/
theorem ne_nil_of_failed {maxPayload : Nat} {buffer : Bytes} {error : DecodeError}
    (failed : decodeRequest maxPayload buffer = .failed error) : buffer ≠ [] := by
  rintro rfl
  cases failed

section Rounds

variable {handler : Handler σ} {maxPayload : Nat} {session : Session} {kept : σ}

/-- An open session does what its buffer calls for, and goes on behind a request. -/
theorem answerAll_of_open (isOpen : session.closing = false) :
    session.answerAll handler maxPayload kept =
      match decodeRequest maxPayload session.readBuffer with
      | .message request consumed =>
        (({ session with
            readBuffer := session.readBuffer.drop consumed, started := none }).respond request
              (handler kept request).1).answerAll handler maxPayload (handler kept request).2
      | .incomplete => (session, kept)
      | .failed error => (session.refuse (refusalStatus error), kept) := by
  rw [answerAll, if_neg (by simp [isOpen])]
  split
  · rename_i request consumed decoded
    rw [decoded]
  · rename_i waits
    rw [waits]
  · rename_i error fails
    rw [fails]

/-- A round that goes on leaves fewer bytes, and as much to be answered as before. -/
theorem answerRound_next {next : Session × σ}
    (goes : answerRound handler maxPayload (session, kept) = .inl next) :
    next.1.readBuffer.length < session.readBuffer.length ∧
      next.1.answerAll handler maxPayload next.2 = session.answerAll handler maxPayload kept := by
  unfold answerRound at goes
  dsimp only at goes
  split at goes
  · -- A closing session goes to no further round.
    cases goes
  · rename_i isOpen
    rw [Bool.not_eq_true] at isOpen
    split at goes
    · -- A request takes at least one byte.
      rename_i request consumed decoded
      obtain ⟨positive, inside⟩ := decodeRequest_consumed decoded
      cases goes
      exact ⟨by rw [readBuffer_respond, List.length_drop]; omega,
        by rw [answerAll_of_open isOpen, decoded]⟩
    · -- A buffer that only waits for more leaves the loop too.
      cases goes
    · -- A refusal takes all bytes, and there were some.
      rename_i error fails
      have nonempty := List.length_pos_iff.2 (ne_nil_of_failed fails)
      cases goes
      exact ⟨nonempty, by rw [answerAll_of_closing rfl, answerAll_of_open isOpen, fails]⟩

/-- A round that leaves the loop has answered all, and ends a session whose peer has hung up. -/
theorem answerRound_last {last : Session × σ}
    (leaves : answerRound handler maxPayload (session, kept) = .inr last) :
    last = ((session.answerAll handler maxPayload kept).1.hungUp,
      (session.answerAll handler maxPayload kept).2) := by
  unfold answerRound at leaves
  dsimp only at leaves
  split at leaves
  · -- A session that was closing already stays as it is, and need not be told that its peer has
    -- left.
    rename_i shut
    cases leaves
    rw [answerAll_of_closing shut]
    simp only [hungUp, shut, Bool.true_or]
    rw [← shut]
  · rename_i isOpen
    rw [Bool.not_eq_true] at isOpen
    split at leaves
    · -- Behind a request there is another round, so that this is not the last one.
      cases leaves
    · -- The peer's end counts only here, when all that is complete has been answered.
      rename_i waits
      cases leaves
      rw [answerAll_of_open isOpen, waits]
    · cases leaves

end Rounds

/-- The loop of a dispatch is left after at most one round more than there are bytes. -/
theorem loop_answerRound (handler : Handler σ) (maxPayload : Nat) (session : Session) (kept : σ) :
    loop (answerRound handler maxPayload) (session.readBuffer.length + 1) (session, kept) =
      some ((session.answerAll handler maxPayload kept).1.hungUp,
        (session.answerAll handler maxPayload kept).2) := by
  refine loop_eq_some (fun _ => True) (fun state : Session × σ => state.1.readBuffer.length)
    (fun state => ((state.1.answerAll handler maxPayload state.2).1.hungUp,
      (state.1.answerAll handler maxPayload state.2).2)) ?_ ?_ trivial (Nat.lt_succ_self _)
  · -- What a round must keep is only what is left to be answered. The bytes are what runs out.
    intro state next _ goes
    obtain ⟨shorter, same⟩ := answerRound_next goes
    exact ⟨trivial, shorter, by rw [same]⟩
  · intro state last _ leaves
    exact answerRound_last leaves

end Session

/--
Decoding stays inside the buffer, and so a dispatch ends, and so does the decoding of a stream.

On a buffer that a machine can hold, no sum of lengths overflows a word, and no cut is out of order
or outside the buffer: the arithmetic of words gives the same answers. A message takes at least one
byte and none that is not there, and its body is all that it takes behind its head; that of a
request is no longer than the limit. The loop of a dispatch is left after at most one round more
than there are bytes, whatever the handler answers, and so is the loop that decodes a stream message
by message.
-/
theorem decoding_stays_inside_and_ends {σ : Type} (handler : Handler σ) (maxPayload : UInt64)
    (toHead ended : Bool) (buffer : Bytes) :
    (buffer.length < wordLimit →
      decodeRequestInWords maxPayload buffer = some (decodeRequest maxPayload.toNat buffer) ∧
      decodeResponseInWords toHead ended buffer = some (decodeResponse toHead ended buffer)) ∧
    (∀ request consumed,
      decodeRequest maxPayload.toNat buffer = .message request consumed →
        request.body.length ≤ maxPayload.toNat ∧
        ∃ head rest, scanRequestHead buffer = .found head rest ∧
          Takes buffer (buffer.length - rest.length) consumed request.body) ∧
    (∀ response consumed,
      decodeResponse toHead ended buffer = .message response consumed →
        ∃ head rest, scanResponseHead buffer = .found head rest ∧
          Takes buffer (buffer.length - rest.length) consumed response.body) ∧
    (∀ (session : Session) (kept : σ) (now : Instant), session.readBuffer = buffer →
      ∃ last after,
        loop (Session.answerRound handler maxPayload.toNat) (buffer.length + 1) (session, kept) =
          some (last, after) ∧
        session.dispatch handler maxPayload.toNat now kept = (last.rested now, after)) ∧
    loop (streamRound (decodeRequest maxPayload.toNat)) (buffer.length + 1) (buffer, []) =
      some (decodeStream (decodeRequest maxPayload.toNat) buffer) ∧
    loop (streamRound (decodeResponse toHead ended)) (buffer.length + 1) (buffer, []) =
      some (decodeStream (decodeResponse toHead ended) buffer) := by
  refine ⟨fun size => ⟨decodeRequestInWords_eq size maxPayload,
    decodeResponseInWords_eq size toHead ended⟩, fun _ _ => takes_of_decodeRequest,
    fun _ _ => takes_of_decodeResponse, ?_,
    loop_streamRound (fun _ _ _ => decodeRequest_consumed) buffer,
    loop_streamRound (fun _ _ _ => decodeResponse_consumed) buffer⟩
  rintro session kept now rfl
  refine ⟨_, _, Session.loop_answerRound handler maxPayload.toNat session kept, ?_⟩
  rw [Session.dispatch_eq, Session.rested_hungUp]

/--
The largest length that a word can hold is out of range behind any head, also for the largest limit,
and a request in front of it is taken with its body.
-/
theorem decoding_stays_inside_and_ends_huge :
    let first := utf8Bytes "PUT /a HTTP/1.1\r\nContent-Length: 2\r\n\r\nok"
    let huge := utf8Bytes "PUT /b HTTP/1.1\r\nContent-Length: 18446744073709551615\r\n\r\n"
    let limit : UInt64 := 18446744073709551615
    huge.length < wordLimit ∧
    decodeRequestInWords limit huge =
      some (.malformed (.lengthOutOfRange 18446744073709551615)) ∧
    (∃ request, decodeRequest limit.toNat (first ++ huge) = .message request first.length ∧
      ∃ headLength, Takes (first ++ huge) headLength first.length request.body) ∧
    ∃ answers, loop (streamRound (decodeRequest limit.toNat)) ((first ++ huge).length + 1)
      (first ++ huge, []) = some answers := by
  intro first huge limit
  have small : huge.length < wordLimit := by decide +kernel
  have refused : decodeRequest limit.toNat huge =
      .malformed (.lengthOutOfRange 18446744073709551615) := by decide +kernel
  have decoded : decodeRequest limit.toNat (first ++ huge) = .message ⟨.put, "/a", .http11,
      ⟨[⟨"Content-Length", "2"⟩]⟩, utf8Bytes "ok"⟩ first.length := by decide +kernel
  let quiet : Handler Unit := fun _ _ => (⟨[], false⟩, ())
  obtain ⟨words, -⟩ := decoding_stays_inside_and_ends quiet limit false true huge
  obtain ⟨-, requests, -, -, stream, -⟩ :=
    decoding_stays_inside_and_ends quiet limit false true (first ++ huge)
  obtain ⟨-, head, rest, -, takes⟩ := requests _ _ decoded
  exact ⟨small, (words small).1.trans (congrArg some refused), ⟨_, decoded, _, takes⟩, _, stream⟩

end HttpEngine
