import HttpEngine.Inbound.Endpoint
import HttpEngine.Proofs.Inbound.BlankLine
import HttpEngine.Proofs.Inbound.Transcript
import HttpEngine.Proofs.Wire.Accepted
import HttpEngine.Proofs.Wire.HeadLimit

/-!
What a session leaves in its buffer. What waits to become a request is limited, as far as its head
is; what stands behind the last request of a session is left as it is, and whatever comes later
stands behind it.
-/

namespace HttpEngine

variable {σ : Type}

/--
What waits to become a request is a head with a part of a body that is not too large. A head that
has no end yet is no longer than a head may be.
-/
theorem length_of_incomplete {maxPayload : Nat} {buffer : Bytes}
    (waits : decodeRequest maxPayload buffer = .incomplete) :
    buffer.length ≤ headExtent buffer + maxPayload ∧
      (headIsThere buffer = false → headExtent buffer ≤ maxHeadLength) := by
  rw [decodeRequest_eq] at waits
  unfold headExtent headIsThere
  cases scanned : scanRequestHead buffer with
  | wrong fault => rw [scanned] at waits; cases waits
  | more =>
    -- The head is not there yet, and is refused as soon as it is too long.
    rw [scanned] at waits
    dsimp only at waits ⊢
    split at waits
    · cases waits
    · omega
  | found head rest =>
    -- The head is there, and what it announces is within the limit.
    rw [scanned] at waits
    dsimp only at waits ⊢
    cases announced : announcedRequest maxPayload head (buffer.length - rest.length) with
    | error error => rw [announced] at waits; cases waits
    | ok pair =>
      obtain ⟨bare, stop⟩ := pair
      rw [announced] at waits
      dsimp only at waits
      split at waits
      · rename_i short
        -- Any bytes of the announced number may be the body.
        obtain ⟨-, bodies⟩ := Request.readFrom_of_announced announced
        have few := (bodies (List.replicate (stop - (buffer.length - rest.length)) 0)
          List.length_replicate).1
        rw [List.length_replicate] at few
        exact ⟨by omega, nofun⟩
      · cases waits

/--
What a turn leaves: the bytes behind its requests, which wait to become one if every call kept the
session open, or nothing where these bytes are at fault.
-/
theorem Turn.rest_cases (handler : Handler σ) (maxPayload : Nat) (kept : σ) (buffer : Bytes) :
    let turn := take handler maxPayload kept buffer
    ∃ rest, RequestsOf maxPayload buffer (turn.calls.map Call.request) rest ∧
      (turn.rest = rest ∧ ((∀ call ∈ turn.calls, call.keepsOpen = true) →
          decodeRequest maxPayload rest = .incomplete) ∨
        turn.rest = [] ∧ ∃ error, decodeRequest maxPayload rest = .failed error) := by
  intro turn
  unfold turn
  fun_induction take handler maxPayload kept buffer with
  | case1 kept buffer waits =>
    -- The turn ends with the buffer that it began with.
    exact ⟨buffer, .none buffer, .inl ⟨rfl, fun _ => waits⟩⟩
  | case2 kept buffer error fails => exact ⟨buffer, .none buffer, .inr ⟨rfl, error, fails⟩⟩
  | case3 kept buffer request consumed comes call next keeps ih =>
    -- One more request stands in front of the others, and what is left is the same.
    obtain ⟨rest, these, leaves⟩ := ih
    refine ⟨rest, .next comes these, leaves.imp_left (And.imp_right fun waits all => ?_)⟩
    exact waits fun other member => all other (List.mem_cons_of_mem _ member)
  | case4 kept buffer request consumed comes call next shut =>
    -- The call did not keep the session open.
    refine ⟨buffer.drop consumed, .next comes (.none _), .inl ⟨rfl, fun all => ?_⟩⟩
    exact absurd (all call (List.mem_singleton_self call)) shut

/-- A request with a long header line and one byte for its body. -/
def longUpload (n : Nat) : Request := { longRequest n with body := [0x61] }

/-- The bytes of such a request up to its body. -/
def openUpload (n : Nat) : Bytes :=
  requestHeadBytes (longUpload n) ((longUpload n).delivered "" false).headers.fields

/-- Its length is announced in front of the other header lines. -/
theorem delivered_longUpload (n : Nat) :
    ((longUpload n).delivered "" false).headers.fields =
      ⟨"Content-Length", decimal 1⟩ :: (longRequest n).headers.fields := by
  have same : (longUpload n).headers = (longRequest n).headers := rfl
  have body : (longUpload n).body = [0x61] := rfl
  obtain ⟨named, said⟩ := contains_longRequest n
  have unstated : (longRequest n).headers.contains "content-length" = false := by
    rw [Headers.contains, get?_longRequest_length]
    rfl
  -- Nothing but the length is added, since the other two fields are there.
  have length : addedFields (longUpload n) "" false = [⟨"Content-Length", decimal 1⟩] := by
    simp [addedFields, same, body, named, said, unstated]
  rw [Request.delivered, length, same]
  rfl

/-- It can be written as it is. -/
theorem isWritable_longUpload (n : Nat) : (longUpload n).IsWritable "" false where
  target := (isWritable_longRequest n "" false).target
  legal := (isWritable_longRequest n "" false).legal
  legalHost := (isWritable_longRequest n "" false).legalHost
  stated := by simp [longUpload, get?_longRequest_length]
  plain := (isWritable_longRequest n "" false).plain
  few := by
    rw [delivered_longUpload]
    exact Nat.le_of_ble_eq_true rfl

/-- How long it is up to its body. -/
theorem length_openUpload (n : Nat) : (openUpload n).length = n + 70 := by
  have lengthLine : (fieldBytes ⟨"Content-Length", decimal 1⟩).length = 19 := by decide
  rw [openUpload, delivered_longUpload]
  refine (length_head_longRequest n _).trans ?_
  rw [List.flatMap_cons, List.length_append, lengthLine, length_fields_longRequest]
  omega

/-- Its head is there and its body is awaited, however long the head is. -/
theorem waits_openUpload {n : Nat} (size : n + 71 < wordLimit) :
    headIsThere (openUpload n) = true ∧ headExtent (openUpload n) = n + 70 ∧
      decodeRequest 1 (openUpload n) = .incomplete := by
  -- The bytes without their last one are the head of a request whose body is that byte.
  have scanned := (isWritable_longUpload n).scan []
  have whole : encodeRequest (longUpload n) "" false = openUpload n ++ [0x61] :=
    encodeRequest_eq (longUpload n) "" false
  have decoded := (isWritable_longUpload n).decode (Nat.le_refl 1)
    (by rw [whole, List.length_append, length_openUpload]; exact size) []
  have length := length_openUpload n
  rw [List.append_nil] at scanned decoded
  change scanRequestHead (openUpload n) = _ at scanned
  rw [whole] at decoded
  generalize openUpload n = bytes at length scanned decoded ⊢
  refine ⟨by rw [headIsThere, scanned], by rw [headExtent, scanned]; exact length, ?_⟩
  cases early : decodeRequest 1 bytes with
  | incomplete => rfl
  | message request consumed =>
    -- The request would end before its body does.
    have again := decodeRequest_append_message early [0x61]
    rw [decoded] at again
    cases again
    have inside := (decodeRequest_consumed early).2
    rw [List.length_append, List.length_singleton] at inside
    omega
  | failed error =>
    -- A fault behind the head would stay.
    have again := decodeRequest_append_failed early (by simp [scanned]) [0x61]
    rw [decoded] at again
    cases again

namespace Service

section Closing

variable (handler : Handler σ) (maxPayload : Nat) (timeouts : Timeouts) {service : Service σ}

/-- A session that is closing keeps what is in its buffer, and all that comes in behind it. -/
theorem readBuffer_step_of_closing (shut : service.session.closing = true) (act : ServiceAct) :
    let next := service.step handler maxPayload timeouts act
    ∃ arrived, next.received = service.received ++ arrived ∧
      next.session.readBuffer = service.session.readBuffer ++ arrived := by
  cases act with
  | fill arrival =>
    -- What comes in is put behind what is there, and nobody looks at it.
    exact ⟨arrival.bytes, rfl, rfl⟩
  | dispatch now =>
    -- Only the time is taken of what is there.
    obtain ⟨-, -, -, -, received⟩ := dispatch_of_closing handler maxPayload shut now
    refine ⟨[], received.trans (List.append_nil _).symm, ?_⟩
    rw [List.append_nil]
    unfold step dispatch Session.dispatch
    rw [Session.answerAll_of_closing shut]
    dsimp only
    split <;> rfl
  | flush departure => exact ⟨[], (List.append_nil _).symm, (List.append_nil _).symm⟩
  | timeOut =>
    rw [step, timeOut_of_closing timeouts shut]
    exact ⟨[], (List.append_nil _).symm, (List.append_nil _).symm⟩

/-- So does a whole run behind the end of a session. -/
theorem readBuffer_run_of_closing (shut : service.session.closing = true)
    (acts : List ServiceAct) :
    let last := service.run handler maxPayload timeouts acts
    ∃ arrived, last.received = service.received ++ arrived ∧
      last.session.readBuffer = service.session.readBuffer ++ arrived := by
  induction acts generalizing service with
  | nil => exact ⟨[], (List.append_nil _).symm, (List.append_nil _).symm⟩
  | cons act rest ih =>
    obtain ⟨first, received, buffer⟩ :=
      readBuffer_step_of_closing handler maxPayload timeouts shut act
    have closing := (step_of_closing handler maxPayload timeouts shut act).1
    obtain ⟨behind, receives, buffers⟩ := ih closing
    refine ⟨first ++ behind, ?_, ?_⟩
    · -- The bytes of the first act come first.
      rw [← List.append_assoc, ← received]
      exact receives
    · rw [← List.append_assoc, ← buffer]
      exact buffers

end Closing

/-- What the first dispatch of a session leaves, and whether it closes the session. -/
theorem first_dispatch (handler : Handler σ) (maxPayload : Nat) (timeouts : Timeouts) (kept : σ)
    (accepted now : Instant) (bytes : Bytes) :
    let service := (opened kept accepted).run handler maxPayload timeouts
      [.fill ⟨bytes, .blocked⟩, .dispatch now]
    let turn := Turn.take handler maxPayload kept bytes
    service.session.readBuffer = turn.rest ∧ service.session.closing = turn.closes := by
  intro service turn
  have isOpen : ((opened kept accepted).fill ⟨bytes, .blocked⟩).session.closing = false := rfl
  obtain ⟨closing, -, -, -, -, buffer, -⟩ := dispatch_of_open handler maxPayload isOpen now
  exact ⟨buffer, closing.trans (Bool.or_false _)⟩

/--
What a session leaves in its buffer, whatever has come in and whatever waits to go out.

A dispatch of an open session leaves what stands behind the requests that it hands over, or nothing
where that is at fault. If every call has kept the session open, this is at most one head with a
body that is not too large, and as long as the head has no end, no more than a head may be. So the
buffer is limited if the head is. If a call has ended the session, all that stands behind its
request is left. A session that is closing keeps what it has, and everything that comes in behind
it.
-/
theorem leftover_bounded (handler : Handler σ) (maxPayload : Nat) (timeouts : Timeouts) (kept : σ)
    (accepted now : Instant) (acts later : List ServiceAct) :
    let before := (opened kept accepted).run handler maxPayload timeouts acts
    let after := before.dispatch handler maxPayload now
    let left := after.session.readBuffer
    (before.session.closing = false → ∃ calls rest,
      after.calls = before.calls ++ calls ∧
      RequestsOf maxPayload before.session.readBuffer (calls.map Call.request) rest ∧
      (left = rest ∨ left = [] ∧ ∃ error, decodeRequest maxPayload rest = .failed error) ∧
      ((∀ call ∈ calls, call.keepsOpen = true) →
        left.length ≤ headExtent left + maxPayload ∧
        (headIsThere left = false → headExtent left ≤ maxHeadLength) ∧
        (headExtent left ≤ maxHeadLength → left.length ≤ maxHeadLength + maxPayload))) ∧
    (before.session.closing = true →
      let last := before.run handler maxPayload timeouts later
      ∃ arrived, last.received = before.received ++ arrived ∧
        last.session.readBuffer = before.session.readBuffer ++ arrived) := by
  intro before after left
  -- While the session is open, the turn leaves a part of a message behind.
  refine ⟨fun isOpen => ?_, fun shut =>
    readBuffer_run_of_closing handler maxPayload timeouts shut later⟩
  obtain ⟨-, -, calls, -, -, buffer, -⟩ := dispatch_of_open handler maxPayload isOpen now
  obtain ⟨rest, these, leaves⟩ :=
    Turn.rest_cases handler maxPayload before.kept before.session.readBuffer
  change left = _ at buffer
  rw [← buffer] at leaves
  refine ⟨_, rest, calls, these, leaves.imp_left And.left, fun clean => ?_⟩
  -- What is left waits to become a request, or is nothing.
  suffices limited : left.length ≤ headExtent left + maxPayload ∧
      (headIsThere left = false → headExtent left ≤ maxHeadLength) from
    ⟨limited.1, limited.2, fun fits => by omega⟩
  rcases leaves with ⟨same, waits⟩ | ⟨nothing, -⟩
  · rw [same]
    exact length_of_incomplete (waits clean)
  · rw [nothing]
    exact ⟨Nat.zero_le _, fun _ => Nat.zero_le _⟩

/-- A request is answered, and a part of the next one is left. -/
theorem leftover_bounded_part :
    let timeouts : Timeouts := ⟨⟨1000⟩, ⟨2000⟩, ⟨3000⟩⟩
    let handler : Handler Unit := fun _ _ => (⟨[.send .ok []], false⟩, ())
    let acts : List ServiceAct :=
      [.fill ⟨utf8Bytes "GET /a HTTP/1.1\r\n\r\nPOST /b HT", .blocked⟩]
    let before := (opened () ⟨0⟩).run handler 5 timeouts acts
    let left := (before.dispatch handler 5 ⟨1⟩).session.readBuffer
    before.session.closing = false ∧ left = utf8Bytes "POST /b HT" ∧
      left.length ≤ maxHeadLength + 5 := by
  intro timeouts handler acts before left
  have isOpen : before.session.closing = false := rfl
  obtain ⟨calls, -, called, -, -, limits⟩ :=
    (leftover_bounded handler 5 timeouts () ⟨0⟩ ⟨1⟩ acts []).1 isOpen
  have part : left = utf8Bytes "POST /b HT" := by decide +kernel
  have clean : ∀ call ∈ (before.dispatch handler 5 ⟨1⟩).calls, call.keepsOpen = true := by
    decide +kernel
  have limited := (limits fun call member => clean call (by rw [called]; simp [member])).2.2
  exact ⟨isOpen, part, limited (by rw [show headExtent _ = _ from rfl]; decide +kernel)⟩

/-- A session that gets some bytes at once, with room for bodies of one byte. -/
def servedAtOnce (bytes : Bytes) : Service Unit :=
  (opened () ⟨0⟩).run (fun _ _ => (⟨[.send .ok []], false⟩, ())) 1
    EndpointOptions.standard.timeouts [.fill ⟨bytes, .blocked⟩, .dispatch ⟨1⟩]

/-- A request that ends the connection. -/
def lastRequest : Bytes := utf8Bytes "GET / HTTP/1.1\r\nConnection: close\r\n\r\n"

/-- All that stands behind the last request is left. -/
theorem servedAtOnce_last (behind : Bytes) :
    (servedAtOnce (lastRequest ++ behind)).session.closing = true ∧
      (servedAtOnce (lastRequest ++ behind)).session.readBuffer = behind := by
  have request : decodeRequest 1 lastRequest =
      .message ⟨.get, "/", .http11, ⟨[⟨"Connection", "close"⟩]⟩, []⟩ lastRequest.length := by
    decide +kernel
  obtain ⟨buffer, closing⟩ := first_dispatch (fun _ _ => (⟨[.send .ok []], false⟩, ())) 1
    EndpointOptions.standard.timeouts () ⟨0⟩ ⟨1⟩ (lastRequest ++ behind)
  rw [Turn.take_message (decodeRequest_append_message request behind), if_neg (by decide +kernel),
    List.drop_left] at buffer closing
  exact ⟨closing, buffer⟩

/-- All that waits is left. -/
theorem servedAtOnce_waiting {bytes : Bytes} (waits : decodeRequest 1 bytes = .incomplete) :
    (servedAtOnce bytes).session.closing = false ∧
      (servedAtOnce bytes).session.readBuffer = bytes := by
  obtain ⟨buffer, closing⟩ := first_dispatch (fun _ _ => (⟨[.send .ok []], false⟩, ())) 1
    EndpointOptions.standard.timeouts () ⟨0⟩ ⟨1⟩ bytes
  rw [Turn.take_incomplete waits] at buffer closing
  exact ⟨closing, buffer⟩

/--
A session is left with more than a head and a body may have: behind a request that ends the
connection, and with a long head that came in one piece and a body that is still awaited.
-/
theorem leftover_unbounded :
    ((servedAtOnce (lastRequest ++ List.replicate 8194 0x61)).session.closing = true ∧
      maxHeadLength + 1 <
        (servedAtOnce (lastRequest ++ List.replicate 8194 0x61)).session.readBuffer.length) ∧
    (servedAtOnce (openUpload 8192)).session.closing = false ∧
      maxHeadLength + 1 < (servedAtOnce (openUpload 8192)).session.readBuffer.length := by
  have limit : maxHeadLength = 8192 := rfl
  constructor
  · obtain ⟨shut, behind⟩ := servedAtOnce_last (List.replicate 8194 0x61)
    refine ⟨shut, ?_⟩
    rw [behind, List.length_replicate, limit]
    decide
  · -- A head that was complete when it came in is measured by nobody.
    obtain ⟨-, -, waits⟩ := waits_openUpload (n := 8192) (by decide)
    obtain ⟨goesOn, left⟩ := servedAtOnce_waiting waits
    refine ⟨goesOn, ?_⟩
    rw [left, length_openUpload, limit]
    decide

end Service

end HttpEngine
