import HttpEngine.Proofs.Inbound.Framing
import HttpEngine.Proofs.Link.Link

/-!
Exchanges over a link: however the bytes are delivered, each request reaches the handler as it was
meant, and each answer reaches the client as it was given.
-/

namespace HttpEngine

variable {σ : Type} {handler : Handler σ} {maxPayload : Nat} {authority : String} {kept : σ}

/-- A turn at nothing but one request. -/
theorem Turn.take_whole {buffer : Bytes} {request : Request}
    (whole : decodeRequest maxPayload buffer = .message request buffer.length) :
    take handler maxPayload kept buffer =
      ⟨[⟨request, (handler kept request).1⟩], (handler kept request).2, none, []⟩ := by
  -- Nothing is left behind the request, so that the turn ends there in any case.
  rw [take_message whole, List.drop_length, take_incomplete (by rfl)]
  split <;> rfl

namespace Service

variable (handler) {service : Service σ}

/-- A session that waits for more bytes is as before when it was looked at. -/
theorem dispatch_of_waits
    (waits : decodeRequest maxPayload service.session.readBuffer = .incomplete)
    (goesOn : service.session.peerClosed = false) (now : Instant) :
    ∃ started headReceived idleSince, service.dispatch handler maxPayload now =
      { service with session := { service.session with started, headReceived, idleSince } } := by
  -- Nothing is decoded, so that nothing is answered.
  have unanswered (kept : σ × List Call) :
      service.session.answerAll handler.logged maxPayload kept = (service.session, kept) := by
    rw [Session.answerAll]
    split
    · rfl
    · split
      · rename_i decoded; rw [waits] at decoded; cases decoded
      · rfl
      · rename_i decoded; rw [waits] at decoded; cases decoded
  -- Only the time is taken.
  have closing : (service.session.closing || service.session.peerClosed) =
      service.session.closing := by
    rw [goesOn, Bool.or_false]
  unfold dispatch Session.dispatch
  rw [unanswered]
  dsimp only
  rw [closing]
  split
  · exact ⟨none, false, now, rfl⟩
  · exact ⟨_, _, _, rfl⟩

/-- A session that has received nothing but one request calls the handler, and writes its answer. -/
theorem dispatch_of_whole {request : Request} (isOpen : service.session.closing = false)
    (goesOn : service.session.peerClosed = false)
    (whole : decodeRequest maxPayload service.session.readBuffer =
      .message request service.session.readBuffer.length) (now : Instant) :
    let call : Call := ⟨request, (handler service.kept request).1⟩
    let after := service.dispatch handler maxPayload now
    after.session.closing = !call.keepsOpen ∧
      after.kept = (handler service.kept request).2 ∧
      after.calls = service.calls ++ [call] ∧
      after.session.writeBuffer = service.session.writeBuffer ++ call.answer.bytes ∧
      after.session.readBuffer = [] ∧
      after.session.peerClosed = false := by
  intro call after
  -- The turn is known: one call, and no refusal.
  obtain ⟨closing, memory, calls, output, _, buffer, peer⟩ :=
    dispatch_of_open handler maxPayload isOpen now
  rw [Turn.take_whole whole] at closing memory calls output buffer
  refine ⟨?_, memory, calls, ?_, buffer, peer.trans goesOn⟩
  · rw [closing, goesOn]
    simp [Turn.closes, call]
  · -- Nothing goes out meanwhile, so that all of the output is what was written.
    have wrote : service.output ++
        (Turn.mk [call] (handler service.kept request).2 none []).output =
        service.sent ++ (service.session.writeBuffer ++ call.answer.bytes) := by
      simp [Service.output, Turn.output, answerBytes, refusalBytes]
    exact List.append_cancel_left (output.trans wrote)

end Service

namespace Enquiry

/-- The request of an enquiry as it arrives. -/
def request (enquiry : Enquiry) (authority : String) : Request :=
  enquiry.exchange.request.delivered authority enquiry.keepAlive

/-- The bytes of an enquiry. -/
def bytes (enquiry : Enquiry) (authority : String) : Bytes :=
  encodeRequest enquiry.exchange.request authority enquiry.keepAlive

/-- An enquiry whose request arrives as it is meant, whatever the pieces. -/
structure Fits (enquiry : Enquiry) (authority : String) (maxPayload : Nat) : Prop where
  readable : enquiry.exchange.request.IsReadable authority maxPayload
  head : (requestHeadBytes enquiry.exchange.request
    (enquiry.request authority).headers.fields).length ≤ maxHeadLength
  /-- No memory holds more bytes than a machine word can count. -/
  size : (enquiry.bytes authority).length < wordLimit

instance (enquiry : Enquiry) (authority : String) (maxPayload : Nat) :
    Decidable (enquiry.Fits authority maxPayload) :=
  decidable_of_iff (enquiry.exchange.request.IsReadable authority maxPayload ∧
      (requestHeadBytes enquiry.exchange.request
        (enquiry.request authority).headers.fields).length ≤ maxHeadLength ∧
      (enquiry.bytes authority).length < wordLimit)
    ⟨fun ⟨readable, head, size⟩ => ⟨readable, head, size⟩,
      fun fits => ⟨fits.readable, fits.head, fits.size⟩⟩

/-- The whole of an enquiry is decoded as its request. -/
theorem Fits.whole {enquiry : Enquiry} (fits : enquiry.Fits authority maxPayload) :
    decodeRequest maxPayload (enquiry.bytes authority) =
      .message (enquiry.request authority) (enquiry.bytes authority).length := by
  have decoded := decodeRequest_encodeRequest fits.readable fits.size []
  rwa [List.append_nil] at decoded

/-- A part of an enquiry is waited for. -/
theorem Fits.part {enquiry : Enquiry} (fits : enquiry.Fits authority maxPayload)
    {front later : Bytes} (split : front ++ later = enquiry.bytes authority) (more : later ≠ []) :
    decodeRequest maxPayload front = .incomplete := by
  have whole := fits.whole
  rw [← split] at whole
  -- The part ends before the whole does.
  refine decodeRequest_part whole ?_ ?_
  · -- What is missing has a length.
    have positive := List.length_pos_iff.2 more
    rw [List.length_append]
    omega
  · -- The head is that of the whole.
    have extent : headExtent (enquiry.bytes authority ++ []) = (requestHeadBytes
        enquiry.exchange.request (enquiry.request authority).headers.fields).length :=
      headExtent_encodeRequest fits.readable []
    rw [List.append_nil] at extent
    rw [split, extent]
    exact fits.head

end Enquiry

/-- A call whose answer arrives as it was given, whatever the pieces. -/
structure Call.Fits (call : Call) : Prop where
  returned : call.performance.crashes = false
  sentOnce : sendings call.performance.actions = 1
  readable : call.IsReadable
  head : (responseHeadBytes call.answer.response
    (call.answer.response.lines call.answer.keepAlive)).length ≤ maxHeadLength
  /-- No memory holds more bytes than a machine word can count. -/
  size : call.answer.bytes.length < wordLimit

instance (call : Call) : Decidable call.Fits :=
  decidable_of_iff (call.performance.crashes = false ∧ sendings call.performance.actions = 1 ∧
      call.IsReadable ∧
      (responseHeadBytes call.answer.response
        (call.answer.response.lines call.answer.keepAlive)).length ≤ maxHeadLength ∧
      call.answer.bytes.length < wordLimit)
    ⟨fun ⟨returned, sentOnce, readable, head, size⟩ => ⟨returned, sentOnce, readable, head, size⟩,
      fun fits => ⟨fits.returned, fits.sentOnce, fits.readable, fits.head, fits.size⟩⟩

namespace Call

/-- After a call that fits, the session stays open exactly if the answer says so. -/
theorem Fits.keepsOpen_eq {call : Call} (fits : call.Fits) :
    call.keepsOpen = call.answer.keepAlive := by
  rw [keepsOpen, fits.returned, fits.sentOnce]
  rfl

/-- The whole of an answer is decoded as it was given. -/
theorem Fits.whole {call : Call} (fits : call.Fits) :
    ∃ response, decodeResponse call.asksForHead false call.answer.bytes =
        .message response call.answer.bytes.length ∧
      response.shows = call.shows ∧ response.keepAlive = call.answer.keepAlive := by
  obtain ⟨response, decoded, same⟩ := fits.readable.decode fits.size false []
  rw [List.append_nil] at decoded
  exact ⟨response, decoded, same⟩

/-- A part of an answer is waited for. -/
theorem Fits.part {call : Call} (fits : call.Fits) {front later : Bytes}
    (split : front ++ later = call.answer.bytes) (more : later ≠ []) :
    decodeResponse call.asksForHead false front = .incomplete := by
  obtain ⟨response, whole, _⟩ := fits.whole
  rw [← split] at whole
  -- The part ends before the whole does.
  refine decodeResponse_part whole ?_ ?_
  · -- What is missing has a length.
    have positive := List.length_pos_iff.2 more
    rw [List.length_append]
    omega
  · -- The head is that of the whole.
    have extent : responseHeadExtent (call.answer.bytes ++ []) = (responseHeadBytes
        call.answer.response (call.answer.response.lines call.answer.keepAlive)).length :=
      responseHeadExtent_encodeResponse fits.readable []
    rw [List.append_nil] at extent
    rw [split, extent]
    exact fits.head

end Call

end HttpEngine
