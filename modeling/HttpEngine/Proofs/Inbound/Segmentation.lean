import HttpEngine.Proofs.Inbound.Service

/-!
How a stream is cut does not matter: the calls of the handler, the output and the end of the session
are those of one turn at the whole stream.
-/

namespace HttpEngine

variable {σ : Type} {handler : Handler σ} {maxPayload : Nat}

/-- What follows upon a request of a stream fits if the stream does. -/
theorem HeadsFit.next {stream : Bytes} (fits : HeadsFit maxPayload stream) {request : Request}
    {consumed : Nat} (decoded : decodeRequest maxPayload stream = .message request consumed) :
    HeadsFit maxPayload (stream.drop consumed) :=
  fun requests rest these => fits (request :: requests) rest (.next decoded these)

/-- The first head of a stream fits if the stream does. -/
theorem HeadsFit.first {stream : Bytes} (fits : HeadsFit maxPayload stream) :
    headExtent stream ≤ maxHeadLength :=
  fits [] stream (.none stream)

namespace Turn

/-- A turn that leaves the session open goes on with what it left, when more bytes have come. -/
theorem take_append_of_open {kept : σ} {buffer : Bytes}
    (isOpen : (take handler maxPayload kept buffer).closes = false) (later : Bytes) :
    take handler maxPayload kept (buffer ++ later) =
      (take handler maxPayload (take handler maxPayload kept buffer).kept
        ((take handler maxPayload kept buffer).rest ++ later)).behind
          (take handler maxPayload kept buffer).calls := by
  -- Every request of the first turn is decoded again, and leaves the later bytes where they are.
  fun_induction take handler maxPayload kept buffer with
  | case1 kept buffer waits => rfl
  | case2 kept buffer error fails => cases isOpen
  | case3 kept buffer request consumed comes call next keeps ih =>
    -- The same request comes first, and what is behind it is a shorter buffer.
    rw [closes_behind (by simp [keeps])] at isOpen
    rw [take_message (decodeRequest_append_message comes later), if_pos keeps,
      List.drop_append_of_le_length (decodeRequest_consumed comes).2, ih isOpen]
    rfl
  | case4 kept buffer request consumed comes call next shut =>
    -- The call closed the session.
    simp [closes, shut] at isOpen

/-- A turn that closes the session is what the whole stream comes to. -/
theorem take_append_of_closes {kept : σ} {buffer later : Bytes}
    (fits : HeadsFit maxPayload (buffer ++ later))
    (ends : (take handler maxPayload kept buffer).closes = true) :
    (take handler maxPayload kept (buffer ++ later)).calls =
        (take handler maxPayload kept buffer).calls ∧
      (take handler maxPayload kept (buffer ++ later)).refusal =
        (take handler maxPayload kept buffer).refusal := by
  -- The induction follows the requests of the first turn, up to the one that ends it.
  fun_induction take handler maxPayload kept buffer with
  | case1 kept buffer waits => cases ends
  | case2 kept buffer error fails =>
    -- More bytes may give another reason for the refusal, but not another status.
    rcases failed_append_of_headExtent_le fails fits.first with again | ⟨rfl, fault, again⟩
    · rw [take_failed again]
      exact ⟨rfl, rfl⟩
    · rw [take_failed again]
      exact ⟨rfl, rfl⟩
  | case3 kept buffer request consumed comes call next keeps ih =>
    -- The heads behind the request fit as well.
    have again := decodeRequest_append_message comes later
    have others := fits.next again
    rw [List.drop_append_of_le_length (decodeRequest_consumed comes).2] at others
    rw [closes_behind (by simp [keeps])] at ends
    obtain ⟨calls, refusal⟩ := ih others ends
    rw [take_message again, if_pos keeps,
      List.drop_append_of_le_length (decodeRequest_consumed comes).2]
    exact ⟨congrArg (call :: ·) calls, refusal⟩
  | case4 kept buffer request consumed comes call next shut =>
    -- The same call closes the session, and later bytes are not looked at.
    rw [take_message (decodeRequest_append_message comes later), if_neg shut]
    exact ⟨rfl, rfl⟩

end Turn

/-- A piece of a stream as it is delivered: it arrives, is answered, and some output goes out. -/
structure Delivery where
  arrival : Arrival
  now : Instant
  departure : Departure

/--
Deliveries that together make a stream, and end it if it ends.

The end comes with the last piece, or by itself after it.
-/
inductive Cut : List Delivery → Bytes → Bool → Prop where
  | nothing : Cut [] [] false
  | piece {deliveries : List Delivery} {stream : Bytes} {ended : Bool} (bytes : Bytes)
      (now : Instant) (departure : Departure) (others : Cut deliveries stream ended) :
      Cut (⟨⟨bytes, .blocked⟩, now, departure⟩ :: deliveries) (bytes ++ stream) ended
  | ending (bytes : Bytes) (now : Instant) (departure : Departure) :
      Cut [⟨⟨bytes, .closed⟩, now, departure⟩] bytes true

namespace Service

/-- Takes in a piece, answers what can be answered, and gives out some of the output. -/
def deliver (handler : Handler σ) (maxPayload : Nat) (service : Service σ) (delivery : Delivery) :
    Service σ :=
  ((service.fill delivery.arrival).dispatch handler maxPayload delivery.now).flush delivery.departure

/-- Deliveries, one after the other. -/
def deliverAll (handler : Handler σ) (maxPayload : Nat) (service : Service σ)
    (deliveries : List Delivery) : Service σ :=
  deliveries.foldl (deliver handler maxPayload) service

/-- A service shows a turn: the same calls, the same output, and the same end. -/
structure Shows (service : Service σ) (turn : Turn σ) (closes : Bool) : Prop where
  calls : service.calls = turn.calls
  output : service.output = turn.output
  closing : service.session.closing = closes

/-- A service that has seen some bytes and is open has exactly their turn behind it. -/
structure Follows (handler : Handler σ) (maxPayload : Nat) (kept : σ) (bytes : Bytes)
    (service : Service σ) : Prop where
  shows : service.Shows (Turn.take handler maxPayload kept bytes) false
  isOpen : (Turn.take handler maxPayload kept bytes).closes = false
  memory : service.kept = (Turn.take handler maxPayload kept bytes).kept
  rest : service.session.readBuffer = (Turn.take handler maxPayload kept bytes).rest
  peer : service.session.peerClosed = false

/-- A delivery to a service that is closing changes nothing that is shown. -/
theorem shows_deliver_of_closing {service : Service σ} {turn : Turn σ}
    (shows : service.Shows turn true) (delivery : Delivery) :
    (service.deliver handler maxPayload delivery).Shows turn true := by
  -- The bytes come in, but nothing looks at them any more.
  have closing : (service.fill delivery.arrival).session.closing = true := shows.closing
  obtain ⟨ends, _, calls, output, _⟩ :=
    dispatch_of_closing handler maxPayload closing delivery.now
  exact ⟨calls.trans shows.calls, (output_flush _ _).trans (output.trans shows.output), ends⟩

/-- Deliveries to a service that is closing change nothing that is shown. -/
theorem shows_deliverAll_of_closing {turn : Turn σ} (deliveries : List Delivery)
    {service : Service σ} (shows : service.Shows turn true) :
    (service.deliverAll handler maxPayload deliveries).Shows turn true := by
  induction deliveries generalizing service with
  | nil => exact shows
  | cons delivery rest ih => exact ih (shows_deliver_of_closing shows delivery)

/-- A delivery to an open service shows the turn at all the bytes that have come. -/
theorem shows_deliver {kept : σ} {bytes : Bytes} {service : Service σ}
    (follows : service.Follows handler maxPayload kept bytes) (delivery : Delivery) :
    (service.deliver handler maxPayload delivery).Shows
      (Turn.take handler maxPayload kept (bytes ++ delivery.arrival.bytes))
      ((Turn.take handler maxPayload kept (bytes ++ delivery.arrival.bytes)).closes ||
        delivery.arrival.ending == .closed) ∧
    (service.deliver handler maxPayload delivery).kept =
      (Turn.take handler maxPayload kept (bytes ++ delivery.arrival.bytes)).kept ∧
    (service.deliver handler maxPayload delivery).session.readBuffer =
      (Turn.take handler maxPayload kept (bytes ++ delivery.arrival.bytes)).rest ∧
    (service.deliver handler maxPayload delivery).session.peerClosed =
      (delivery.arrival.ending == .closed) := by
  -- The service goes on with what the turn so far has left, and so does the longer turn.
  have isOpen : (service.fill delivery.arrival).session.closing = false := follows.shows.closing
  obtain ⟨closing, memory, calls, output, _, rest, peer⟩ :=
    dispatch_of_open handler maxPayload isOpen delivery.now
  have buffer : (service.fill delivery.arrival).session.readBuffer =
      (Turn.take handler maxPayload kept bytes).rest ++ delivery.arrival.bytes :=
    congrArg (· ++ delivery.arrival.bytes) follows.rest
  have before : (service.fill delivery.arrival).kept =
      (Turn.take handler maxPayload kept bytes).kept := follows.memory
  have ended : (service.fill delivery.arrival).session.peerClosed =
      (delivery.arrival.ending == .closed) := by
    show (service.session.peerClosed || _) = _
    rw [follows.peer, Bool.false_or]
  -- What has been called and written so far stands in front of what this delivery adds.
  have called : (service.fill delivery.arrival).calls =
      (Turn.take handler maxPayload kept bytes).calls := follows.shows.calls
  obtain ⟨unrefused, clean⟩ := Turn.closes_eq_false_iff.1 follows.isOpen
  rw [buffer, before] at closing memory calls output rest
  rw [Turn.take_append_of_open follows.isOpen delivery.arrival.bytes,
    Turn.closes_behind (List.all_eq_true.2 clean)]
  refine ⟨⟨?_, ?_, ?_⟩, memory, rest, peer.trans ended⟩
  · rw [called] at calls
    exact calls
  · rw [deliver, output_flush, output, output_fill, follows.shows.output, Turn.output_behind,
      Turn.output, unrefused, refusalBytes, List.append_nil]
  · rw [ended] at closing
    exact closing

/-- A service that follows some bytes shows, at the end of a cut, the turn at everything. -/
theorem shows_deliverAll {deliveries : List Delivery} {stream : Bytes} {ended : Bool}
    (cut : Cut deliveries stream ended) {kept : σ} {bytes : Bytes} {service : Service σ}
    (follows : service.Follows handler maxPayload kept bytes)
    (fits : HeadsFit maxPayload (bytes ++ stream)) :
    (service.deliverAll handler maxPayload deliveries).Shows
      (Turn.take handler maxPayload kept (bytes ++ stream))
      ((Turn.take handler maxPayload kept (bytes ++ stream)).closes || ended) := by
  induction cut generalizing bytes service with
  | nothing =>
    -- The service is open, as it was.
    rw [List.append_nil, follows.isOpen]
    exact follows.shows
  | ending last now departure => exact (shows_deliver follows _).1
  | @piece others stream ended first now departure _ ih =>
    -- Either the piece leaves the session open, or nothing behind it matters.
    obtain ⟨shows, memory, rest, peer⟩ :=
      shows_deliver follows ⟨⟨first, .blocked⟩, now, departure⟩
    rw [← List.append_assoc] at fits ⊢
    cases ends : (Turn.take handler maxPayload kept (bytes ++ first)).closes with
    | false =>
      rw [ends] at shows
      exact ih ⟨shows, ends, memory, rest, peer⟩ fits
    | true =>
      -- From here on nothing changes, and the turn at the whole stream ends at the same place.
      rw [ends] at shows
      obtain ⟨calls, refusal⟩ := Turn.take_append_of_closes fits ends
      have same : service.deliver handler maxPayload ⟨⟨first, .blocked⟩, now, departure⟩ |>.Shows
          (Turn.take handler maxPayload kept (bytes ++ first ++ stream)) true := by
        refine ⟨shows.calls.trans calls.symm, shows.output.trans ?_, shows.closing⟩
        rw [Turn.output, Turn.output, calls, refusal]
      have whole :
          (Turn.take handler maxPayload kept (bytes ++ first ++ stream)).closes = true := by
        rw [Turn.closes, calls, refusal]
        exact ends
      rw [whole]
      exact shows_deliverAll_of_closing others same

/-- A new session shows, at the end of a cut, the turn at the stream. -/
theorem shows_deliverAll_opened (handler : Handler σ) {deliveries : List Delivery}
    {stream : Bytes} {ended : Bool} (cut : Cut deliveries stream ended)
    (fits : HeadsFit maxPayload stream) (kept : σ) (now : Instant) :
    ((opened kept now).deliverAll handler maxPayload deliveries).Shows
      (Turn.take handler maxPayload kept stream)
      ((Turn.take handler maxPayload kept stream).closes || ended) := by
  -- No bytes have come yet, and their turn is empty.
  have start : Turn.take handler maxPayload kept [] = ⟨[], kept, none, []⟩ :=
    Turn.take_incomplete rfl
  have follows : (opened kept now).Follows handler maxPayload kept [] := by
    refine ⟨⟨?_, ?_, rfl⟩, ?_, ?_, ?_, rfl⟩ <;> rw [start] <;> rfl
  exact shows_deliverAll cut follows fits

/--
However a stream is cut, the handler is called with the same requests and does the same, the same
bytes are written, and the session is closing or not. The requests are those that the stream begins
with, and all that are complete unless a call ends the session. The session is closing for nothing
but the end of the stream, such a call, or something behind the requests that is refused.

No head in the stream may be longer than a head can be while its end is awaited.
-/
theorem served_alike {stream : Bytes} {ended : Bool} {first second : List Delivery}
    (fits : HeadsFit maxPayload stream) (cut : Cut first stream ended)
    (otherCut : Cut second stream ended) (handler : Handler σ) (kept : σ) (now later : Instant) :
    let one := (opened kept now).deliverAll handler maxPayload first
    let other := (opened kept later).deliverAll handler maxPayload second
    one.calls = other.calls ∧ one.output = other.output ∧
      one.session.closing = other.session.closing ∧
      ∃ rest, RequestsOf maxPayload stream (one.calls.map Call.request) rest ∧
        (one.session.closing = false → decodeRequest maxPayload rest = .incomplete) ∧
        ((∀ call ∈ one.calls, call.keepsOpen = true) →
          ∀ request consumed, decodeRequest maxPayload rest ≠ .message request consumed) ∧
        (one.session.closing = true ↔ ended = true ∨
          (∃ call ∈ one.calls, call.keepsOpen = false) ∨
          ∃ error, decodeRequest maxPayload rest = .failed error) := by
  intro one other
  -- Both show the turn at the whole stream.
  have shows := shows_deliverAll_opened handler cut fits kept now
  have showsToo := shows_deliverAll_opened handler otherCut fits kept later
  obtain ⟨rest, these, left, ends⟩ := Turn.requestsOf_take handler maxPayload kept stream
  have closing : one.session.closing =
      ((Turn.take handler maxPayload kept stream).closes || ended) := shows.closing
  -- What a turn leaves that does not close the session is no complete request.
  have waits (isOpen : (Turn.take handler maxPayload kept stream).closes = false) :
      decodeRequest maxPayload rest = .incomplete := by
    rw [left isOpen]
    exact Turn.incomplete_of_open isOpen
  rw [← shows.calls] at these ends
  refine ⟨shows.calls.trans showsToo.calls.symm, shows.output.trans showsToo.output.symm,
    shows.closing.trans showsToo.closing.symm, rest, these, fun isOpen => ?_,
    fun clean request consumed comes => ?_, ?_⟩
  · rw [isOpen, eq_comm, Bool.or_eq_false_iff] at closing
    exact waits closing.1
  · -- If no call ends the session, the turn does so for a fault, or waits for more.
    cases shut : (Turn.take handler maxPayload kept stream).closes with
    | false =>
      rw [waits shut] at comes
      cases comes
    | true =>
      rcases ends.1 shut with ⟨call, called, unclean⟩ | ⟨error, fails⟩
      · rw [clean call called] at unclean
        cases unclean
      · rw [fails] at comes
        cases comes
  · rw [closing, Bool.or_eq_true, ends, or_comm]

/-- A line end of the second request may be cut in two, or the whole stream come at once. -/
theorem served_alike_cut_line_end :
    let front := utf8Bytes "GET /a HTTP/1.1\r\n\r\nGET /b HTTP/1.1\r"
    let back := utf8Bytes "\n\r\n"
    let halves : List Delivery :=
      [⟨⟨front, .blocked⟩, ⟨1⟩, ⟨7, none⟩⟩, ⟨⟨back, .closed⟩, ⟨2⟩, ⟨0, none⟩⟩]
    let whole : List Delivery := [⟨⟨front ++ back, .closed⟩, ⟨3⟩, ⟨0, none⟩⟩]
    let handler : Handler Nat := fun count _ => (⟨[.send .ok [0x61]], false⟩, count + 1)
    HeadsFit 0 (front ++ back) ∧ Cut halves (front ++ back) true ∧ Cut whole (front ++ back) true ∧
      ((opened 0 ⟨0⟩).deliverAll handler 0 halves).calls =
        ((opened 0 ⟨0⟩).deliverAll handler 0 whole).calls ∧
      ((opened 0 ⟨0⟩).deliverAll handler 0 halves).output =
        ((opened 0 ⟨0⟩).deliverAll handler 0 whole).output ∧
      ((opened 0 ⟨0⟩).deliverAll handler 0 halves).session.closing =
        ((opened 0 ⟨0⟩).deliverAll handler 0 whole).session.closing := by
  intro front back halves whole handler
  have fits : HeadsFit 0 (front ++ back) := headsFit_of_length_le (by decide +kernel)
  have inHalves : Cut halves (front ++ back) true := .piece front _ _ (.ending back _ _)
  have atOnce : Cut whole (front ++ back) true := .ending _ _ _
  obtain ⟨calls, output, closing, _⟩ := served_alike fits inHalves atOnce handler 0 ⟨0⟩ ⟨0⟩
  exact ⟨fits, inHalves, atOnce, calls, output, closing⟩

end Service

end HttpEngine
