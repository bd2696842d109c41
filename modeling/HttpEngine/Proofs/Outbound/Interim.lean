import HttpEngine.Proofs.Outbound.Answers
import HttpEngine.Proofs.Outbound.Cause
import HttpEngine.Proofs.Outbound.Retry
import HttpEngine.Proofs.Wire.ResponseStream

/-!
Servers that send interim responses before the final one. The first response that comes over a
connection is taken for the answer to the exchange that is under way there, be it interim or final.
What stands behind it is read for another exchange only if nothing of it was there yet when the
first response was taken.
-/

namespace HttpEngine

/-- Whether a status tells that another response will come. -/
def Status.isInterim (status : Status) : Bool :=
  decide (100 ≤ status.code) && decide (status.code < 200) && status.code != 101

/--
What a server sends for one request: any number of interim responses and then a final one, each with
the bytes that it takes.
-/
structure ServerStream (toHead : Bool) where
  interim : List (Response × Bytes)
  final : Response × Bytes
  whole : ∀ part ∈ interim ++ [final],
    decodeResponse toHead false part.2 = .message part.1 part.2.length
  informs : ∀ part ∈ interim, part.1.status.isInterim = true
  concludes : 200 ≤ final.1.status.code
  /-- The final response says how long it is. -/
  measured : (final.1.headers.get? "content-length").isSome = true

namespace ServerStream

variable {toHead : Bool} (stream : ServerStream toHead)

/-- All that the server sends. -/
def bytes : Bytes := (stream.interim ++ [stream.final]).flatMap (·.2)

/-- The response that comes first, interim or final. -/
def first : Response × Bytes := stream.interim.headD stream.final

/-- The first response is one of the parts, and stands in front of all that follow. -/
theorem exists_rest : ∃ rest, stream.interim ++ [stream.final] = stream.first :: rest := by
  unfold first
  cases stream.interim with
  | nil => exact ⟨[], rfl⟩
  | cons part others => exact ⟨others ++ [stream.final], rfl⟩

/-- The first response is whole. -/
theorem decode_first :
    decodeResponse toHead false stream.first.2 = .message stream.first.1 stream.first.2.length := by
  obtain ⟨rest, parts⟩ := stream.exists_rest
  exact stream.whole stream.first (parts ▸ List.mem_cons_self)

/-- The stream begins with the first response. -/
theorem first_prefix : stream.first.2 <+: stream.bytes := by
  obtain ⟨rest, parts⟩ := stream.exists_rest
  rw [bytes, parts, List.flatMap_cons]
  exact List.prefix_append _ _

/-- Without an interim response, the first one is all that there is. -/
theorem first_eq_bytes (direct : stream.interim = []) : stream.first.2 = stream.bytes := by
  simp [first, bytes, direct]

/-- Whoever has heard some of the stream has heard a part of the first response, or all of it. -/
theorem heard_or {heard : Bytes} (begins : heard <+: stream.bytes) :
    (heard.length < stream.first.2.length ∧ heard <+: stream.first.2) ∨
      stream.first.2 <+: heard := by
  rcases Nat.lt_or_ge heard.length stream.first.2.length with short | long
  · exact .inl ⟨short, List.prefix_of_prefix_length_le begins stream.first_prefix
      (Nat.le_of_lt short)⟩
  · exact .inr (List.prefix_of_prefix_length_le stream.first_prefix begins long)

/-- Who has heard all of the first response decodes it, whatever else was heard. -/
theorem decode_heard {heard : Bytes} (long : stream.first.2 <+: heard) (ended : Bool) :
    decodeResponse toHead ended heard = .message stream.first.1 stream.first.2.length := by
  obtain ⟨later, rfl⟩ := long
  exact decodeResponse_append stream.decode_first ended later

/-- Who has heard a part of the first response waits for more, unless the part is refused. -/
theorem decode_part {heard : Bytes} (part : heard <+: stream.first.2)
    (short : heard.length < stream.first.2.length) (ended : Bool) :
    decodeResponse toHead ended heard = .incomplete ∨
      ∃ reason, decodeResponse toHead ended heard = .malformed reason ∧
        Truncated ended stream.first.2 reason := by
  obtain ⟨later, whole⟩ := part
  have decoded := stream.decode_first
  rw [← whole] at decoded short ⊢
  exact decodeResponse_part_or decoded (by simpa using short) ended

end ServerStream

namespace ServerStream

variable {toHead : Bool} (stream : ServerStream toHead)

/-- A journal in which the final response answers the exchange for which the stream comes. -/
def AnswersLast (journal : List Transit) : Prop :=
  ∀ before key exchange between response after,
    journal = before ++ .started key exchange :: (between ++ .answered key response :: after) →
    toHead = (exchange.request.method == .head) →
    (∀ note ∈ between, note.turns key = false) →
    Journal.bytesOver between key <+: stream.bytes → response = stream.final.1

/--
A journal in which an exchange for which the stream comes is the only one on its connection to which
a response is read from the stream.
-/
def StaysApart (journal : List Transit) : Prop :=
  ∀ before key exchange between later during response after,
    journal = before ++ .started key exchange ::
      (between ++ .started key later :: (during ++ .answered key response :: after)) →
    toHead = (exchange.request.method == .head) → .closed key ∉ between →
    (∀ note ∈ during, note.turns key = false) →
    Journal.bytesOver (between ++ during) key <+: stream.bytes → Journal.bytesOver during key = []

end ServerStream

/--
Why an exchange has no answer although some of a stream was heard, the latest bytes of it in the
reading that came last.
-/
inductive ServerStream.Missed {toHead : Bool} (stream : ServerStream toHead) (exchange : Exchange)
    (heard latest : Bytes) : Error → Prop where
  /-- The transport failed before the first response was there, or as it was completed. -/
  | transport (failure : IoError)
      (short : heard.length < stream.first.2.length + latest.length) :
      Missed stream exchange heard latest (.transport failure)
  /-- Its time was up before the first response was there. -/
  | overdue (short : heard.length < stream.first.2.length) :
      Missed stream exchange heard latest (.timeout exchange.timeout)
  /-- The stream ended within the first response, or the head of that is too long. -/
  | cutShort (short : heard.length < stream.first.2.length) {ended : Bool} {reason : Malformation}
      (truncated : Truncated ended stream.first.2 reason) :
      Missed stream exchange heard latest (.protocol (.undecodable (.malformed reason)))

/-- What becomes of an exchange on a connection over which some of a stream was heard. -/
inductive ServerStream.Fate {toHead : Bool} (stream : ServerStream toHead) (dispatcher : Dispatcher)
    (key : Nat) (exchange : Exchange) (heard latest : Bytes) : List Transit → Prop where
  /-- The connection carries it, and the first response is not there. -/
  | waits {connection : Connection} (present : dispatcher.connections.get? key = some connection)
      (carried : connection.exchange = some exchange)
      (short : heard.length < stream.first.2.length) :
      Fate stream dispatcher key exchange heard latest []
  /--
  It is resolved with the first response. Another exchange is started on the connection only if
  nothing behind that response had come by then, which is all of the stream if none is interim.
  -/
  | answered {after : List Transit} (whole : stream.first.2 <+: heard)
      (settled : .settled exchange.promise (.ok stream.first.1) ∈ after)
      (alone : ∀ quiet later more, after = quiet ++ .started key later :: more →
        (∀ note ∈ quiet, note.turns key = false) →
          heard = stream.first.2 ∧ Journal.bytesOver quiet key = [] ∧
          (stream.interim = [] → heard = stream.bytes)) :
      Fate stream dispatcher key exchange heard latest (.answered key stream.first.1 :: after)
  /-- The connection ended before anything was heard, and the exchange is to be tried again. -/
  | requeued {after : List Transit} (silent : heard = []) :
      Fate stream dispatcher key exchange heard latest
        (.closed key :: .requeued exchange.again :: after)
  /-- The connection ended, and the exchange is rejected. -/
  | rejected {error : Error} {after : List Transit}
      (missed : stream.Missed exchange heard latest error) :
      Fate stream dispatcher key exchange heard latest
        (.closed key :: .settled exchange.promise (.error error) :: after)

section Fate

variable {exchange : Exchange} {heard latest : Bytes}
  (stream : ServerStream (exchange.request.method == .head))

/-- An exchange that waits has not heard all of the first response. -/
theorem ServerStream.short_of_incomplete (begins : heard <+: stream.bytes)
    (incomplete : decodeResponse (exchange.request.method == .head) false heard = .incomplete) :
    heard.length < stream.first.2.length := by
  rcases stream.heard_or begins with ⟨short, _⟩ | long
  · exact short
  · rw [stream.decode_heard long false] at incomplete
    cases incomplete

/-- A response that is read from a stream is the first one. -/
theorem ServerStream.first_of_message (begins : heard <+: stream.bytes) {ended : Bool}
    {response : Response} {consumed : Nat}
    (decoded : decodeResponse (exchange.request.method == .head) ended heard =
      .message response consumed) :
    response = stream.first.1 ∧ stream.first.2 <+: heard := by
  -- A response was read, so that all of the first one was heard.
  rcases stream.heard_or begins with ⟨short, part⟩ | long
  · -- A part of the first response is no response.
    rcases stream.decode_part part short ended with incomplete | ⟨reason, refused, _⟩
    · rw [incomplete] at decoded
      cases decoded
    · rw [refused] at decoded
      cases decoded
  · rw [stream.decode_heard long ended] at decoded
    cases decoded
    exact ⟨rfl, long⟩

/-- A cause to give up is a reason to miss the first response. -/
theorem ServerStream.missed_of_cause (begins : heard <+: stream.bytes) {error : Error}
    (cause : exchange.Cause heard latest error) : stream.Missed exchange heard latest error := by
  cases cause with
  | transport failure unheard =>
    -- What was heard earlier is too short, and the latest bytes are all that came since.
    obtain ⟨earlier, read, waits⟩ := unheard
    have part : earlier <+: stream.bytes := by
      rcases read with rfl | rfl
      · exact begins
      · exact (List.prefix_append _ _).trans begins
    have short := stream.short_of_incomplete part waits
    refine .transport failure ?_
    rcases read with rfl | rfl
    · omega
    · rw [List.length_append]
      omega
  | overdue waits => exact .overdue (stream.short_of_incomplete begins waits)
  | undecodable ended failed =>
    rcases stream.heard_or begins with ⟨short, part⟩ | long
    · rcases stream.decode_part part short ended with incomplete | ⟨reason, refused, truncated⟩
      · rw [incomplete] at failed
        cases failed
      · rw [refused] at failed
        cases failed
        exact .cutShort short truncated
    · -- What begins with a response is not refused.
      rw [stream.decode_heard long ended] at failed
      cases failed

end Fate

namespace Dispatcher

section Turn

variable {dispatcher : Dispatcher} {earlier after : List Transit} {note : Transit} {key : Nat}
  {found : Line} {exchange : Exchange}
  (stream : ServerStream (exchange.request.method == .head))

/-- The next turn where something is under way is a response, or the end of the connection. -/
theorem Watchful.next_turn (watchful : dispatcher.Watchful none)
    (journal : dispatcher.journal = earlier ++ note :: after)
    (there : Journal.line earlier key = some found) (carried : found.carried = some exchange)
    (turns : note.turns key = true) :
    (∃ response, note = .answered key response) ∨ note = .closed key := by
  have allows := watchful.regular.recorded.proper earlier note after journal
  have warranted := watchful.explained earlier note after journal
  cases note with
  | answered other response =>
    -- A note that turns a key is about that key.
    have here : other = key := by simpa [Transit.turns] using turns
    exact .inl ⟨response, by rw [here]⟩
  | closed other =>
    have here : other = key := by simpa [Transit.turns] using turns
    exact .inr (by rw [here])
  | opened other host =>
    -- A connection is opened only where none is.
    have here : other = key := by simpa [Transit.turns] using turns
    subst here
    rw [Journal.Warranted, there] at warranted
    cases warranted
  | started other begun =>
    -- An exchange is started only where nothing is under way.
    have here : other = key := by simpa [Transit.turns] using turns
    subst here
    obtain ⟨known, same, free, _⟩ := allows
    rw [there] at same
    cases same
    rw [carried] at free
    cases free
  | _ => cases turns

/-- Where no turn has followed, the exchange is under way and the first response is not there. -/
theorem Watchful.fate_waits (watchful : dispatcher.Watchful none)
    (there : Journal.line dispatcher.journal key = some found)
    (carried : found.carried = some exchange) (begins : found.unread <+: stream.bytes) :
    stream.Fate dispatcher key exchange found.unread
      (Journal.latest dispatcher.journal key) [] := by
  -- The connection is there as long as its line is, and its answer is waited for.
  cases present : dispatcher.connections.get? key with
  | none =>
    rw [watchful.regular.recorded.gone present] at there
    cases there
  | some connection =>
    obtain ⟨known, same, shows_⟩ := watchful.regular.recorded.live present
    rw [there] at same
    cases same
    have under := shows_.carried.symm.trans carried
    have waits := watchful.waits present under (by simp)
    rw [shows_.unread] at begins ⊢
    exact .waits present under (stream.short_of_incomplete begins waits.incomplete)

/-- A response that comes where the exchange is under way is the first one. -/
theorem Regular.fate_answered (regular : dispatcher.Regular)
    (told : Journal.Told dispatcher.journal) {response : Response}
    (journal : dispatcher.journal = earlier ++ .answered key response :: after)
    (there : Journal.line earlier key = some found) (carried : found.carried = some exchange)
    (begins : found.unread <+: stream.bytes) :
    stream.Fate dispatcher key exchange found.unread (Journal.latest earlier key)
      (.answered key response :: after) := by
  -- What is answered was under way, and what was decoded is the first response.
  have proper := regular.recorded.proper
  have settled := told.passed earlier key response after journal found exchange there carried
  obtain ⟨known, other, ended, consumed, same, under, _, decoded⟩ :=
    proper earlier _ after journal
  rw [there] at same
  cases same
  rw [carried] at under
  cases under
  obtain ⟨rfl, whole⟩ := stream.first_of_message begins decoded
  refine .answered whole settled fun quiet later more split apart => ?_
  -- What stands behind the response is unread when the next exchange is started, so there is none.
  subst split
  obtain ⟨last, same, _, clean⟩ := proper (earlier ++ .answered key stream.first.1 :: quiet)
    (.started key later) more (by simp [journal])
  rw [List.append_cons, Journal.line_append_quiet apart, Journal.line_concat, there] at same
  simp only [Transit.alter, if_true, Option.map_some, Option.some.injEq] at same
  subst same
  obtain ⟨behind, silent⟩ := List.append_eq_nil_iff.1 clean
  have head : found.asksForHead = (exchange.request.method == .head) := by
    rw [Line.asksForHead, carried]
    rfl
  rw [Line.answer, Line.behind, head, stream.decode_heard whole false] at behind
  have long := List.drop_eq_nil_iff.1 behind
  have all : found.unread = stream.first.2 := (whole.eq_of_length_le long).symm
  exact ⟨all, silent, fun direct => all.trans (stream.first_eq_bytes direct)⟩

/-- The end of the connection comes for a reason, or before anything was heard. -/
theorem Watchful.fate_closed (watchful : dispatcher.Watchful none)
    (journal : dispatcher.journal = earlier ++ .closed key :: after)
    (there : Journal.line earlier key = some found) (carried : found.carried = some exchange)
    (begins : found.unread <+: stream.bytes) :
    stream.Fate dispatcher key exchange found.unread (Journal.latest earlier key)
      (.closed key :: after) := by
  have givenUp := watchful.explained earlier _ after journal found exchange there carried
  generalize found.unread = heard, Journal.latest earlier key = latest at *
  cases givenUp with
  | requeued silent => exact .requeued silent
  | rejected cause => exact .rejected (stream.missed_of_cause begins cause)

end Turn

/--
The first response of a stream answers the exchange, interim or final, and is the only part of the
stream that was read when another exchange is started on the connection.

The bytes that came over the connection since the exchange was started are some of what a server
sends for one request. As long as nothing became of the exchange, it is under way, and the first
response is not there. Then the exchange is resolved with the first response, unless its connection
ended: in silence, so that it is tried again, or because its time was up or the transport failed
before the first response was there, because the very reading that completed it failed, because the
stream ended within it, or because its head is too long.
-/
theorem first_response_answers (net : Nat → HandoverIo) (most : Nat) (keepAlive : Bool)
    (errands : List Errand) {before between after : List Transit} {key : Nat} {exchange : Exchange}
    (stream : ServerStream (exchange.request.method == .head))
    (journal : ((fresh most keepAlive).attendAll net errands).journal =
      before ++ .started key exchange :: (between ++ after))
    (quiet : ∀ note ∈ between, note.turns key = false)
    (upToNext : ∀ note ∈ after.head?, note.turns key = true)
    (begins : Journal.bytesOver between key <+: stream.bytes) :
    stream.Fate ((fresh most keepAlive).attendAll net errands) key exchange
      (Journal.bytesOver between key) (Journal.latest between key) after := by
  -- The run keeps the books of the connections and watches over their answers.
  obtain ⟨regular, told⟩ := told_attendAll net most keepAlive errands
  have watchful := watchful_attendAll net errands (.fresh most keepAlive)
  generalize (fresh most keepAlive).attendAll net errands = dispatcher at *
  -- The exchange was started where nothing was unread, so that all that is unread came since.
  obtain ⟨clean, begun, _, nothing⟩ := regular.recorded.proper before _ _ journal
  have there : Journal.line (before ++ .started key exchange :: between) key =
      some ((clean.start exchange).hear (Journal.bytesOver between key)) := by
    rw [List.append_cons, Journal.line_append_quiet quiet, Journal.line_concat, begun]
    simp [Transit.alter]
  have carried : ((clean.start exchange).hear (Journal.bytesOver between key)).carried =
      some exchange := rfl
  have unread : ((clean.start exchange).hear (Journal.bytesOver between key)).unread =
      Journal.bytesOver between key := by
    simp [Line.hear, Line.start, nothing]
  -- Nothing came with the start of the exchange, so that the latest bytes came since, too.
  have latest : Journal.latest (before ++ .started key exchange :: between) key =
      Journal.latest between key := Journal.latest_append_cons rfl before between
  rw [← List.cons_append, ← List.append_assoc] at journal
  rw [← unread] at begins ⊢
  rw [← latest]
  -- What follows upon the start is nothing at all, or the next turn of the key.
  cases after with
  | nil =>
    rw [List.append_nil] at journal
    rw [← journal]
    exact watchful.fate_waits stream (journal ▸ there) carried begins
  | cons note after =>
    rcases watchful.next_turn journal there carried (upToNext note rfl) with ⟨response, rfl⟩ | rfl
    · exact regular.fate_answered stream told journal there carried begins
    · exact watchful.fate_closed stream journal there carried begins

/-- Bytes come over a connection. -/
def brings (key : Nat) (bytes : Bytes) : Errand :=
  .ready key { readable := true, writable := true }
    { departure := wideDeparture, arrival := ⟨bytes, .blocked⟩ }

/-- A server that asks to go on before it answers. -/
def continued : ServerStream ((rootRequest 0).request.method == .head) where
  interim := [({ status := .continueSending }, utf8Bytes "HTTP/1.1 100 Continue\r\n\r\n")]
  final :=
    ({ status := .ok, headers := ⟨[⟨"Content-Length", "2"⟩]⟩, body := utf8Bytes "ok" },
      utf8Bytes "HTTP/1.1 200 OK\r\nContent-Length: 2\r\n\r\nok")
  whole := by decide +kernel
  informs := by decide
  concludes := by decide
  measured := by decide

/-- An interim response comes in two pieces, the second of which brings some of the final one. -/
theorem first_response_answers_interim :
    let pieces : List Bytes := [continued.bytes.take 17, (continued.bytes.drop 17).take 19]
    let dispatcher := (fresh 1 true).attendAll openNet
      (.submit (rootRequest 0) :: pieces.map (brings 0))
    let before : List Transit := [.received (rootRequest 0), .opened 0 "127.0.0.1:80"]
    let between : List Transit := pieces.map (.arrived 0)
    let after : List Transit := [.answered 0 continued.first.1, .closed 0,
      .settled 0 (.ok continued.first.1)]
    dispatcher.journal = before ++ .started 0 (rootRequest 0) :: (between ++ after) ∧
    (∀ note ∈ between, note.turns 0 = false) ∧
    (∀ note ∈ after.head?, note.turns 0 = true) ∧
    Journal.bytesOver between 0 <+: continued.bytes ∧
    continued.Fate dispatcher 0 (rootRequest 0) (Journal.bytesOver between 0)
      (Journal.latest between 0) after := by
  intro pieces dispatcher before between after
  have journal : dispatcher.journal =
      before ++ .started 0 (rootRequest 0) :: (between ++ after) := by
    decide +kernel
  have quiet : ∀ note ∈ between, note.turns 0 = false := by decide +kernel
  have upToNext : ∀ note ∈ after.head?, note.turns 0 = true := by decide +kernel
  have begins : Journal.bytesOver between 0 <+: continued.bytes := by decide +kernel
  exact ⟨journal, quiet, upToNext, begins,
    first_response_answers openNet 1 true _ continued journal quiet upToNext begins⟩

/-- Two requests, and the answer of the server to the first one, which comes in two pieces. -/
def answeredEarly : List Transit :=
  ((fresh 1 true).attendAll openNet [.submit (rootRequest 0), .submit (rootRequest 1),
    brings 0 (continued.bytes.take 25), brings 0 (continued.bytes.drop 25)]).journal

/-- The interim response answers the first request, and the final one answers the second. -/
theorem interim_taken :
    ¬continued.AnswersLast answeredEarly ∧ ¬continued.StaysApart answeredEarly := by
  have journal : answeredEarly =
      [.received (rootRequest 0), .opened 0 "127.0.0.1:80", .started 0 (rootRequest 0),
        .received (rootRequest 1), .arrived 0 (continued.bytes.take 25),
        .answered 0 continued.first.1, .started 0 (rootRequest 1),
        .settled 0 (.ok continued.first.1), .arrived 0 (continued.bytes.drop 25),
        .answered 0 continued.final.1, .settled 1 (.ok continued.final.1)] := by
    decide +kernel
  constructor
  · -- The interim response was answered with, and the final one is behind it.
    intro last
    have same := last [.received (rootRequest 0), .opened 0 "127.0.0.1:80"] 0 (rootRequest 0)
      [.received (rootRequest 1), .arrived 0 (continued.bytes.take 25)] _ _ journal rfl
      (by decide +kernel) (by decide +kernel)
    revert same
    decide
  · intro apart
    have silent := apart [.received (rootRequest 0), .opened 0 "127.0.0.1:80"] 0 (rootRequest 0)
      [.received (rootRequest 1), .arrived 0 (continued.bytes.take 25),
        .answered 0 continued.first.1] (rootRequest 1)
      [.settled 0 (.ok continued.first.1), .arrived 0 (continued.bytes.drop 25)] _ _ journal rfl
      (by decide +kernel) (by decide +kernel) (by decide +kernel)
    revert silent
    decide +kernel

end Dispatcher

end HttpEngine
