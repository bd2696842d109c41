import HttpEngine.Proofs.Outbound.Regular

/-!
Responses go to their own requests. Every response that comes over a connection is read from what
arrived since the exchange on it was started, and settles the promise of that exchange; and no
promise is resolved in any other way.
-/

namespace HttpEngine

/-- Whether an event tells of a response. -/
def Transit.isAnswer : Transit → Bool
  | answered .. => true
  | settled _ (.ok _) => true
  | _ => false

/-- Handing out exchanges answers none of them. -/
theorem Transit.isAnswer_of_isHandover {note : Transit} (handover : note.isHandover = true) :
    note.isAnswer = false := by
  cases note with
  | settled promise outcome =>
    cases outcome with
    | ok response => cases handover
    | error error => rfl
  | answered key response => cases handover
  | _ => rfl

namespace Journal

/-- How a response belongs to the exchange that is under way on its connection. -/
structure Answers (before : List Transit) (key : Nat) (response : Response)
    (exchange : Exchange) : Prop where
  /-- As many exchanges were started before it as responses came. -/
  turn : ∃ found, line before key = some found ∧ found.carried = some exchange ∧
    found.asked[found.told.length]? = some exchange
  /-- The response is read from what arrived since the exchange was started, and nothing else. -/
  read : ∃ earlier between ended consumed, before = earlier ++ .started key exchange :: between ∧
    (∀ note ∈ between, note.turns key = false) ∧
    decodeResponse (exchange.request.method == .head) ended (bytesOver between key) =
      .message response consumed

/-- A response belongs to the exchange that is under way, in a proper journal. -/
theorem Proper.answers {journal before after : List Transit} (proper : Proper journal)
    {key : Nat} {response : Response}
    (whole : journal = before ++ .answered key response :: after) :
    ∃ exchange, Answers before key response exchange := by
  -- A response is the answer to what its connection carries.
  obtain ⟨found, exchange, ended, consumed, there, carried, latest, decoded⟩ :=
    proper before _ after whole
  obtain ⟨earlier, first, between, rfl, begun, quiet, unread⟩ := exists_start there carried
  -- Nothing was unread when the exchange was started.
  obtain ⟨known, same, _, clean⟩ := proper earlier (.started key exchange)
    (between ++ .answered key response :: after) (by simp [whole])
  rw [begun] at same
  cases same
  rw [unread, clean, List.nil_append] at decoded
  exact ⟨exchange, ⟨found, there, carried, latest⟩, earlier, between, ended, consumed, rfl, quiet,
    decoded⟩

/-- A journal in which every response is passed on, and nothing else is. -/
structure Told (journal : List Transit) : Prop where
  passed : ∀ before key response after, journal = before ++ .answered key response :: after →
    ∀ found exchange, line before key = some found → found.carried = some exchange →
      .settled exchange.promise (.ok response) ∈ after
  owed : ∀ before promise response after,
    journal = before ++ .settled promise (.ok response) :: after →
      ∃ earlier key later found exchange, before = earlier ++ .answered key response :: later ∧
        line earlier key = some found ∧ found.carried = some exchange ∧
        exchange.promise = promise

namespace Told

variable {journal notes : List Transit}

/-- What tells of no response changes nothing. -/
theorem append (told : Told journal) (quiet : ∀ note ∈ notes, note.isAnswer = false) :
    Told (journal ++ notes) := by
  have absent : ∀ note : Transit, note.isAnswer = true → note ∉ notes := by
    intro note answer member
    rw [quiet note member] at answer
    cases answer
  -- The events that count stand in the old journal, and have the same events in front of them.
  constructor
  · intro before key response after whole found exchange there carried
    obtain ⟨rest, split, rfl⟩ := split_of_not_mem whole (absent _ rfl)
    exact List.mem_append_left _
      (told.passed before key response rest split found exchange there carried)
  · intro before promise response after whole
    obtain ⟨rest, split, rfl⟩ := split_of_not_mem whole (absent _ rfl)
    exact told.owed before promise response rest split

/-- A response comes, and is passed on to the exchange that is under way. -/
theorem answer (told : Told journal) (between : List Transit) {key : Nat} {response : Response}
    {found : Line} {exchange : Exchange} (there : line journal key = some found)
    (carried : found.carried = some exchange)
    (quiet : ∀ note ∈ between, note.isAnswer = false) :
    Told (journal ++ (.answered key response ::
      (between ++ [.settled exchange.promise (.ok response)]))) := by
  have absent : ∀ note : Transit, note.isAnswer = true → note ∉ between := by
    intro note answer member
    rw [quiet note member] at answer
    cases answer
  constructor
  · intro before other told_ after whole known waiting line_ under
    rcases split_append whole with ⟨rest, split, rfl⟩ | ⟨more, rfl, split⟩
    · -- The response came before.
      exact List.mem_append_left _
        (told.passed before other told_ rest split known waiting line_ under)
    · cases more with
      | nil =>
        -- This is the response.
        cases split
        rw [List.append_nil, there] at line_
        cases line_
        rw [carried] at under
        cases under
        simp
      | cons first more =>
        obtain ⟨rest, inside, _⟩ := split_of_not_mem (List.cons.inj split).2 (by simp)
        exact absurd (by simp [inside]) (absent (.answered other told_) rfl)
  · -- A settlement with a response is an old one, or the last note of all.
    intro before promise told_ after whole
    rcases split_append whole with ⟨rest, split, rfl⟩ | ⟨more, rfl, split⟩
    · exact told.owed before promise told_ rest split
    · cases more with
      | nil => cases split
      | cons first more =>
        obtain ⟨same, behind⟩ := List.cons.inj split
        rcases split_append behind with ⟨rest, inside, _⟩ | ⟨last, rfl, single⟩
        · exact absurd (by simp [inside]) (absent (.settled promise (.ok told_)) rfl)
        · -- This is the settlement with the response.
          obtain ⟨rfl, ⟨⟩⟩ := (List.append_eq_singleton_iff.1 single.symm).resolve_right (by simp)
          exact ⟨journal, key, between, found, exchange, by simp [← same], there, carried, rfl⟩

end Told

end Journal

namespace Dispatcher

variable {dispatcher next : Dispatcher} {net : Nat → HandoverIo}

/-- An exchange that comes in has no response yet. -/
theorem Entry.told {exchange : Exchange} (entry : dispatcher.Entry exchange next)
    (told : Journal.Told dispatcher.journal) : Journal.Told next.journal := by
  -- An exchange that comes in is no answer, whether or not it is admitted.
  cases entry with
  | refused error =>
    have came : Journal.Told (dispatcher.journal ++ [.received exchange]) :=
      told.append (by simp [Transit.isAnswer])
    exact came.append (by simp [Transit.isAnswer])
  | admitted found =>
    have came : Journal.Told (dispatcher.journal ++ [.received exchange]) :=
      told.append (by simp [Transit.isAnswer])
    exact came

/-- No pump brings a response. -/
theorem told_pump (told : Journal.Told dispatcher.journal) (accounted : dispatcher.Accounted)
    (host : String) : Journal.Told (dispatcher.pump net host).journal := by
  obtain ⟨notes, journal, kinds⟩ := notes_pump net host accounted
  rw [journal]
  exact told.append fun note member => Transit.isAnswer_of_isHandover (kinds note member)

/-- Every stride passes its response on. -/
theorem Stride.told (stride : dispatcher.Stride net next) (regular : dispatcher.Regular)
    (told : Journal.Told dispatcher.journal) : Journal.Told next.journal := by
  have accounted := regular.accounted
  -- Only the two strides that answer bring an answer into the journal.
  cases stride with
  | discovered absent address => exact told
  | pumped host => exact told_pump told accounted host
  | tended present connected still writeBuffer => exact told
  | filled present arrival harmless => exact told.append (by simp [Transit.isAnswer])
  | spoiled present free bytes =>
    rw [accounted.journal_drop present]
    exact told.append (by simp [Transit.isAnswer])
  | closed present free =>
    rw [accounted.journal_drop present]
    exact told.append (by simp [Transit.isAnswer])
  | lost present parting =>
    rename_i key connection error ended
    refine told_pump ?_ (parting.leads.accounted accounted) connection.authority
    -- The connection that ends leaves errors behind and no answer.
    obtain ⟨notes, journal, kinds⟩ := parting.notes accounted
    rw [journal]
    refine told.append fun note member => ?_
    rcases List.mem_cons.1 member with rfl | member
    · rfl
    · obtain ⟨promise, rfl⟩ | ⟨exchange, rfl⟩ := kinds note member <;> rfl
  | answered present carried connected decoded reusable =>
    rename_i key connection polled exchange response consumed
    obtain ⟨found, there, shows_⟩ := regular.recorded.live present
    have freed : dispatcher.Move [] _ _ := .answered present carried connected decoded reusable
    obtain ⟨notes, journal, kinds⟩ :=
      notes_pump net connection.authority (freed.accounted accounted)
    -- The settlement stands behind what the pump notes.
    rw [settle, record, journal, modifyPool, record, setConnection, List.append_assoc,
      List.append_assoc]
    exact told.answer notes there (shows_.carried.trans carried)
      fun note member => Transit.isAnswer_of_isHandover (kinds note member)
  | answeredLast present carried decoded =>
    rename_i key connection polled exchange response consumed
    obtain ⟨found, there, shows_⟩ := regular.recorded.live present
    have freed : dispatcher.Move [] _ _ := .answeredLast present carried decoded
    obtain ⟨notes, journal, kinds⟩ :=
      notes_pump net connection.authority (freed.accounted accounted)
    rw [settle, record, journal, accounted.journal_drop present, List.append_assoc,
      List.append_assoc]
    -- The connection is closed between the answer and its settlement.
    refine told.answer (.closed key :: notes) there (shows_.carried.trans carried)
      fun note member => ?_
    rcases List.mem_cons.1 member with rfl | member
    · rfl
    · exact Transit.isAnswer_of_isHandover (kinds note member)
  | overdue now =>
    rw [expireQueues, rejectAll_eq]
    refine told.append fun note member => ?_
    obtain ⟨exchange, _, rfl⟩ := List.mem_map.1 member
    rfl

/-- Whatever the errands are, every response is passed on, and nothing else is. -/
theorem told_attendAll (net : Nat → HandoverIo) (most : Nat) (keepAlive : Bool)
    (errands : List Errand) :
    ((fresh most keepAlive).attendAll net errands).Regular ∧
      Journal.Told ((fresh most keepAlive).attendAll net errands).journal :=
  regular_attendAll (fun reached => Journal.Told reached.journal) net
    (fun _ _ regular stride told => stride.told regular told)
    (fun _ _ _ entry told => entry.told told) errands (.fresh most keepAlive)
    ⟨fun _ _ _ _ whole => by simp [fresh] at whole, fun _ _ _ _ whole => by simp [fresh] at whole⟩

/--
Responses go to their own requests, whatever the errands are.

The journal tells of every connection what it carries and what it has read. An exchange is started
only on a connection that carries nothing and has read nothing. The responses that come over a
connection belong to the exchanges that were started on it, the first to the first and so on. Each
is read, as a response to its exchange, from the bytes that arrived after that exchange was started,
and settles its promise. No promise is resolved otherwise.
-/
theorem responses_to_their_requests (net : Nat → HandoverIo) (most : Nat) (keepAlive : Bool)
    (errands : List Errand) :
    let dispatcher := (fresh most keepAlive).attendAll net errands
    (∀ key connection, dispatcher.connections.get? key = some connection →
      ∃ found, Journal.line dispatcher.journal key = some found ∧
        found.carried = connection.exchange ∧ found.unread = connection.readBuffer ∧
        found.told.length = connection.served) ∧
    (∀ before key exchange after, dispatcher.journal = before ++ .started key exchange :: after →
      ∃ found, Journal.line before key = some found ∧ found.carried = none ∧
        found.unread = []) ∧
    (∀ before key response after, dispatcher.journal = before ++ .answered key response :: after →
      ∃ exchange, Journal.Answers before key response exchange ∧
        .settled exchange.promise (.ok response) ∈ after) ∧
    ∀ before promise response after,
      dispatcher.journal = before ++ .settled promise (.ok response) :: after →
        ∃ earlier key later exchange, before = earlier ++ .answered key response :: later ∧
          Journal.Answers earlier key response exchange ∧ exchange.promise = promise := by
  intro dispatcher
  -- Every stride keeps the journal true, proper, and complete in what it passes on.
  obtain ⟨regular, told⟩ := told_attendAll net most keepAlive errands
  have proper := regular.recorded.proper
  refine ⟨fun key connection present => ?_, fun before key exchange after whole =>
    proper before _ after whole, fun before key response after whole => ?_,
    fun before promise response after whole => ?_⟩
  · obtain ⟨found, there, shows_⟩ := regular.recorded.live present
    exact ⟨found, there, shows_.carried, shows_.unread, shows_.served⟩
  · obtain ⟨exchange, answers⟩ := proper.answers whole
    obtain ⟨found, there, carried, _⟩ := answers.turn
    exact ⟨exchange, answers, told.passed before key response after whole found exchange there
      carried⟩
  · obtain ⟨earlier, key, later, found, exchange, rfl, there, carried, same⟩ :=
      told.owed before promise response after whole
    rw [List.append_assoc, List.cons_append] at whole
    obtain ⟨other, answers⟩ := proper.answers whole
    -- Only one exchange is under way on the connection.
    obtain ⟨line, there_, under, _⟩ := answers.turn
    rw [there] at there_
    cases there_
    rw [carried] at under
    cases under
    exact ⟨earlier, key, later, exchange, rfl, answers, same⟩

end Dispatcher

end HttpEngine
