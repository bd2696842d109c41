import HttpEngine.Outbound.Dispatcher

/-!
What the journal of a dispatcher says about an exchange: how it was settled, on which connections it
was started, and why it was started again.
-/

namespace HttpEngine

namespace Transit

/-- Whether an exchange with a promise comes in. -/
def receives (promise : Nat) : Transit → Bool
  | received exchange => exchange.promise == promise
  | _ => false

/-- Whether an exchange with a promise is started on a connection. -/
def starts (promise : Nat) : Transit → Bool
  | started _ exchange => exchange.promise == promise
  | _ => false

/-- How a promise is settled, if it is. -/
def settlement? (promise : Nat) : Transit → Option (Outcome Response)
  | settled other outcome => if other = promise then some outcome else none
  | _ => none

/-- The bytes that arrive on a connection. -/
def bytesOver (key : Nat) : Transit → Bytes
  | arrived other bytes => if other = key then bytes else []
  | _ => []

/-- How many responses came over a connection, after one more event. A new connection has none. -/
def countAnswer (key count : Nat) : Transit → Nat
  | opened other _ => if other = key then 0 else count
  | answered other _ => if other = key then count + 1 else count
  | _ => count

end Transit

namespace Journal

/-- How often an exchange with a promise came in. -/
def receipts (journal : List Transit) (promise : Nat) : Nat :=
  journal.countP (Transit.receives promise)

/-- How often an exchange with a promise was started. -/
def starts (journal : List Transit) (promise : Nat) : Nat :=
  journal.countP (Transit.starts promise)

/-- How a promise was settled, one outcome after the other. -/
def settlements (journal : List Transit) (promise : Nat) : List (Outcome Response) :=
  journal.filterMap (Transit.settlement? promise)

/-- The bytes that arrived under a key. -/
def bytesOver (journal : List Transit) (key : Nat) : Bytes :=
  journal.flatMap (Transit.bytesOver key)

/-- How many responses came over the connection that was opened last under a key. -/
def answersOver (journal : List Transit) (key : Nat) : Nat :=
  journal.foldl (Transit.countAnswer key) 0

/--
Why an exchange may be started again after a first start on a connection: responses had come over
the connection before, and it was closed before one byte of an answer had come.
-/
structure Excuses (before : List Transit) (key : Nat) (between : List Transit) : Prop where
  served : 0 < answersOver before key
  unanswered : ∃ during after, between = during ++ .closed key :: after ∧
    .closed key ∉ during ∧ bytesOver during key = []

/-- Whenever an exchange with a promise was started again, there was an excuse. -/
def Excused (journal : List Transit) (promise : Nat) : Prop :=
  ∀ before key exchange between other again after,
    journal = before ++ .started key exchange :: (between ++ .started other again :: after) →
    exchange.promise = promise → again.promise = promise → Excuses before key between

section Append

variable {journal notes : List Transit} {promise key : Nat}

/-- What comes in later is counted later. -/
@[simp] theorem receipts_append :
    receipts (journal ++ notes) promise = receipts journal promise + receipts notes promise :=
  List.countP_append

/-- What is started later is counted later. -/
@[simp] theorem starts_append :
    starts (journal ++ notes) promise = starts journal promise + starts notes promise :=
  List.countP_append

/-- A start is counted if it is one of the promise. -/
@[simp] theorem starts_cons {note : Transit} :
    starts (note :: notes) promise =
      starts notes promise + if note.starts promise = true then 1 else 0 :=
  List.countP_cons

/-- What is settled later comes later. -/
@[simp] theorem settlements_append :
    settlements (journal ++ notes) promise =
      settlements journal promise ++ settlements notes promise :=
  List.filterMap_append

/-- A promise was settled with the outcomes that are noted. -/
theorem mem_settlements {outcome : Outcome Response} :
    outcome ∈ settlements journal promise ↔ .settled promise outcome ∈ journal := by
  rw [settlements, List.mem_filterMap]
  constructor
  · rintro ⟨note, member, found⟩
    cases note with
    | settled other result =>
      rw [Transit.settlement?] at found
      split at found
      · rename_i same
        cases found
        rwa [same] at member
      · cases found
    | _ => cases found
  · exact fun member => ⟨_, member, if_pos rfl⟩

/-- Bytes that arrive later come later. -/
@[simp] theorem bytesOver_append :
    bytesOver (journal ++ notes) key = bytesOver journal key ++ bytesOver notes key :=
  List.flatMap_append

/-- Responses that come later are counted on. -/
theorem answersOver_append :
    answersOver (journal ++ notes) key =
      notes.foldl (Transit.countAnswer key) (answersOver journal key) :=
  List.foldl_append

end Append

section Excused

variable {journal notes : List Transit} {promise : Nat}

/-- A start of a promise is counted. -/
theorem starts_of_promise {exchange : Exchange} (key : Nat) (same : exchange.promise = promise) :
    (Transit.started key exchange).starts promise = true := by
  simp [Transit.starts, same]

/-- An exchange that was started once at most needs no excuse. -/
theorem excused_of_starts_le_one (once : starts journal promise ≤ 1) :
    Excused journal promise := by
  -- Two starts would be counted as two.
  rintro before key exchange between other again after rfl first second
  simp only [starts_append, starts_cons, starts_of_promise key first,
    starts_of_promise other second, if_true] at once
  omega

/-- An event of a longer journal is among those before, or among the last ones. -/
theorem split_append {journal notes front back : List Transit} {event : Transit}
    (whole : journal ++ notes = front ++ event :: back) :
    (∃ rest, journal = front ++ event :: rest ∧ back = rest ++ notes) ∨
      ∃ more, front = journal ++ more ∧ notes = more ++ event :: back := by
  -- The journal ends before the event or behind it.
  rcases List.append_eq_append_iff.1 whole with ⟨more, before, behind⟩ | ⟨more, before, behind⟩
  · exact .inr ⟨more, before, behind⟩
  · cases more with
    | nil =>
      rw [List.append_nil] at before
      exact .inr ⟨[], by rw [before, List.append_nil], behind.symm⟩
    | cons first rest =>
      obtain ⟨rfl, rfl⟩ := List.cons.inj behind
      exact .inl ⟨rest, before, rfl⟩

/-- An event that is not among the last ones is among those before. -/
theorem split_of_not_mem {journal notes front back : List Transit} {event : Transit}
    (whole : journal ++ notes = front ++ event :: back) (absent : event ∉ notes) :
    ∃ rest, journal = front ++ event :: rest ∧ back = rest ++ notes := by
  rcases split_append whole with found | ⟨more, _, behind⟩
  · exact found
  · exact absurd (by simp [behind]) absent

/-- No exchange with a promise is started among events that do not count as starts of it. -/
theorem not_started {key : Nat} {exchange : Exchange} (unstarted : starts notes promise = 0)
    (same : exchange.promise = promise) : .started key exchange ∉ notes := by
  intro member
  have counted := List.countP_pos_iff.2 ⟨_, member, starts_of_promise key same⟩
  rw [starts] at unstarted
  omega

/-- What happens later needs no excuse, as long as nothing is started. -/
theorem Excused.append (excused : Excused journal promise) (unstarted : starts notes promise = 0) :
    Excused (journal ++ notes) promise := by
  -- The last start is not among the notes.
  intro before key exchange between other again after whole first second
  rw [← List.cons_append, ← List.append_assoc] at whole
  obtain ⟨rest, same, _⟩ := split_of_not_mem whole (not_started unstarted second)
  rw [List.append_assoc, List.cons_append] at same
  exact excused before key exchange between other again rest same first second

/-- An excuse stays one. -/
theorem Excuses.append {before between : List Transit} {key : Nat}
    (excuses : Excuses before key between) (notes : List Transit) :
    Excuses before key (between ++ notes) where
  served := excuses.served
  unanswered := by
    obtain ⟨during, after, rfl, open_, silent⟩ := excuses.unanswered
    exact ⟨during, after ++ notes, by simp, open_, silent⟩

end Excused

/--
The only start of a promise was on a connection that is still open, over which a number of responses
had come before, and some bytes have come since.
-/
def UnderWay (journal : List Transit) (promise key served : Nat) (bytes : Bytes) : Prop :=
  ∃ before exchange during, journal = before ++ .started key exchange :: during ∧
    exchange.promise = promise ∧ starts before promise = 0 ∧ starts during promise = 0 ∧
    answersOver before key = served ∧ .closed key ∉ during ∧ bytesOver during key = bytes

/-- There is an excuse for a second start of a promise after the only one so far. -/
def Returned (journal : List Transit) (promise : Nat) : Prop :=
  ∃ before key exchange between, journal = before ++ .started key exchange :: between ∧
    exchange.promise = promise ∧ starts before promise = 0 ∧ starts between promise = 0 ∧
    Excuses before key between

section Returned

variable {journal notes : List Transit} {promise key served : Nat} {bytes : Bytes}

/-- An exchange that is started for the first time is under way. -/
theorem underWay_start (unstarted : starts journal promise = 0) {exchange : Exchange}
    (same : exchange.promise = promise) (key : Nat) :
    UnderWay (journal ++ [.started key exchange]) promise key (answersOver journal key) [] :=
  ⟨journal, exchange, [], rfl, same, unstarted, rfl, rfl, List.not_mem_nil, rfl⟩

/-- An exchange stays under way until its connection is closed. -/
theorem UnderWay.append (underWay : UnderWay journal promise key served bytes)
    (unstarted : starts notes promise = 0) (stillOpen : .closed key ∉ notes) :
    UnderWay (journal ++ notes) promise key served (bytes ++ bytesOver notes key) := by
  -- The notes follow upon the same start.
  obtain ⟨before, exchange, during, rfl, same, first, only, counted, open_, rfl⟩ := underWay
  refine ⟨before, exchange, during ++ notes, by simp, same, first, ?_, counted, ?_, ?_⟩
  · rw [starts_append, only, unstarted]
  · exact fun member => (List.mem_append.1 member).elim open_ stillOpen
  · exact bytesOver_append

/-- What is under way was started once. -/
theorem UnderWay.starts_eq (underWay : UnderWay journal promise key served bytes) :
    starts journal promise = 1 := by
  obtain ⟨before, exchange, during, rfl, same, first, only, _⟩ := underWay
  rw [starts_append, starts_cons, first, only, if_pos (starts_of_promise key same)]

/-- An exchange on a connection that was used before returns when the connection is closed. -/
theorem UnderWay.close (underWay : UnderWay journal promise key served [])
    (used : 0 < served) : Returned (journal ++ [.closed key]) promise := by
  -- The end of the connection is the last event since the start, and no bytes came before it.
  obtain ⟨before, exchange, during, rfl, same, first, only, rfl, open_, silent⟩ := underWay
  refine ⟨before, key, exchange, during ++ [.closed key], by simp, same, first, ?_, used, ?_⟩
  · rw [starts_append, only]
    rfl
  · exact ⟨during, [], rfl, open_, silent⟩

/-- What has returned stays so as long as it is not started. -/
theorem Returned.append (returned : Returned journal promise)
    (unstarted : starts notes promise = 0) : Returned (journal ++ notes) promise := by
  obtain ⟨before, key, exchange, between, rfl, same, first, only, excuses⟩ := returned
  refine ⟨before, key, exchange, between ++ notes, by simp, same, first, ?_,
    excuses.append notes⟩
  rw [starts_append, only, unstarted]

/-- What has returned was started once. -/
theorem Returned.starts_eq (returned : Returned journal promise) :
    starts journal promise = 1 := by
  obtain ⟨before, key, exchange, between, rfl, same, first, only, _⟩ := returned
  rw [starts_append, starts_cons, first, only, if_pos (starts_of_promise key same)]

/-- The first start of a promise is in one place only. -/
theorem first_start_unique {before others between behind : List Transit} {key other : Nat}
    {exchange again : Exchange} (same : exchange.promise = promise)
    (alike : again.promise = promise) (first : starts before promise = 0)
    (firstToo : starts others promise = 0)
    (whole : before ++ .started key exchange :: between =
      others ++ .started other again :: behind) :
    before = others ∧ key = other ∧ between = behind := by
  -- Both lists run along the same events until one of them ends with the first start.
  induction before generalizing others with
  | nil =>
    cases others with
    | nil =>
      obtain ⟨event, rfl⟩ := List.cons.inj whole
      cases event
      exact ⟨rfl, rfl, rfl⟩
    | cons event rest =>
      -- The other list would begin with the first start.
      obtain ⟨rfl, _⟩ := List.cons.inj whole
      rw [starts_cons, if_pos (starts_of_promise key same)] at firstToo
      omega
  | cons event rest ih =>
    rw [starts_cons] at first
    cases others with
    | nil =>
      -- This list would begin with the first start.
      obtain ⟨rfl, _⟩ := List.cons.inj whole
      rw [if_pos (starts_of_promise other alike)] at first
      omega
    | cons event more =>
      obtain ⟨rfl, tails⟩ := List.cons.inj whole
      rw [starts_cons] at firstToo
      obtain ⟨rfl, others⟩ := ih (by omega) (by omega) tails
      exact ⟨rfl, others⟩

/-- The second start of what has returned is excused. -/
theorem Returned.excused (returned : Returned journal promise) {exchange : Exchange}
    (key : Nat) : Excused (journal ++ [.started key exchange]) promise := by
  obtain ⟨before, old, first, between, rfl, same, unstarted, only, excuses⟩ := returned
  intro front other again middle last repeated after whole alike second
  -- There are two starts at most, so that none is in front of the first one.
  have counted := congrArg (starts · promise) whole
  simp only [starts_append, starts_cons, starts_of_promise other alike,
    starts_of_promise last second, starts_of_promise old same, if_true, unstarted, only] at counted
  have few : (if (Transit.started key exchange).starts promise = true then 1 else 0) ≤ 1 := by
    split <;> omega
  have nothing : starts ([] : List Transit) promise = 0 := rfl
  rw [List.append_assoc, List.cons_append] at whole
  obtain ⟨rfl, rfl, rest⟩ := first_start_unique same alike unstarted (by omega) whole
  -- The second start is the last event, since it is not between.
  rcases List.eq_nil_or_concat after with rfl | ⟨behind, event, concat⟩
  · obtain ⟨rfl, _⟩ := List.append_singleton_inj.1 rest
    exact excuses
  · rw [concat, List.concat_eq_append, ← List.cons_append, ← List.append_assoc] at rest
    obtain ⟨rfl, _⟩ := List.append_singleton_inj.1 rest
    have inside : .started last repeated ∈ middle ++ .started last repeated :: behind := by simp
    exact absurd inside (not_started only second)

end Returned

end Journal

end HttpEngine
