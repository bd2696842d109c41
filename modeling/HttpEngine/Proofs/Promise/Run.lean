import HttpEngine.Promise.Heap

/-!
Runs of a machine: at any time new code begins on a thread of its own, or some thread takes a step.
What a run does about callbacks is its history: which ones were registered, and which ones started.
A start is read off what a step leaves: what it notes in the journal, and what it puts on the stack.
-/

namespace HttpEngine

variable {α σ β : Type}

/-- What happens to a machine. -/
inductive MachineAct (α σ : Type) where
  /-- Code begins, on a thread that did nothing before. -/
  | call (code : Task α σ)
  /-- A thread takes one step. -/
  | step (thread : Nat)

/-- A start: the number and the outcome that are noted, and what the thread is left to do. -/
structure Start (α σ : Type) where
  ticket : Nat
  outcome : Outcome α
  frames : List (Frame α σ)

/-- How a callback is to start with an outcome: its code for that outcome is what is left to do. -/
def Callback.start (callback : Callback α σ) (outcome : Outcome α) : Start α σ :=
  ⟨callback.ticket, outcome, [.task (callback.code outcome)]⟩

/-- What a step does about a callback. -/
inductive Deed (α σ : Type) where
  | registers (promise : Nat) (callback : Callback α σ)
  | starts (promise : Nat) (start : Start α σ)

/-- The registration that a frame asks for, if it asks for any. -/
def Frame.request? (heap : Heap α σ) : Frame α σ → Option (Deed α σ)
  | .task (.subscribe promise code _) =>
    -- Only a promise that is there can have callbacks.
    if promise < heap.cells.length then some (.registers promise ⟨heap.tickets, code⟩) else none
  | _ => none

namespace Occurrence

/-- The start that a note tells of, if it tells of any, with what the thread is left to do. -/
def start? (frames : List (Frame α σ)) : Occurrence α → Option (Deed α σ)
  | started promise ticket outcome => some (.starts promise ⟨ticket, outcome, frames⟩)
  | _ => none

/-- The number of a callback that was registered on a promise, if the note tells of one. -/
def registeredOn? (promise : Nat) : Occurrence α → Option Nat
  | registered place ticket => if place = promise then some ticket else none
  | _ => none

/-- The number of a callback of a promise that started, with the outcome that it was told. -/
def startedOn? (promise : Nat) : Occurrence α → Option (Nat × Outcome α)
  | started place ticket outcome => if place = promise then some (ticket, outcome) else none
  | _ => none

end Occurrence

namespace Heap

/-- What the step of a frame adds to the journal. -/
def notes (heap : Heap α σ) (frame : Frame α σ) : List (Occurrence α) :=
  (heap.step frame).1.journal.drop heap.journal.length

/-- What the step of a frame does about callbacks: what is asked of it, and what it starts. -/
def deeds (heap : Heap α σ) (frame : Frame α σ) : List (Deed α σ) :=
  (frame.request? heap).toList ++
    (heap.notes frame).filterMap (Occurrence.start? (heap.step frame).2)

end Heap

/-- The callback that a deed registers on a promise. -/
def Deed.registered? (promise : Nat) : Deed α σ → Option (Callback α σ)
  | .registers place callback => if place = promise then some callback else none
  | .starts _ _ => none

/-- The start of a callback of a promise that a deed is. -/
def Deed.started? (promise : Nat) : Deed α σ → Option (Start α σ)
  | .registers _ _ => none
  | .starts place start => if place = promise then some start else none

/-- The callback of a deed that registers one, on whatever promise. -/
def Deed.newcomer? : Deed α σ → Option (Callback α σ)
  | .registers _ callback => some callback
  | .starts _ _ => none

/-- The callbacks registered on a promise, in the order of their registrations. -/
def registeredOn (promise : Nat) (history : List (Deed α σ)) : List (Callback α σ) :=
  history.filterMap (Deed.registered? promise)

/-- The starts of callbacks of a promise, in their order. -/
def startsOn (promise : Nat) (history : List (Deed α σ)) : List (Start α σ) :=
  history.filterMap (Deed.started? promise)

section Histories

variable {promise : Nat}

/-- What is registered later comes later. -/
@[simp] theorem registeredOn_append (past later : List (Deed α σ)) :
    registeredOn promise (past ++ later) =
      registeredOn promise past ++ registeredOn promise later :=
  List.filterMap_append

/-- What starts later comes later. -/
@[simp] theorem startsOn_append (past later : List (Deed α σ)) :
    startsOn promise (past ++ later) = startsOn promise past ++ startsOn promise later :=
  List.filterMap_append

/-- Nothing is registered where nothing is done. -/
@[simp] theorem registeredOn_nil : registeredOn promise ([] : List (Deed α σ)) = [] := rfl

/-- Nothing starts where nothing is done. -/
@[simp] theorem startsOn_nil : startsOn promise ([] : List (Deed α σ)) = [] := rfl

/-- A start registers nothing. -/
@[simp] theorem registeredOn_starts (place : Nat) (start : Start α σ) :
    registeredOn promise [.starts place start] = [] := rfl

/-- A registration starts nothing. -/
@[simp] theorem startsOn_registers (place : Nat) (callback : Callback α σ) :
    startsOn promise [.registers place callback] = [] := rfl

end Histories

namespace Machine

/-- A machine on which nothing has happened. -/
def fresh (shared : σ) : Machine α σ := { heap := { shared } }

/-- One act. -/
def act (machine : Machine α σ) : MachineAct α σ → Machine α σ
  | .call code => { machine with threads := machine.threads ++ [[.task code]] }
  | .step thread => machine.step thread

/-- Acts, one after the other. -/
def run (machine : Machine α σ) (acts : List (MachineAct α σ)) : Machine α σ :=
  acts.foldl act machine

/-- What an act does about callbacks. -/
def deeds (machine : Machine α σ) : MachineAct α σ → List (Deed α σ)
  | .call _ => []
  | .step thread =>
    match machine.threads[thread]? with
    | some (frame :: _) => machine.heap.deeds frame
    | _ => []

/-- What acts do about callbacks, in their order. -/
def history (machine : Machine α σ) : List (MachineAct α σ) → List (Deed α σ)
  | [] => []
  | act :: acts => machine.deeds act ++ (machine.act act).history acts

/-- The frames of all threads. -/
def frames (machine : Machine α σ) : List (Frame α σ) := machine.threads.flatten

/-- Acts that follow upon acts. -/
theorem run_append (machine : Machine α σ) (acts later : List (MachineAct α σ)) :
    machine.run (acts ++ later) = (machine.run acts).run later :=
  List.foldl_append

instance (machine : Machine α σ) : Decidable machine.Quiet :=
  decidable_of_iff (machine.threads.all List.isEmpty = true) (by simp [Quiet])

/-- New code is one more frame. -/
@[simp] theorem frames_call (machine : Machine α σ) (code : Task α σ) :
    (machine.act (.call code)).frames = machine.frames ++ [.task code] := by
  simp [act, frames]

/-- A quiet machine has no frames. -/
theorem frames_of_quiet {machine : Machine α σ} (quiet : machine.Quiet) : machine.frames = [] :=
  List.flatten_eq_nil_iff.2 quiet

end Machine

namespace Heap

variable {heap : Heap α σ} {promise : Nat}

/-- After a settling come the callbacks that it made due, and then whoever settled is told. -/
theorem step_settle (place : Nat) (outcome : Outcome α) (next : Bool → Task α σ) :
    heap.step (.task (.settle place outcome next)) =
      ((heap.settle place outcome).1,
        ((heap.settle place outcome).2.getD []).map (.call place outcome) ++
          [.task (next (heap.settle place outcome).2.isSome)]) := by
  simp only [step, perform]
  cases heap.settle place outcome with
  | mk after due? => cases due? <;> rfl

/--
After a registration comes the callback, if it is due at once, and then whoever registered it.
-/
theorem step_subscribe (place : Nat) (code : Outcome α → Task α σ) (next : Task α σ) :
    heap.step (.task (.subscribe place code next)) =
      ((heap.subscribe place ⟨heap.tickets, code⟩).1,
        ((heap.subscribe place ⟨heap.tickets, code⟩).2.map
          (.call place · ⟨heap.tickets, code⟩)).toList ++ [.task next]) := by
  simp only [step, perform]
  cases heap.subscribe place ⟨heap.tickets, code⟩ with
  | mk after ready => cases ready <;> rfl

/-- After a deposit its code goes on, with the slots if the deposit was the last one. -/
theorem step_deposit (gather index : Nat) (outcome : Outcome α)
    (next : Option (List (Option (Outcome α))) → Task α σ) :
    heap.step (.task (.deposit gather index outcome next)) =
      match heap.gathers[gather]? with
      | none => (heap, [.task (next none)])
      | some found =>
        ({ heap with gathers := heap.gathers.set gather (found.deposit index outcome).1 },
          [.task (next (found.deposit index outcome).2)]) := by
  simp only [step, perform]
  cases heap.gathers[gather]? <;> rfl

/-- Writing something down changes nothing about promises. -/
@[simp] theorem outcome?_record (occurrence : Occurrence α) :
    (heap.record occurrence).outcome? promise = heap.outcome? promise := rfl

/-- A new promise changes no outcome. -/
theorem outcome?_create (promise : Nat) :
    { heap with cells := heap.cells ++ [.pending] : Heap α σ }.outcome? promise =
      heap.outcome? promise := by
  unfold outcome?
  -- The promise was there before, is the new one, or is not there at all.
  rcases Nat.lt_trichotomy promise heap.cells.length with inside | rfl | outside
  · rw [List.getElem?_append_left inside]
  · simp [Cell.pending]
  · rw [List.getElem?_eq_none (by simp; omega), List.getElem?_eq_none (by omega)]

/-- A promise with an outcome is not settled again. -/
theorem settle_of_settled {before : Outcome α} (settled : heap.outcome? promise = some before)
    (outcome : Outcome α) :
    heap.settle promise outcome = (heap.record (.refused promise), none) := by
  obtain ⟨cell, found, has⟩ := Option.bind_eq_some_iff.1 settled
  have refuses : cell.settle? outcome = none :=
    Cell.settle?_eq_none_iff.2 (Option.isSome_iff_exists.2 ⟨before, has⟩)
  simp [settle, found, refuses]

/-- A promise that waits takes the outcome, and all that it stores becomes due. -/
theorem settle_of_pending {cell : Cell α (Callback α σ)} (found : heap.cells[promise]? = some cell)
    (waits : cell.outcome? = none) (outcome : Outcome α) :
    heap.settle promise outcome =
      ({ heap with cells := heap.cells.set promise ⟨some outcome, []⟩ }.record
        (.settled promise outcome), some cell.callbacks) := by
  simp [settle, found, Cell.settle?, waits]

/-- A settling is refused, or there is a promise that waits for it. -/
theorem settle_cases (heap : Heap α σ) (promise : Nat) (outcome : Outcome α) :
    heap.settle promise outcome = (heap.record (.refused promise), none) ∨
      ∃ cell, heap.cells[promise]? = some cell ∧ cell.outcome? = none := by
  unfold settle
  cases accepted : heap.cells[promise]?.bind (·.settle? outcome) with
  | none => exact .inl rfl
  | some result =>
    obtain ⟨cell, found, taken⟩ := Option.bind_eq_some_iff.1 accepted
    -- A cell takes an outcome only if it has none.
    refine .inr ⟨cell, found, Option.eq_none_iff_forall_ne_some.2 fun before has => ?_⟩
    rw [Cell.settle?_eq_none_iff.2 (by simp [has])] at taken
    cases taken

/-- Only one promise gets an outcome when it is settled. -/
theorem outcome?_settle_of_pending {place : Nat} {cell : Cell α (Callback α σ)}
    (found : heap.cells[place]? = some cell) (waits : cell.outcome? = none) (outcome : Outcome α)
    (promise : Nat) :
    (heap.settle place outcome).1.outcome? promise =
      if place = promise then some outcome else heap.outcome? promise := by
  obtain ⟨inside, _⟩ := List.getElem?_eq_some_iff.1 found
  rw [settle_of_pending found waits, outcome?_record]
  unfold outcome?
  -- The settled promise has the outcome, and the others have what they had.
  split
  · rename_i same
    subst same
    simp [List.getElem?_set_self inside]
  · rename_i other
    simp [List.getElem?_set_ne other]

/-- No settling takes an outcome away. -/
theorem outcome?_settle {outcome : Outcome α} (settled : heap.outcome? promise = some outcome)
    (place : Nat) (other : Outcome α) :
    (heap.settle place other).1.outcome? promise = some outcome := by
  by_cases same : place = promise
  · subst same
    rw [settle_of_settled settled]
    exact settled
  · -- Another promise gets an outcome, if any.
    rcases heap.settle_cases place other with refused | ⟨cell, found, waits⟩
    · rw [refused]
      exact settled
    · rw [outcome?_settle_of_pending found waits, if_neg same]
      exact settled

/-- A registration changes no outcome. -/
theorem outcome?_subscribe (place : Nat) (callback : Callback α σ) :
    (heap.subscribe place callback).1.outcome? promise = heap.outcome? promise := by
  unfold subscribe
  cases found : heap.cells[place]? with
  | none => rfl
  | some cell =>
    -- A cell keeps its outcome when it stores one more callback.
    by_cases same : place = promise
    · subst same
      obtain ⟨inside, _⟩ := List.getElem?_eq_some_iff.1 found
      simp [outcome?, record, found, List.getElem?_set_self inside]
    · simp [outcome?, record, List.getElem?_set_ne same]

/-- No step takes an outcome away. -/
theorem outcome?_step {outcome : Outcome α} (settled : heap.outcome? promise = some outcome)
    (frame : Frame α σ) : (heap.step frame).1.outcome? promise = some outcome := by
  cases frame with
  | call place told callback => exact settled
  | task code =>
    cases code with
    | create next => exact (outcome?_create promise).trans settled
    | settle place other next =>
      -- A promise that has an outcome refuses another one.
      rw [step_settle]
      exact outcome?_settle settled place other
    | subscribe place code next =>
      rw [step_subscribe]
      exact (outcome?_subscribe place _).trans settled
    | deposit gather index other next =>
      rw [step_deposit]
      cases heap.gathers[gather]? <;> exact settled
    | _ => exact settled

/-- A settling is taken note of, whether or not it is refused. -/
theorem journal_settle (heap : Heap α σ) (promise : Nat) (outcome : Outcome α) :
    (heap.settle promise outcome).1.journal =
      heap.journal ++ [if (heap.settle promise outcome).2.isSome then .settled promise outcome
        else .refused promise] := by
  unfold settle
  cases heap.cells[promise]?.bind (·.settle? outcome) <;> rfl

/-- A registration is taken note of, if there is such a promise. -/
theorem journal_subscribe (heap : Heap α σ) (promise : Nat) (callback : Callback α σ) :
    (heap.subscribe promise callback).1.journal =
      heap.journal ++
        if promise < heap.cells.length then [.registered promise callback.ticket] else [] := by
  unfold subscribe
  by_cases inside : promise < heap.cells.length
  · rw [List.getElem?_eq_getElem inside, if_pos inside]
    rfl
  · rw [List.getElem?_eq_none (Nat.le_of_not_lt inside), if_neg inside, List.append_nil]

/-- The journal of a step is that of before and what the step notes. -/
theorem journal_step (heap : Heap α σ) (frame : Frame α σ) :
    (heap.step frame).1.journal = heap.journal ++ heap.notes frame := by
  refine (List.prefix_iff_eq_append.1 ?_).symm
  cases frame with
  | call place told callback => exact List.prefix_append _ _
  | task code =>
    -- Only settlings and registrations are taken note of.
    cases code with
    | settle place other next =>
      rw [step_settle, journal_settle]
      exact List.prefix_append _ _
    | subscribe place code next =>
      rw [step_subscribe, journal_subscribe]
      exact List.prefix_append _ _
    | deposit gather index other next =>
      rw [step_deposit]
      cases heap.gathers[gather]? <;> exact List.prefix_refl _
    | _ => exact List.prefix_refl _

/-- What is added to the journal is what the step notes. -/
theorem notes_of_journal {frame : Frame α σ} {added : List (Occurrence α)}
    (grown : (heap.step frame).1.journal = heap.journal ++ added) : heap.notes frame = added :=
  List.append_cancel_left ((journal_step heap frame).symm.trans grown)

/-- A callback that is due is taken note of when it starts. -/
@[simp] theorem notes_call (outcome : Outcome α) (callback : Callback α σ) :
    heap.notes (.call promise outcome callback) = [.started promise callback.ticket outcome] :=
  notes_of_journal rfl

/-- Code that neither settles nor registers adds nothing to the journal. -/
theorem notes_task {code : Task α σ} (settles : ∀ place other next, code ≠ .settle place other next)
    (registers : ∀ place callback next, code ≠ .subscribe place callback next) :
    heap.notes (.task code) = [] := by
  refine notes_of_journal ?_
  rw [List.append_nil]
  -- A deposit is taken note of by the gather, which keeps no journal.
  cases code with
  | settle place other next => exact absurd rfl (settles place other next)
  | subscribe place code next => exact absurd rfl (registers place code next)
  | deposit gather index other next =>
    rw [step_deposit]
    cases heap.gathers[gather]? <;> rfl
  | _ => rfl

/-- A callback that is due starts with its outcome, and nothing else is done. -/
@[simp] theorem deeds_call (outcome : Outcome α) (callback : Callback α σ) :
    heap.deeds (.call promise outcome callback) = [.starts promise (callback.start outcome)] := by
  simp [deeds, step, Frame.request?, Occurrence.start?, Callback.start]

/-- Code starts no callback itself. -/
@[simp] theorem deeds_task (code : Task α σ) :
    heap.deeds (.task code) = ((Frame.task code).request? heap).toList := by
  rw [deeds]
  cases code with
  | settle place other next =>
    rw [notes_of_journal (by rw [step_settle, journal_settle])]
    split <;> simp [Occurrence.start?]
  | subscribe place code next =>
    rw [notes_of_journal (by rw [step_subscribe, journal_subscribe])]
    split <;> simp [Occurrence.start?]
  | _ => rw [notes_task (by simp) (by simp), List.filterMap_nil, List.append_nil]

end Heap

/--
One list of several stands in front of the others, up to the order, whatever it is replaced by.
-/
theorem flatten_set_perm {lists : List (List β)} {position : Nat} {here : List β}
    (there : lists[position]? = some here) :
    ∃ others, lists.flatten.Perm (here ++ others) ∧
      ∀ instead : List β, (lists.set position instead).flatten.Perm (instead ++ others) := by
  -- The others are what stands before the list and behind it.
  obtain ⟨inside, same⟩ := List.getElem?_eq_some_iff.1 there
  obtain ⟨front, back, rfl, rfl⟩ : ∃ front back,
      lists = front ++ here :: back ∧ position = front.length := by
    refine ⟨lists.take position, lists.drop (position + 1), ?_, ?_⟩
    · rw [← same, List.getElem_cons_drop, List.take_append_drop]
    · rw [List.length_take, Nat.min_eq_left (Nat.le_of_lt inside)]
  have gathered (middle : List β) : (front ++ middle :: back).flatten.Perm
      (middle ++ (front.flatten ++ back.flatten)) := by
    rw [List.flatten_append, List.flatten_cons, ← List.append_assoc, ← List.append_assoc]
    exact List.perm_append_comm.append_right _
  refine ⟨front.flatten ++ back.flatten, gathered here, fun instead => ?_⟩
  rw [List.set_append_right _ _ (Nat.le_refl _), Nat.sub_self, List.set_cons_zero]
  exact gathered instead

/--
A step of a thread does nothing, or it is the step of one frame.

What the frame leads to takes its place, and nothing else about the frames changes but their order.
-/
theorem Machine.step_cases (machine : Machine α σ) (thread : Nat) :
    (machine.step thread = machine ∧ machine.deeds (.step thread) = []) ∨
      ∃ frame others, machine.frames.Perm (frame :: others) ∧
        (machine.step thread).frames.Perm ((machine.heap.step frame).2 ++ others) ∧
        (machine.step thread).heap = (machine.heap.step frame).1 ∧
        machine.deeds (.step thread) = machine.heap.deeds frame := by
  -- Only a thread with a frame on its stack has something to do.
  cases there : machine.threads[thread]? with
  | none => exact .inl (by simp [step, deeds, there])
  | some stack =>
    cases stack with
    | nil => exact .inl (by simp [step, deeds, there])
    | cons frame rest =>
      -- The stack is one of several, and the others are not touched.
      obtain ⟨others, before, after⟩ := flatten_set_perm there
      refine .inr ⟨frame, rest ++ others, before, ?_, ?_, ?_⟩
      · rw [step, there, ← List.append_assoc]
        exact after _
      · rw [step, there]
      · rw [deeds, there]

/-- What no step makes smaller, no run makes smaller. -/
theorem Machine.size_le_run {size : Heap α σ → Nat}
    (grows : ∀ heap frame, size heap ≤ size (heap.step frame).1) (machine : Machine α σ)
    (acts : List (MachineAct α σ)) : size machine.heap ≤ size (machine.run acts).heap := by
  induction acts generalizing machine with
  | nil => exact Nat.le_refl _
  | cons act rest ih =>
    -- What no step shrinks, no act does, and no run.
    refine Nat.le_trans ?_ (ih (machine.act act))
    cases act with
    | call code => exact Nat.le_refl _
    | step thread =>
      rcases machine.step_cases thread with ⟨same, _⟩ | ⟨frame, _, _, _, heap, _⟩
      · exact Nat.le_of_eq (by rw [Machine.act, same])
      · rw [Machine.act, heap]
        exact grows machine.heap frame

/-- No run takes an outcome away. -/
theorem Machine.outcome?_run {machine : Machine α σ} {promise : Nat} {outcome : Outcome α}
    (settled : machine.heap.outcome? promise = some outcome) (acts : List (MachineAct α σ)) :
    (machine.run acts).heap.outcome? promise = some outcome := by
  induction acts generalizing machine with
  | nil => exact settled
  | cons act rest ih =>
    refine ih ?_
    cases act with
    | call code => exact settled
    | step thread =>
      -- A step does nothing, or is the step of one frame, which keeps the outcome.
      rcases machine.step_cases thread with ⟨same, _⟩ | ⟨frame, _, _, _, heap, _⟩
      · rwa [Machine.act, same]
      · rw [Machine.act, heap]
        exact Heap.outcome?_step settled frame

end HttpEngine
