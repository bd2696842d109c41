import HttpEngine.Promise.Combinators
import HttpEngine.Proofs.Promise.Order

/-!
Code that does not meddle: it does not settle a promise that others are to settle, and does not
enter their race. All code is like this that was never given the resolver of the promise and the
flag of the race.
-/

namespace HttpEngine

variable {α σ : Type} {aggregate race : Nat}

/--
Code that spares a promise and a race, whatever it is told.

What it makes is new, and so neither of the two.
-/
inductive Task.Spares (aggregate race : Nat) : Task α σ → Prop where
  | done : Spares aggregate race .done
  | create {next : Nat → Task α σ}
      (goesOn : ∀ fresh, fresh ≠ aggregate → Spares aggregate race (next fresh)) :
      Spares aggregate race (.create next)
  | settle {promise : Nat} {outcome : Outcome α} {next : Bool → Task α σ}
      (other : promise ≠ aggregate) (goesOn : ∀ accepted, Spares aggregate race (next accepted)) :
      Spares aggregate race (.settle promise outcome next)
  | subscribe {promise : Nat} {code : Outcome α → Task α σ} {next : Task α σ}
      (callback : ∀ outcome, Spares aggregate race (code outcome))
      (goesOn : Spares aggregate race next) :
      Spares aggregate race (.subscribe promise code next)
  | peek {promise : Nat} {next : Option (Outcome α) → Task α σ}
      (goesOn : ∀ outcome?, Spares aggregate race (next outcome?)) :
      Spares aggregate race (.peek promise next)
  | gather {size : Nat} {next : Nat → Task α σ}
      (goesOn : ∀ fresh, Spares aggregate race (next fresh)) :
      Spares aggregate race (.gather size next)
  | deposit {gather index : Nat} {outcome : Outcome α}
      {next : Option (List (Option (Outcome α))) → Task α σ}
      (goesOn : ∀ slots, Spares aggregate race (next slots)) :
      Spares aggregate race (.deposit gather index outcome next)
  | race {next : Nat → Task α σ}
      (goesOn : ∀ fresh, fresh ≠ race → Spares aggregate race (next fresh)) :
      Spares aggregate race (.race next)
  | enter {place : Nat} {next : Bool → Task α σ} (other : place ≠ race)
      (goesOn : ∀ first, Spares aggregate race (next first)) :
      Spares aggregate race (.enter place next)
  | update {change : σ → σ} {next : σ → Task α σ}
      (goesOn : ∀ before, Spares aggregate race (next before)) :
      Spares aggregate race (.update change next)

/-- A callback that spares a promise and a race, whatever outcome it is told. -/
def Callback.Spares (aggregate race : Nat) (callback : Callback α σ) : Prop :=
  ∀ outcome, (callback.code outcome).Spares aggregate race

/-- A frame that spares a promise and a race. -/
def Frame.Spares (aggregate race : Nat) : Frame α σ → Prop
  | .task code => code.Spares aggregate race
  | .call _ _ callback => callback.Spares aggregate race

namespace Heap

/-- No step takes a promise away. -/
theorem cells_le_step (heap : Heap α σ) (frame : Frame α σ) :
    heap.cells.length ≤ (heap.step frame).1.cells.length := by
  cases frame with
  | call => exact Nat.le_refl _
  | task code =>
    cases code with
    | create next =>
      -- Only here a promise is added, and all the others keep the number of the promises.
      simp [step, perform]
    | settle place outcome next =>
      -- A settling changes one promise, if it changes any.
      rw [step_settle, settle]
      split <;> simp [record]
    | subscribe place code next =>
      rw [step_subscribe, subscribe]
      split <;> simp [record]
    | deposit gather index outcome next =>
      rw [step_deposit]
      split <;> exact Nat.le_refl _
    | _ => exact Nat.le_refl _

variable {heap : Heap α σ}

/-- A registration is no entry into a race. -/
@[simp] theorem races_subscribe (promise : Nat) (callback : Callback α σ) :
    (heap.subscribe promise callback).1.races = heap.races := by
  unfold subscribe
  split <;> rfl

/-- A settling is no entry into a race. -/
@[simp] theorem races_settle (promise : Nat) (outcome : Outcome α) :
    (heap.settle promise outcome).1.races = heap.races := by
  unfold settle
  split <;> rfl

/-- No step takes a race away. -/
theorem races_le_step (heap : Heap α σ) (frame : Frame α σ) :
    heap.races.length ≤ (heap.step frame).1.races.length := by
  cases frame with
  | call =>
    -- A callback that is called leaves the heap alone.
    exact Nat.le_refl _
  | task code =>
    cases code with
    | settle place outcome next => simp [step_settle]
    | subscribe place code next => simp [step_subscribe]
    | deposit gather index outcome next =>
      -- A deposit finds slots to write in, or it finds none.
      rw [step_deposit]
      split <;> exact Nat.le_refl _
    | _ => simp [step, perform]

/-- A callback that is registered is stored with the others if its promise waits, or not at all. -/
theorem storedOn_subscribe (place : Nat) (callback : Callback α σ) (promise : Nat) :
    (heap.subscribe place callback).1.storedOn promise =
      heap.storedOn promise ++
        if place = promise ∧ promise < heap.cells.length ∧ heap.outcome? promise = none
        then [callback] else [] := by
  unfold subscribe
  cases found : heap.cells[place]? with
  | none =>
    -- The promise is not there, and the callback is not kept.
    have outside : heap.cells.length ≤ place := List.getElem?_eq_none_iff.1 found
    rw [if_neg fun ⟨same, inside, _⟩ => by omega, List.append_nil]
  | some cell =>
    obtain ⟨inside, rfl⟩ := List.getElem?_eq_some_iff.1 found
    by_cases same : place = promise
    · -- A promise that waits keeps the callback, and any other one hands it over at once.
      subst same
      cases waits : heap.cells[place].outcome? <;>
        simp [storedOn, outcome?, record, inside, Cell.subscribe, waits]
    · simp [storedOn, record, same, List.getElem?_set_ne same]

/-- A callback that is registered on a promise that waits is not due. -/
theorem subscribe_of_waits {promise : Nat} (waits : heap.outcome? promise = none)
    (callback : Callback α σ) : (heap.subscribe promise callback).2 = none := by
  unfold subscribe
  unfold outcome? at waits
  cases found : heap.cells[promise]? with
  | none =>
    -- Nothing is due on a promise that is not there.
    rfl
  | some cell =>
    rw [found] at waits
    simp [Cell.subscribe, show cell.outcome? = none from waits]

/-- A new promise stores nothing. -/
theorem storedOn_create (promise : Nat) :
    { heap with cells := heap.cells ++ [.pending] : Heap α σ }.storedOn promise =
      heap.storedOn promise := by
  unfold storedOn
  rcases Nat.lt_trichotomy promise heap.cells.length with inside | rfl | outside
  · -- It is the new promise, or one that was there, or none at all.
    rw [List.getElem?_append_left inside]
  · simp [Cell.pending]
  · rw [List.getElem?_eq_none (by simp; omega), List.getElem?_eq_none (by omega)]

/-- Only one promise gives up its callbacks when it is settled. -/
theorem storedOn_settle {place : Nat} {cell : Cell α (Callback α σ)}
    (found : heap.cells[place]? = some cell) (waits : cell.outcome? = none) (outcome : Outcome α)
    (promise : Nat) :
    (heap.settle place outcome).1.storedOn promise =
      if place = promise then [] else heap.storedOn promise := by
  obtain ⟨inside, _⟩ := List.getElem?_eq_some_iff.1 found
  rw [settle_of_pending found waits]
  unfold storedOn record
  -- The settled promise keeps no callback, and the others keep theirs.
  split
  · rename_i same
    subst same
    simp [List.getElem?_set_self inside]
  · rename_i other
    simp [List.getElem?_set_ne other]

/-- A step that has nothing to do with a promise and a race, and settles no other promise. -/
structure Quietly (heap : Heap α σ) (aggregate race : Nat)
    (result : Heap α σ × List (Frame α σ)) : Prop where
  frames : ∀ frame ∈ result.2, frame.Spares aggregate race
  outcomes : ∀ promise, result.1.outcome? promise = heap.outcome? promise
  stored : ∀ promise, ∃ more, result.1.storedOn promise = heap.storedOn promise ++ more ∧
    ∀ callback ∈ more, callback.Spares aggregate race
  races : result.1.races[race]? = heap.races[race]?

/-- A step that changes nothing but what is not looked at here. -/
theorem Quietly.of_same {after : Heap α σ} {code : Task α σ} (cells : after.cells = heap.cells)
    (races : after.races[race]? = heap.races[race]?) (spares : code.Spares aggregate race) :
    heap.Quietly aggregate race (after, [.task code]) where
  frames frame member := by rw [List.mem_singleton.1 member]; exact spares
  outcomes promise := by rw [outcome?, outcome?, cells]
  stored promise := ⟨[], by rw [storedOn, storedOn, cells, List.append_nil], by simp⟩
  races := races

/--
A frame that spares a promise and a race settles another promise, or it does its step quietly.

The promise is there already. The race is, or is not the one that the step makes.
-/
theorem step_of_spares {frame : Frame α σ} (spares : frame.Spares aggregate race)
    (created : aggregate < heap.cells.length)
    (apart : race < heap.races.length ∨ (heap.step frame).1.races.length ≤ race) :
    (∃ place outcome next cell, frame = .task (.settle place outcome next) ∧ place ≠ aggregate ∧
      heap.cells[place]? = some cell ∧ cell.outcome? = none ∧
      (next true).Spares aggregate race) ∨
    heap.Quietly aggregate race (heap.step frame) := by
  cases frame with
  | call promise outcome callback => exact .inr (.of_same rfl rfl (spares outcome))
  | task code =>
    cases spares with
    | done =>
      -- A program that is over does nothing.
      exact .inr ⟨nofun, fun _ => rfl, fun _ => ⟨[], (List.append_nil _).symm, nofun⟩, rfl⟩
    | create goesOn =>
      refine .inr ⟨fun frame member => ?_, outcome?_create, fun promise => ⟨[], ?_⟩, rfl⟩
      · -- The new promise is not the one that is spared, which was there before.
        rw [List.mem_singleton.1 member]
        exact goesOn _ (Nat.ne_of_gt created)
      · simpa [step, perform] using storedOn_create promise
    | @settle place outcome next other goesOn =>
      rcases heap.settle_cases place outcome with refused | ⟨cell, found, waits⟩
      · -- Nothing is settled for a second time.
        rw [step_settle, refused]
        exact .inr (.of_same rfl rfl (goesOn false))
      · exact .inl ⟨place, outcome, next, cell, rfl, other, found, waits, goesOn true⟩
    | @subscribe place code next callback goesOn =>
      refine .inr ?_
      rw [step_subscribe]
      -- The callback is due now, or is stored, and it spares both in either case.
      refine ⟨fun frame member => ?_, fun promise => outcome?_subscribe .., fun promise =>
        ⟨_, storedOn_subscribe .., fun newcomer member => ?_⟩, ?_⟩
      · rcases List.mem_append.1 member with due | last
        · obtain ⟨outcome, _, rfl⟩ := Option.map_eq_some_iff.1 (Option.mem_toList.1 due)
          exact callback
        · rw [List.mem_singleton.1 last]
          exact goesOn
      · split at member
        · rw [List.mem_singleton.1 member]
          exact callback
        · cases member
      · rw [races_subscribe]
    | deposit goesOn =>
      refine .inr ?_
      rw [step_deposit]
      -- Slots have nothing to do with promises and races.
      split <;> exact .of_same rfl rfl (goesOn _)
    | race goesOn =>
      -- The new race has another number.
      have other : heap.races.length ≠ race := by
        simp only [step, perform, List.length_append, List.length_singleton] at apart
        omega
      refine .inr (.of_same rfl ?_ (goesOn _ other))
      -- A race that is there already is left alone, and one that comes later is not made here.
      rcases Nat.lt_or_ge race heap.races.length with inside | outside
      · exact List.getElem?_append_left inside
      · rw [List.getElem?_eq_none (by simp; omega), List.getElem?_eq_none outside]
    | enter other goesOn => exact .inr (.of_same rfl (List.getElem?_set_ne other) (goesOn _))
    | peek goesOn => exact .inr (.of_same rfl rfl (goesOn _))
    | gather goesOn => exact .inr (.of_same rfl rfl (goesOn _))
    | update goesOn => exact .inr (.of_same rfl rfl (goesOn _))

/-- Where all callbacks spare a promise and a race, nothing that does so leads to anything else. -/
theorem spares_step {frame : Frame α σ} (spares : frame.Spares aggregate race)
    (created : aggregate < heap.cells.length)
    (apart : race < heap.races.length ∨ (heap.step frame).1.races.length ≤ race)
    (stored : ∀ promise, ∀ callback ∈ heap.storedOn promise, callback.Spares aggregate race) :
    (∀ after ∈ (heap.step frame).2, after.Spares aggregate race) ∧
      (∀ promise, ∀ callback ∈ (heap.step frame).1.storedOn promise,
        callback.Spares aggregate race) ∧
      (heap.step frame).1.outcome? aggregate = heap.outcome? aggregate := by
  -- The step settles some other promise, or it is a quiet one.
  rcases step_of_spares spares created apart with
    ⟨place, outcome, next, cell, rfl, other, found, waits, goesOn⟩ | quietly
  · rw [step_settle]
    refine ⟨fun after member => ?_, fun promise callback member => ?_, ?_⟩
    · -- The callbacks that become due were stored.
      rw [settle_of_pending found waits] at member
      rcases List.mem_append.1 member with due | last
      · obtain ⟨callback, kept, rfl⟩ := List.mem_map.1 due
        exact stored place callback (by simpa [storedOn, found] using kept)
      · exact List.mem_singleton.1 last ▸ goesOn
    · rw [storedOn_settle found waits] at member
      split at member
      · cases member
      · exact stored promise callback member
    · -- The promise that is settled is another one.
      rw [outcome?_settle_of_pending found waits, if_neg other]
  · refine ⟨quietly.frames, fun promise callback member => ?_, quietly.outcomes aggregate⟩
    obtain ⟨more, all, newcomers⟩ := quietly.stored promise
    -- What is stored was stored before, or is new and spares both.
    rw [all] at member
    exact (List.mem_append.1 member).elim (stored promise callback) (newcomers callback)

end Heap

/-- An act that spares a promise and a race, which only new code may fail to do. -/
def MachineAct.Spares (aggregate race : Nat) : MachineAct α σ → Prop
  | .call code => code.Spares aggregate race
  | .step _ => True

namespace Machine

variable {machine : Machine α σ} {thread : Nat}

/-- No run takes a race away. -/
theorem races_le_run (machine : Machine α σ) (acts : List (MachineAct α σ)) :
    machine.heap.races.length ≤ (machine.run acts).heap.races.length :=
  size_le_run Heap.races_le_step machine acts

/--
Nothing but the code on top of one stack has to do with a promise and a race: nobody else has the
resolver of the promise and the flag of the race.
-/
structure Sealed (machine : Machine α σ) (thread aggregate race : Nat) : Prop where
  others : ∀ other, other ≠ thread → ∀ frame ∈ machine.stack other, frame.Spares aggregate race
  below : ∀ frame ∈ (machine.stack thread).tail, frame.Spares aggregate race
  stored : ∀ promise, ∀ callback ∈ machine.heap.storedOn promise, callback.Spares aggregate race

/-- What others do neither gives away a promise and a race nor settles the promise. -/
theorem Sealed.act (sealed : machine.Sealed thread aggregate race)
    (created : aggregate < machine.heap.cells.length) (busy : machine.stack thread ≠ [])
    {act : MachineAct α σ} (spares : act.Spares aggregate race) (another : act ≠ .step thread)
    (apart : (machine.act act).heap.races.length ≤ race) :
    (machine.act act).Sealed thread aggregate race ∧
      aggregate < (machine.act act).heap.cells.length ∧
      (machine.act act).heap.outcome? aggregate = machine.heap.outcome? aggregate := by
  -- The thread itself does nothing, so that its stack stays.
  have still := stack_act another busy
  cases act with
  | call code =>
    refine ⟨⟨fun place differs frame member => ?_, still ▸ sealed.below, sealed.stored⟩, created,
      rfl⟩
    -- The new program stands on its own stack, and the other stacks are as before.
    rcases machine.stack_call code place with same | ⟨_, new⟩
    · exact sealed.others place differs frame (same ▸ member)
    · rw [new, List.mem_singleton] at member
      exact member ▸ spares
  | step other =>
    have differs : other ≠ thread := fun same => another (by rw [same])
    rw [Machine.act] at apart still ⊢
    cases top : machine.stack other with
    | nil =>
      -- A thread without frames has no step.
      rw [(step_of_idle top).1]
      exact ⟨sealed, created, rfl⟩
    | cons frame rest =>
      obtain ⟨here, untouched, heap, _⟩ := step_of_stack top
      have strangers := sealed.others other differs
      -- The frames of the other thread spare both.
      rw [top] at strangers
      obtain ⟨first, behind⟩ := List.forall_mem_cons.1 strangers
      obtain ⟨frames, stored, same⟩ :=
        Heap.spares_step first created (.inr (heap ▸ apart)) sealed.stored
      refine ⟨⟨fun place elsewhere after member => ?_, still ▸ sealed.below, heap ▸ stored⟩,
        heap ▸ Nat.lt_of_lt_of_le created (machine.heap.cells_le_step frame), heap ▸ same⟩
      -- What is on the stack of that thread was there before, or has come from its top.
      by_cases stepped : place = other
      · rw [stepped, here] at member
        exact (List.mem_append.1 member).elim (frames after) (behind after)
      · rw [untouched place stepped] at member
        exact sealed.others place elsewhere after member

/-- A run of others neither gives away a promise and a race nor settles the promise. -/
theorem Sealed.run (sealed : machine.Sealed thread aggregate race)
    (created : aggregate < machine.heap.cells.length) (busy : machine.stack thread ≠ [])
    {acts : List (MachineAct α σ)} (spares : ∀ act ∈ acts, act.Spares aggregate race)
    (others : .step thread ∉ acts) (apart : (machine.run acts).heap.races.length ≤ race) :
    (machine.run acts).Sealed thread aggregate race ∧
      aggregate < (machine.run acts).heap.cells.length ∧
      (machine.run acts).heap.outcome? aggregate = machine.heap.outcome? aggregate := by
  induction acts generalizing machine with
  | nil => exact ⟨sealed, created, rfl⟩
  | cons act rest ih =>
    obtain ⟨first, behind⟩ := List.forall_mem_cons.1 spares
    -- Neither the first act nor one of the later acts is a step of the thread.
    obtain ⟨another, elsewhere⟩ := not_or.1 (mt List.mem_cons.2 others)
    -- The races can only become more, so that the bound at the end holds after the first act too.
    have early : (machine.act act).heap.races.length ≤ race :=
      Nat.le_trans ((machine.act act).races_le_run rest) apart
    obtain ⟨sealed, created, same⟩ := sealed.act created busy first (Ne.symm another) early
    have still := stack_act (Ne.symm another) busy
    obtain ⟨sealed, created, also⟩ := ih sealed created (by rwa [still]) behind elsewhere apart
    exact ⟨sealed, created, also.trans same⟩

end Machine

end HttpEngine
