import HttpEngine.Proofs.Promise.Bystander

/-!
Code that has no part in a collection: it neither settles the promise for all outcomes, nor makes a
deposit in the slots. All code is like this that was never given the resolver and the slots, which
only the callbacks of the collection have.
-/

namespace HttpEngine

variable {α σ : Type} {aggregate gather : Nat}

/--
Code that refrains from settling a promise and from filling slots, whatever it is told.

What it makes is new, and so neither the promise nor the slots.
-/
inductive Task.Refrains (aggregate gather : Nat) : Task α σ → Prop where
  | done : Refrains aggregate gather .done
  | create {next : Nat → Task α σ}
      (goesOn : ∀ fresh, fresh ≠ aggregate → Refrains aggregate gather (next fresh)) :
      Refrains aggregate gather (.create next)
  | settle {promise : Nat} {outcome : Outcome α} {next : Bool → Task α σ}
      (other : promise ≠ aggregate)
      (goesOn : ∀ accepted, Refrains aggregate gather (next accepted)) :
      Refrains aggregate gather (.settle promise outcome next)
  | subscribe {promise : Nat} {code : Outcome α → Task α σ} {next : Task α σ}
      (callback : ∀ outcome, Refrains aggregate gather (code outcome))
      (goesOn : Refrains aggregate gather next) :
      Refrains aggregate gather (.subscribe promise code next)
  | peek {promise : Nat} {next : Option (Outcome α) → Task α σ}
      (goesOn : ∀ outcome?, Refrains aggregate gather (next outcome?)) :
      Refrains aggregate gather (.peek promise next)
  | gather {size : Nat} {next : Nat → Task α σ}
      (goesOn : ∀ fresh, fresh ≠ gather → Refrains aggregate gather (next fresh)) :
      Refrains aggregate gather (.gather size next)
  | deposit {place index : Nat} {outcome : Outcome α}
      {next : Option (List (Option (Outcome α))) → Task α σ} (other : place ≠ gather)
      (goesOn : ∀ slots, Refrains aggregate gather (next slots)) :
      Refrains aggregate gather (.deposit place index outcome next)
  | race {next : Nat → Task α σ}
      (goesOn : ∀ fresh, Refrains aggregate gather (next fresh)) :
      Refrains aggregate gather (.race next)
  | enter {race : Nat} {next : Bool → Task α σ}
      (goesOn : ∀ first, Refrains aggregate gather (next first)) :
      Refrains aggregate gather (.enter race next)
  | update {change : σ → σ} {next : σ → Task α σ}
      (goesOn : ∀ before, Refrains aggregate gather (next before)) :
      Refrains aggregate gather (.update change next)

/-- A callback that refrains, whatever outcome it is told. -/
def Callback.Refrains (aggregate gather : Nat) (callback : Callback α σ) : Prop :=
  ∀ outcome, (callback.code outcome).Refrains aggregate gather

/-- A frame that refrains from settling a promise and from filling slots. -/
def Frame.Refrains (aggregate gather : Nat) : Frame α σ → Prop
  | .task code => code.Refrains aggregate gather
  | .call _ _ callback => callback.Refrains aggregate gather

/-- An act that refrains, which only new code may fail to do. -/
def MachineAct.Refrains (aggregate gather : Nat) : MachineAct α σ → Prop
  | .call code => code.Refrains aggregate gather
  | .step _ => True

namespace Heap

variable {heap : Heap α σ}

/-- A registration fills no slot. -/
@[simp] theorem gathers_subscribe (promise : Nat) (callback : Callback α σ) :
    (heap.subscribe promise callback).1.gathers = heap.gathers := by
  unfold subscribe
  split <;> rfl

/-- A settling fills no slot. -/
@[simp] theorem gathers_settle (promise : Nat) (outcome : Outcome α) :
    (heap.settle promise outcome).1.gathers = heap.gathers := by
  unfold settle
  split <;> rfl

/-- No step takes slots away from those who fill them. -/
theorem gathers_le_step (heap : Heap α σ) (frame : Frame α σ) :
    heap.gathers.length ≤ (heap.step frame).1.gathers.length := by
  cases frame with
  | call => exact Nat.le_refl _
  | task code =>
    cases code with
    | settle place outcome next =>
      -- Neither a settling nor a registration has to do with slots.
      simp [step_settle]
    | subscribe place code next => simp [step_subscribe]
    | deposit place index outcome next =>
      -- A deposit fills slots, and does not take them away.
      rw [step_deposit]
      split <;> simp
    | _ => simp [step, perform]

/-- A step has no part in a collection, and settles no other promise. -/
structure Passes (heap : Heap α σ) (aggregate gather : Nat)
    (result : Heap α σ × List (Frame α σ)) : Prop where
  frames : ∀ frame ∈ result.2, frame.Refrains aggregate gather
  outcomes : ∀ promise, result.1.outcome? promise = heap.outcome? promise
  stored : ∀ promise, ∃ more, result.1.storedOn promise = heap.storedOn promise ++ more ∧
    ∀ callback ∈ more, callback.Refrains aggregate gather
  slots : result.1.gathers[gather]? = heap.gathers[gather]?

/-- A step that changes nothing but what is not looked at here. -/
theorem Passes.of_same {after : Heap α σ} {code : Task α σ} (cells : after.cells = heap.cells)
    (slots : after.gathers[gather]? = heap.gathers[gather]?)
    (refrains : code.Refrains aggregate gather) :
    heap.Passes aggregate gather (after, [.task code]) where
  frames frame member := by rw [List.mem_singleton.1 member]; exact refrains
  outcomes promise := by rw [outcome?, outcome?, cells]
  stored promise := ⟨[], by rw [storedOn, storedOn, cells, List.append_nil], by simp⟩
  slots := slots

/--
A frame that refrains settles another promise, or has no part in the collection.

The promise is there already. The slots are, or are not those that the step makes.
-/
theorem step_of_refrains {frame : Frame α σ} (refrains : frame.Refrains aggregate gather)
    (created : aggregate < heap.cells.length)
    (apart : gather < heap.gathers.length ∨ (heap.step frame).1.gathers.length ≤ gather) :
    (∃ place outcome next cell, frame = .task (.settle place outcome next) ∧ place ≠ aggregate ∧
      heap.cells[place]? = some cell ∧ cell.outcome? = none ∧
      (next true).Refrains aggregate gather) ∨
    heap.Passes aggregate gather (heap.step frame) := by
  cases frame with
  | call promise outcome callback => exact .inr (.of_same rfl rfl (refrains outcome))
  | task code =>
    cases refrains with
    | done =>
      -- A program that is over does nothing.
      exact .inr ⟨nofun, fun _ => rfl, fun _ => ⟨[], (List.append_nil _).symm, nofun⟩, rfl⟩
    | create goesOn =>
      refine .inr ⟨fun frame member => ?_, outcome?_create, fun promise => ⟨[], ?_⟩, rfl⟩
      · -- The new promise is not the one of the collection, which was there before.
        rw [List.mem_singleton.1 member]
        exact goesOn _ (Nat.ne_of_gt created)
      · simpa [step, perform] using storedOn_create promise
    | @settle place outcome next other goesOn =>
      rcases heap.settle_cases place outcome with refused | ⟨cell, found, waits⟩
      · -- Nothing is settled for a second time.
        rw [step_settle, refused]
        exact .inr (.of_same rfl rfl (goesOn false))
      · exact .inl ⟨place, outcome, next, cell, rfl, other, found, waits, goesOn true⟩
    | @subscribe place code next callback goesOn =>
      refine .inr ?_
      rw [step_subscribe]
      refine ⟨fun frame member => ?_, fun promise => outcome?_subscribe .., fun promise =>
        ⟨_, storedOn_subscribe .., fun newcomer member => ?_⟩, by rw [gathers_subscribe]⟩
      · -- The callback is due now, or is stored, and it refrains in either case.
        rcases List.mem_append.1 member with due | last
        · obtain ⟨outcome, _, rfl⟩ := Option.map_eq_some_iff.1 (Option.mem_toList.1 due)
          exact callback
        · rw [List.mem_singleton.1 last]
          exact goesOn
      · split at member
        · rw [List.mem_singleton.1 member]
          exact callback
        · cases member
    | @gather size next goesOn =>
      -- The new slots have another number.
      have other : heap.gathers.length ≠ gather := by
        simp only [step, perform, List.length_append, List.length_singleton] at apart
        omega
      refine .inr (.of_same rfl ?_ (goesOn _ other))
      -- Slots that are there already are left alone, and those that come later are not made here.
      rcases Nat.lt_or_ge gather heap.gathers.length with inside | outside
      · exact List.getElem?_append_left inside
      · rw [List.getElem?_eq_none (by simp; omega), List.getElem?_eq_none outside]
    | deposit other goesOn =>
      refine .inr ?_
      rw [step_deposit]
      -- The deposit is made in other slots, or there are none to make it in.
      split
      · exact .of_same rfl rfl (goesOn _)
      · exact .of_same rfl (List.getElem?_set_ne other) (goesOn _)
    | race goesOn => exact .inr (.of_same rfl rfl (goesOn _))
    | enter goesOn => exact .inr (.of_same rfl rfl (goesOn _))
    | peek goesOn => exact .inr (.of_same rfl rfl (goesOn _))
    | update goesOn => exact .inr (.of_same rfl rfl (goesOn _))

/-- Where all callbacks refrain, nothing that does so leads to anything else. -/
theorem refrains_step {frame : Frame α σ} (refrains : frame.Refrains aggregate gather)
    (created : aggregate < heap.cells.length)
    (apart : gather < heap.gathers.length ∨ (heap.step frame).1.gathers.length ≤ gather)
    (stored : ∀ promise, ∀ callback ∈ heap.storedOn promise,
      callback.Refrains aggregate gather) :
    (∀ after ∈ (heap.step frame).2, after.Refrains aggregate gather) ∧
      (∀ promise, ∀ callback ∈ (heap.step frame).1.storedOn promise,
        callback.Refrains aggregate gather) ∧
      (heap.step frame).1.outcome? aggregate = heap.outcome? aggregate := by
  -- The step settles some other promise, or it passes the collection by.
  rcases step_of_refrains refrains created apart with
    ⟨place, outcome, next, cell, rfl, other, found, waits, goesOn⟩ | passes
  · rw [step_settle]
    refine ⟨fun after member => ?_, fun promise callback member => ?_, ?_⟩
    · -- The callbacks that become due were stored.
      rw [settle_of_pending found waits] at member
      rcases List.mem_append.1 member with due | last
      · obtain ⟨callback, kept, rfl⟩ := List.mem_map.1 due
        exact stored place callback (by simpa [storedOn, found] using kept)
      · exact List.mem_singleton.1 last ▸ goesOn
    · rw [storedOn_settle found waits] at member
      split at member
      · cases member
      · exact stored promise callback member
    · -- The promise that is settled is another one.
      rw [outcome?_settle_of_pending found waits, if_neg other]
  · refine ⟨passes.frames, fun promise callback member => ?_, passes.outcomes aggregate⟩
    obtain ⟨more, all, newcomers⟩ := passes.stored promise
    -- What is stored was stored before, or is new and refrains.
    rw [all] at member
    exact (List.mem_append.1 member).elim (stored promise callback) (newcomers callback)

end Heap

namespace Machine

variable {machine : Machine α σ} {thread : Nat}

/-- No run takes slots away from those who fill them. -/
theorem gathers_le_run (machine : Machine α σ) (acts : List (MachineAct α σ)) :
    machine.heap.gathers.length ≤ (machine.run acts).heap.gathers.length :=
  size_le_run Heap.gathers_le_step machine acts

/--
Nothing but the code on top of one stack has a part in a collection: nobody else has the resolver
of the promise and the slots.
-/
structure Withheld (machine : Machine α σ) (thread aggregate gather : Nat) : Prop where
  others : ∀ other, other ≠ thread → ∀ frame ∈ machine.stack other,
    frame.Refrains aggregate gather
  below : ∀ frame ∈ (machine.stack thread).tail, frame.Refrains aggregate gather
  stored : ∀ promise, ∀ callback ∈ machine.heap.storedOn promise,
    callback.Refrains aggregate gather

/-- What others do neither gives away a promise and slots nor settles the promise. -/
theorem Withheld.act (withheld : machine.Withheld thread aggregate gather)
    (created : aggregate < machine.heap.cells.length) (busy : machine.stack thread ≠ [])
    {act : MachineAct α σ} (refrains : act.Refrains aggregate gather)
    (another : act ≠ .step thread)
    (apart : (machine.act act).heap.gathers.length ≤ gather) :
    (machine.act act).Withheld thread aggregate gather ∧
      aggregate < (machine.act act).heap.cells.length ∧
      (machine.act act).heap.outcome? aggregate = machine.heap.outcome? aggregate := by
  -- The thread itself does nothing, so that its stack stays.
  have still := stack_act another busy
  cases act with
  | call code =>
    refine ⟨⟨fun place differs frame member => ?_, still ▸ withheld.below, withheld.stored⟩,
      created, rfl⟩
    -- The new program stands on its own stack, and the other stacks are as before.
    rcases machine.stack_call code place with same | ⟨_, new⟩
    · exact withheld.others place differs frame (same ▸ member)
    · rw [new, List.mem_singleton] at member
      exact member ▸ refrains
  | step other =>
    have differs : other ≠ thread := fun same => another (by rw [same])
    rw [Machine.act] at apart still ⊢
    cases top : machine.stack other with
    | nil =>
      -- A thread without frames has no step.
      rw [(step_of_idle top).1]
      exact ⟨withheld, created, rfl⟩
    | cons frame rest =>
      obtain ⟨here, untouched, heap, _⟩ := step_of_stack top
      -- The frames of the other thread refrain.
      have strangers := withheld.others other differs
      rw [top] at strangers
      obtain ⟨first, behind⟩ := List.forall_mem_cons.1 strangers
      obtain ⟨frames, stored, same⟩ :=
        Heap.refrains_step first created (.inr (heap ▸ apart)) withheld.stored
      refine ⟨⟨fun place elsewhere after member => ?_, still ▸ withheld.below, heap ▸ stored⟩,
        heap ▸ Nat.lt_of_lt_of_le created (machine.heap.cells_le_step frame), heap ▸ same⟩
      -- What is on the stack of that thread was there before, or has come from its top.
      by_cases stepped : place = other
      · rw [stepped, here] at member
        exact (List.mem_append.1 member).elim (frames after) (behind after)
      · rw [untouched place stepped] at member
        exact withheld.others place elsewhere after member

/-- A run of others neither gives away a promise and slots nor settles the promise. -/
theorem Withheld.run (withheld : machine.Withheld thread aggregate gather)
    (created : aggregate < machine.heap.cells.length) (busy : machine.stack thread ≠ [])
    {acts : List (MachineAct α σ)} (refrains : ∀ act ∈ acts, act.Refrains aggregate gather)
    (others : .step thread ∉ acts) (apart : (machine.run acts).heap.gathers.length ≤ gather) :
    (machine.run acts).Withheld thread aggregate gather ∧
      aggregate < (machine.run acts).heap.cells.length ∧
      (machine.run acts).heap.outcome? aggregate = machine.heap.outcome? aggregate := by
  induction acts generalizing machine with
  | nil => exact ⟨withheld, created, rfl⟩
  | cons act rest ih =>
    obtain ⟨first, behind⟩ := List.forall_mem_cons.1 refrains
    -- Neither the first act nor one of the later acts is a step of the thread.
    obtain ⟨another, elsewhere⟩ := not_or.1 (mt List.mem_cons.2 others)
    -- The slots can only become more, so that the bound at the end holds after the first act too.
    have early : (machine.act act).heap.gathers.length ≤ gather :=
      Nat.le_trans ((machine.act act).gathers_le_run rest) apart
    obtain ⟨withheld, created, same⟩ :=
      withheld.act created busy first (Ne.symm another) early
    have still := stack_act (Ne.symm another) busy
    obtain ⟨withheld, created, also⟩ :=
      ih withheld created (by rwa [still]) behind elsewhere apart
    exact ⟨withheld, created, also.trans same⟩

end Machine

end HttpEngine
