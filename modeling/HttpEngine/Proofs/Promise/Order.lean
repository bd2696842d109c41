import HttpEngine.Proofs.Promise.Delivery

/-!
The order in which callbacks start. Those that wait for a promise start in the order in which they
were registered, on the thread that settles it. A callback that comes later does not wait for them:
it starts at once, on the thread that registers it.
-/

namespace HttpEngine

variable {α σ : Type}

/-- The starts of callbacks with numbers below a bound, in their order. -/
def numberedBelow (bound : Nat) (starts : List (Start α σ)) : List (Start α σ) :=
  starts.filter fun start => decide (start.ticket < bound)

/-- Of no starts none has a small number. -/
@[simp] theorem numberedBelow_nil (bound : Nat) :
    numberedBelow bound ([] : List (Start α σ)) = [] := rfl

/-- Of starts that follow upon others, those with small numbers follow upon these. -/
@[simp] theorem numberedBelow_append (bound : Nat) (starts others : List (Start α σ)) :
    numberedBelow bound (starts ++ others) =
      numberedBelow bound starts ++ numberedBelow bound others :=
  List.filter_append ..

/-- All starts are there if all callbacks have small numbers. -/
theorem numberedBelow_eq_self {bound : Nat} {callbacks : List (Callback α σ)}
    (small : ∀ callback ∈ callbacks, callback.ticket < bound) (outcome : Outcome α) :
    numberedBelow bound (callbacks.map (·.start outcome)) = callbacks.map (·.start outcome) := by
  refine List.filter_eq_self.2 fun start member => ?_
  obtain ⟨callback, inside, rfl⟩ := List.mem_map.1 member
  exact decide_eq_true (small callback inside)

/-- No start is there if no callback has a small number. -/
theorem numberedBelow_eq_nil {bound : Nat} {callbacks : List (Callback α σ)}
    (large : ∀ callback ∈ callbacks, bound ≤ callback.ticket) (outcome : Outcome α) :
    numberedBelow bound (callbacks.map (·.start outcome)) = [] := by
  refine List.filter_eq_nil_iff.2 fun start member => ?_
  obtain ⟨callback, inside, rfl⟩ := List.mem_map.1 member
  rw [decide_eq_true_iff]
  exact Nat.not_lt.2 (large callback inside)

section Lists

variable {promise : Nat}

/-- A callback that is due starts first. -/
@[simp] theorem dueOn_call (outcome : Outcome α) (callback : Callback α σ)
    (frames : List (Frame α σ)) :
    dueOn promise (.call promise outcome callback :: frames) =
      callback.start outcome :: dueOn promise frames := by
  simp [dueOn, Frame.due?]

/-- A callback of another promise has no part in it. -/
theorem dueOn_call_of_ne {place : Nat} (other : place ≠ promise) (outcome : Outcome α)
    (callback : Callback α σ) (frames : List (Frame α σ)) :
    dueOn promise (.call place outcome callback :: frames) = dueOn promise frames := by
  simp [dueOn, Frame.due?, other]

end Lists

namespace Machine

/-- The stack of a thread. One that is not there has nothing to do. -/
def stack (machine : Machine α σ) (thread : Nat) : List (Frame α σ) :=
  machine.threads[thread]?.getD []

/-- A frame on a stack is a frame of the machine. -/
theorem mem_frames_of_mem_stack {machine : Machine α σ} {thread : Nat} {frame : Frame α σ}
    (member : frame ∈ machine.stack thread) : frame ∈ machine.frames := by
  unfold stack at member
  cases there : machine.threads[thread]? with
  | none => simp [there] at member
  | some stack =>
    rw [there, Option.getD_some] at member
    exact List.mem_flatten.2 ⟨stack, List.mem_of_getElem? there, member⟩

/-- New code is on a stack of its own, and the other stacks stay as they are. -/
theorem stack_call (machine : Machine α σ) (code : Task α σ) (thread : Nat) :
    (machine.act (.call code)).stack thread = machine.stack thread ∨
      machine.stack thread = [] ∧ (machine.act (.call code)).stack thread = [.task code] := by
  unfold act stack
  dsimp only
  -- The new stack is the last one, and the others stand where they stood.
  rcases Nat.lt_trichotomy thread machine.threads.length with inside | rfl | outside
  · rw [List.getElem?_append_left inside]
    exact .inl rfl
  · simp
  · rw [List.getElem?_eq_none (by simp; omega), List.getElem?_eq_none (by omega)]
    exact .inl rfl

/-- A thread with an empty stack does nothing. -/
theorem step_of_idle {machine : Machine α σ} {thread : Nat} (idle : machine.stack thread = []) :
    machine.step thread = machine ∧ machine.deeds (.step thread) = [] := by
  unfold stack at idle
  cases there : machine.threads[thread]? with
  | none => simp [step, deeds, there]
  | some stack =>
    obtain rfl : stack = [] := by simpa [there] using idle
    simp [step, deeds, there]

/--
A step of a thread is that of the frame on top of its stack.

What the frame leads to takes its place, and no other stack changes.
-/
theorem step_of_stack {machine : Machine α σ} {thread : Nat} {frame : Frame α σ}
    {rest : List (Frame α σ)} (top : machine.stack thread = frame :: rest) :
    (machine.step thread).stack thread = (machine.heap.step frame).2 ++ rest ∧
      (∀ other, other ≠ thread → (machine.step thread).stack other = machine.stack other) ∧
      (machine.step thread).heap = (machine.heap.step frame).1 ∧
      machine.deeds (.step thread) = machine.heap.deeds frame := by
  have there : machine.threads[thread]? = some (frame :: rest) := by
    unfold stack at top
    cases there : machine.threads[thread]? with
    | none => simp [there] at top
    | some stack => rw [← top, there, Option.getD_some]
  -- The step writes over the one stack, and does to the heap what its frame does.
  obtain ⟨inside, _⟩ := List.getElem?_eq_some_iff.1 there
  refine ⟨?_, fun other differs => ?_, ?_, ?_⟩
  · simp [stack, step, there, List.getElem?_set_self inside]
  · simp [stack, step, there, List.getElem?_set_ne (Ne.symm differs)]
  · simp [step, there]
  · simp [deeds, there]

/-- What acts do that follow upon acts follows upon what these do. -/
theorem history_append (machine : Machine α σ) (acts later : List (MachineAct α σ)) :
    machine.history (acts ++ later) = machine.history acts ++ (machine.run acts).history later := by
  induction acts generalizing machine with
  | nil => rfl
  | cons act rest ih => rw [List.cons_append, history, history, ih, List.append_assoc]; rfl

end Machine

namespace Heap

variable {heap : Heap α σ} {promise : Nat}

/-- Only a settling of a promise that waits gives it an outcome. -/
theorem eq_settle_of_outcome?_step {frame : Frame α σ} {outcome : Outcome α}
    (waits : heap.outcome? promise = none)
    (settled : (heap.step frame).1.outcome? promise = some outcome) :
    ∃ next cell, frame = .task (.settle promise outcome next) ∧
      heap.cells[promise]? = some cell ∧ cell.outcome? = none := by
  cases frame with
  | call place told callback => rw [step, outcome?_record, waits] at settled; cases settled
  | task code =>
    cases code with
    | create next =>
      -- A new promise has no outcome.
      have same := (outcome?_create promise).symm.trans settled
      cases waits.symm.trans same
    | settle place other next =>
      rw [step_settle] at settled
      rcases heap.settle_cases place other with refused | ⟨cell, found, empty⟩
      · -- A settling that is refused gives no outcome.
        rw [refused] at settled
        cases waits.symm.trans settled
      · rw [outcome?_settle_of_pending found empty] at settled
        by_cases same : place = promise
        · -- This promise waits, and takes the outcome.
          subst same
          rw [if_pos rfl] at settled
          cases settled
          exact ⟨next, cell, rfl, found, empty⟩
        · rw [if_neg same, waits] at settled
          cases settled
    | subscribe place code next =>
      rw [step_subscribe, outcome?_subscribe, waits] at settled
      cases settled
    | deposit gather index other next =>
      rw [step_deposit] at settled
      split at settled <;> cases waits.symm.trans settled
    | _ => cases waits.symm.trans settled

/-- A callback that is registered on a settled promise is due at once. -/
theorem subscribe_of_settled {outcome : Outcome α} (settled : heap.outcome? promise = some outcome)
    (callback : Callback α σ) : (heap.subscribe promise callback).2 = some outcome := by
  obtain ⟨cell, found, has⟩ := Option.bind_eq_some_iff.1 settled
  simp [subscribe, found, Cell.subscribe, has]

/-- No code makes a callback due on a settled promise, but for one that it has just registered. -/
theorem dueOn_step_task {outcome : Outcome α} (settled : heap.outcome? promise = some outcome)
    {bound : Nat} (numbered : bound ≤ heap.tickets) (code : Task α σ) :
    numberedBelow bound (dueOn promise (heap.step (.task code)).2) = [] := by
  cases code with
  | settle place other next =>
    rw [step_settle, dueOn_append, numberedBelow_append]
    by_cases same : place = promise
    · -- The settling is refused.
      subst same
      rw [settle_of_settled settled]
      rfl
    · rw [dueOn_map_call_of_ne same]
      rfl
  | subscribe place code next =>
    rw [step_subscribe]
    by_cases same : place = promise
    · -- The callback has the next number, which is not a small one.
      subst same
      rw [subscribe_of_settled settled]
      simpa [numberedBelow, Callback.start] using numbered
    · cases ready : (heap.subscribe place ⟨heap.tickets, code⟩).2 with
      | none => simp
      | some told => simp [dueOn_call_of_ne same]
  | deposit gather index other next =>
    rw [step_deposit]
    split <;> rfl
  | _ => rfl

/-- What a frame of a settled promise was about to start has started, or is still to start. -/
theorem dueOn_step {outcome : Outcome α} (settled : heap.outcome? promise = some outcome)
    {bound : Nat} (numbered : bound ≤ heap.tickets) (frame : Frame α σ) (rest : List (Frame α σ)) :
    numberedBelow bound (dueOn promise (frame :: rest)) =
      numberedBelow bound (startsOn promise (heap.deeds frame)) ++
        numberedBelow bound (dueOn promise ((heap.step frame).2 ++ rest)) := by
  rw [dueOn_append, numberedBelow_append]
  cases frame with
  | task code =>
    -- Code starts no callback itself.
    have nothing : startsOn promise ((Frame.task code).request? heap).toList = [] := by
      cases code <;> simp only [Frame.request?] <;> try rfl
      split <;> rfl
    rw [dueOn_step_task settled numbered, deeds_task, nothing]
    rfl
  | call place told callback =>
    -- The callback of this promise has started, and its code is on the stack instead.
    rw [deeds_call]
    by_cases same : place = promise
    · subst same
      simp [step, startsOn, Deed.started?, numberedBelow, List.filter_cons]
      split <;> rfl
    · simp [step, startsOn, Deed.started?, same, dueOn_call_of_ne same, numberedBelow]

end Heap

namespace Machine

variable {machine : Machine α σ} {promise bound : Nat} {past : List (Deed α σ)}

/--
The callbacks of a promise with numbers below a bound, once the promise has an outcome: one thread
is about to start, in their order, those that have not started yet.
-/
structure Lined (machine : Machine α σ) (promise bound : Nat) (past : List (Deed α σ)) : Prop where
  /-- No callback that is still to be registered is one of them. -/
  numbered : bound ≤ machine.heap.tickets
  lined : ∀ outcome, machine.heap.outcome? promise = some outcome → ∃ owner,
    (∀ other, other ≠ owner → numberedBelow bound (dueOn promise (machine.stack other)) = []) ∧
    numberedBelow bound (startsOn promise past) ++
        numberedBelow bound (dueOn promise (machine.stack owner)) =
      numberedBelow bound ((registeredOn promise past).map (·.start outcome))

/-- The number of a registered callback is one of the numbers that were given out. -/
theorem ticket_mem_ticketsOf {callback : Callback α σ}
    (member : callback ∈ registeredOn promise past) : callback.ticket ∈ ticketsOf past := by
  -- The deed that registers the callback is the one that uses its number.
  obtain ⟨deed, inside, registers⟩ := List.mem_filterMap.1 member
  refine List.mem_map.2 ⟨callback, List.mem_filterMap.2 ⟨deed, inside, ?_⟩, rfl⟩
  cases deed with
  | starts => cases registers
  | registers place newcomer =>
    rw [Deed.registered?] at registers
    split at registers <;> cases registers
    rfl

/-- Numbers that are given out behind others are not smaller. -/
theorem le_of_mem_ticketsOf {before after ticket : Nat}
    (numbers : List.range after = List.range before ++ ticketsOf past)
    (member : ticket ∈ ticketsOf past) : before ≤ ticket := by
  have distinct := List.nodup_range (n := after)
  rw [numbers] at distinct
  exact Nat.le_of_not_lt fun small =>
    (List.nodup_append.1 distinct).2.2 _ (List.mem_range.2 small) _ member rfl

/-- What is registered gets a number that no other callback has had. -/
theorem numberedBelow_registeredOn_deeds {heap : Heap α σ} (numbered : bound ≤ heap.tickets)
    (frame : Frame α σ) (outcome : Outcome α) :
    numberedBelow bound ((registeredOn promise (heap.deeds frame)).map (·.start outcome)) = [] :=
  numberedBelow_eq_nil (fun _ member => Nat.le_trans numbered
    (le_of_mem_ticketsOf (heap.tickets_step frame) (ticket_mem_ticketsOf member))) outcome

/-- No step takes a number back. -/
theorem tickets_le_step (heap : Heap α σ) (frame : Frame α σ) :
    heap.tickets ≤ (heap.step frame).1.tickets := by
  have more := congrArg List.length (heap.tickets_step frame)
  rw [List.length_append, List.length_range, List.length_range] at more
  omega

/-- On a machine on which a promise waits none of its callbacks has started, and all are stored. -/
theorem Accounts.waits (accounts : machine.Accounts past)
    (waits : machine.heap.outcome? promise = none) :
    startsOn promise past = [] ∧ dueOn promise machine.frames = [] ∧
      machine.heap.storedOn promise = registeredOn promise past := by
  have account := accounts promise
  unfold Heap.outcome? at waits
  unfold Heap.storedOn
  generalize machine.heap.cells[promise]? = cell? at account waits ⊢
  generalize registeredOn promise past = registered at account ⊢
  generalize started : startsOn promise past ++ dueOn promise machine.frames = all at account
  -- A cell with an outcome does not wait.
  cases account with
  | absent =>
    obtain ⟨past, due⟩ := List.append_eq_nil_iff.1 started
    simp [past, due]
  | pending =>
    obtain ⟨past, due⟩ := List.append_eq_nil_iff.1 started
    simp [past, due]
  | settled => cases waits

/-- Where no frame is about to start a callback of a promise, no stack is. -/
theorem dueOn_stack (idle : dueOn promise machine.frames = []) (thread : Nat) :
    dueOn promise (machine.stack thread) = [] := by
  unfold dueOn at idle ⊢
  rw [List.filterMap_eq_nil_iff] at idle ⊢
  exact fun frame member => idle frame (mem_frames_of_mem_stack member)

/-- One act keeps the callbacks in line. -/
theorem Lined.act (lined : machine.Lined promise bound past) (accounts : machine.Accounts past)
    (act : MachineAct α σ) :
    (machine.act act).Lined promise bound (past ++ machine.deeds act) := by
  cases act with
  | call code =>
    -- The new stack holds no callback.
    have same (thread : Nat) : dueOn promise ((machine.act (.call code)).stack thread) =
        dueOn promise (machine.stack thread) := by
      rcases machine.stack_call code thread with same | ⟨empty, new⟩
      · rw [same]
      · rw [empty, new]
        rfl
    refine ⟨lined.numbered, fun outcome settled => ?_⟩
    obtain ⟨owner, others, order⟩ := lined.lined outcome settled
    refine ⟨owner, fun other differs => by rw [same, others other differs], ?_⟩
    simpa [same, deeds] using order
  | step thread =>
    cases top : machine.stack thread with
    | nil =>
      obtain ⟨same, nothing⟩ := step_of_idle top
      rw [nothing]
      simpa [Machine.act, same] using lined
    | cons frame rest =>
      obtain ⟨after, untouched, heap, done⟩ := step_of_stack top
      rw [done, Machine.act]
      refine ⟨heap ▸ Nat.le_trans lined.numbered (tickets_le_step ..), fun outcome settled => ?_⟩
      rw [registeredOn_append, List.map_append, numberedBelow_append, startsOn_append,
        numberedBelow_append, numberedBelow_registeredOn_deeds lined.numbered, List.append_nil]
      rw [heap] at settled
      cases before : machine.heap.outcome? promise with
      | none =>
        -- The promise is settled now, and its callbacks are all due on the thread that settles it.
        obtain ⟨next, cell, rfl, found, empty⟩ := Heap.eq_settle_of_outcome?_step before settled
        obtain ⟨started, idle, stored⟩ := accounts.waits before
        have behind : dueOn promise rest = [] := by
          simpa [top] using dueOn_stack idle thread
        refine ⟨thread, fun other differs => ?_, ?_⟩
        · rw [untouched other differs, dueOn_stack idle]
          rfl
        · rw [after, Heap.step_settle, Heap.settle_of_pending found empty, started, ← stored]
          simp [dueOn_map_call, behind, Heap.storedOn, found, Frame.request?]
      | some known =>
        -- A promise keeps its outcome.
        have same : known = outcome := by
          have still := Heap.outcome?_step before frame
          rw [settled] at still
          exact (Option.some.inj still).symm
        subst same
        -- The thread starts the callback on top of its stack, or does something else.
        obtain ⟨owner, others, order⟩ := lined.lined known before
        have moved := Heap.dueOn_step before lined.numbered frame rest
        rw [← top, ← after] at moved
        by_cases here : thread = owner
        · subst here
          refine ⟨thread, fun other differs => ?_, ?_⟩
          · rw [untouched other differs, others other differs]
          · rw [← order, moved, List.append_assoc]
        · -- A thread that has none of the callbacks starts none of them.
          rw [others thread here] at moved
          obtain ⟨nothing, still⟩ := List.append_eq_nil_iff.1 moved.symm
          refine ⟨owner, fun other differs => ?_, ?_⟩
          · by_cases same : other = thread
            · rw [same, still]
            · rw [untouched other same, others other differs]
          · rw [nothing, List.append_nil, untouched owner (Ne.symm here), order]

/-- A run keeps the callbacks in line. -/
theorem Lined.run (lined : machine.Lined promise bound past) (accounts : machine.Accounts past)
    (acts : List (MachineAct α σ)) :
    (machine.run acts).Lined promise bound (past ++ machine.history acts) := by
  induction acts generalizing machine past with
  | nil => rwa [history, List.append_nil]
  | cons act rest ih =>
    rw [history, ← List.append_assoc]
    exact ih (lined.act accounts act) (accounts.act act)

/-- What is on the stack of a thread stays there when something else happens. -/
theorem stack_act {thread : Nat} {act : MachineAct α σ} (another : act ≠ .step thread)
    (busy : machine.stack thread ≠ []) : (machine.act act).stack thread = machine.stack thread := by
  -- The act is the beginning of other code, or the step of another thread.
  cases act with
  | call code => exact (machine.stack_call code thread).resolve_right fun ⟨empty, _⟩ => busy empty
  | step other =>
    have differs : thread ≠ other := fun equal => another (by rw [equal])
    cases top : machine.stack other with
    | nil => rw [Machine.act, (step_of_idle top).1]
    | cons frame rest => exact (step_of_stack top).2.1 thread differs

/-- What is on the stack of a thread stays there until the thread takes a step. -/
theorem stack_run {thread : Nat} {acts : List (MachineAct α σ)} (waits : .step thread ∉ acts)
    (busy : machine.stack thread ≠ []) :
    (machine.run acts).stack thread = machine.stack thread := by
  induction acts generalizing machine with
  | nil => rfl
  | cons act rest ih =>
    obtain ⟨first, others⟩ := not_or.1 (mt List.mem_cons.2 waits)
    have same := stack_act (Ne.symm first) busy
    exact (ih others (by rwa [same])).trans same

/-- Of the callbacks of a run and of what follows upon it, those of the run have small numbers. -/
theorem numberedBelow_registeredOn (shared : σ) (acts later : List (MachineAct α σ))
    (outcome : Outcome α) :
    numberedBelow ((fresh shared).run acts).heap.tickets
        ((registeredOn promise ((fresh shared).history (acts ++ later))).map (·.start outcome)) =
      (registeredOn promise ((fresh shared).history acts)).map (·.start outcome) := by
  rw [history_append, registeredOn_append, List.map_append, numberedBelow_append,
    numberedBelow_eq_self (fun callback member => ?_) outcome,
    numberedBelow_eq_nil (fun callback member => ?_) outcome, List.append_nil]
  · -- What follows gets the numbers behind those that were given out before.
    exact le_of_mem_ticketsOf (((fresh shared).run acts).ticketsOf_history later)
      (ticket_mem_ticketsOf member)
  · rw [← List.mem_range, (fresh shared : Machine α σ).ticketsOf_history acts]
    exact List.mem_append_right _ (ticket_mem_ticketsOf member)

/--
Callbacks that wait for a promise start in the order in which they were registered.

Whoever settles a promise that waits has all its callbacks to start, in the order in which they were
registered, before anything else. Of the callbacks that were registered on a promise without an
outcome, none starts before it has one. Then they have started in their order as far as they have
started, whatever happened in between, each of them with the outcome and with nothing but its code
for that outcome, and once no callback is due on any thread each of them has started once. A
callback that is registered on a promise with an outcome starts with the next step of the thread
that registered it, however many others are still to start on other threads, or deeper on the stack
of this one.
-/
theorem started_in_order (shared : σ) (acts later : List (MachineAct α σ)) (promise : Nat) :
    let machine := (fresh shared).run acts
    let last := machine.run later
    let waiting := registeredOn promise ((fresh shared).history acts)
    let started := numberedBelow machine.heap.tickets
      (startsOn promise ((fresh shared).history (acts ++ later)))
    (machine.heap.outcome? promise = none →
      (∀ thread outcome next stack,
        machine.threads[thread]? = some (.task (.settle promise outcome next) :: stack) →
        promise < machine.heap.cells.length →
        (machine.step thread).threads = machine.threads.set thread
          (waiting.map (.call promise outcome) ++ .task (next true) :: stack)) ∧
      match last.heap.outcome? promise with
      | none => started = []
      | some outcome =>
        started <+: waiting.map (·.start outcome) ∧
        (last.Delivered → started = waiting.map (·.start outcome))) ∧
    ∀ thread code next stack outcome,
      machine.threads[thread]? = some (.task (.subscribe promise code next) :: stack) →
      machine.heap.outcome? promise = some outcome → .step thread ∉ later →
      let callback : Callback α σ := ⟨machine.heap.tickets, code⟩
      let ready := (machine.step thread).run later
      ready.threads[thread]? = some (.call promise outcome callback :: .task next :: stack) ∧
      ready.deeds (.step thread) = [.starts promise (callback.start outcome)] ∧
      ready.step thread =
        { heap := ready.heap.record (.started promise callback.ticket outcome)
          threads := ready.threads.set thread
            (.task (code outcome) :: .task next :: stack) } := by
  intro machine last waiting started
  constructor
  · intro waits
    have accounts : machine.Accounts ((fresh shared).history acts) :=
      (accounts_fresh shared).run acts
    have stored : machine.heap.storedOn promise = waiting := (accounts.waits waits).2.2
    refine ⟨fun thread outcome next stack there inside => ?_, ?_⟩
    · rw [(step_settle_of_pending there inside waits).2.2, stored]
    -- A promise that waits has nothing in line yet.
    have lined : machine.Lined promise machine.heap.tickets ((fresh shared).history acts) :=
      ⟨Nat.le_refl _, fun outcome settled => by rw [waits] at settled; cases settled⟩
    have lastLined := lined.run accounts later
    have lastAccounts := accounts.run later
    rw [← history_append] at lastLined lastAccounts
    cases settled : last.heap.outcome? promise with
    | none =>
      -- As long as the promise waits, nothing starts.
      show numberedBelow _ (startsOn promise _) = []
      rw [(lastAccounts.waits settled).1, numberedBelow_nil]
    | some outcome =>
      obtain ⟨owner, _, order⟩ := lastLined.lined outcome settled
      rw [numberedBelow_registeredOn] at order
      refine ⟨⟨_, order⟩, fun delivered => ?_⟩
      -- No callback is left to start on any thread.
      rw [dueOn_stack (delivered.dueOn_frames promise) owner, numberedBelow_nil,
        List.append_nil] at order
      exact order
  · intro thread code next stack outcome there settled others callback ready
    have top : machine.stack thread = .task (.subscribe promise code next) :: stack := by
      simp [Machine.stack, there]
    -- The callback comes to the top of the stack, and no other thread takes it away.
    have due : (machine.step thread).stack thread =
        .call promise outcome callback :: .task next :: stack := by
      rw [(step_of_stack top).1, Heap.step_subscribe, Heap.subscribe_of_settled settled]
      rfl
    have still : ready.stack thread = .call promise outcome callback :: .task next :: stack :=
      (stack_run others (by rw [due]; exact List.cons_ne_nil _ _)).trans due
    have waiting : ready.threads[thread]? =
        some (.call promise outcome callback :: .task next :: stack) := by
      unfold Machine.stack at still
      cases here : ready.threads[thread]? with
      | none => simp [here] at still
      | some found => rw [← still, here, Option.getD_some]
    exact ⟨waiting, by simp [deeds, waiting], step_call waiting⟩

/-- A promise with two callbacks, the first of which registers a third one on it. -/
def crowded : Task Unit Unit :=
  .create fun promise =>
  .subscribe promise (fun _ => .subscribe promise (fun _ => .done) .done) <|
  .subscribe promise (fun _ => .done) <|
  .settle promise (.ok ()) fun _ => .done

/-- A callback that is registered while others are still to start overtakes them. -/
theorem started_out_of_order :
    let acts := .call crowded :: List.replicate 12 (.step 0)
    ((fresh ()).run acts).Quiet ∧
      (registeredOn 0 ((fresh ()).history acts)).map Callback.ticket = [0, 1, 2] ∧
      (startsOn 0 ((fresh ()).history acts)).map Start.ticket = [0, 2, 1] := by
  decide +kernel

end Machine

end HttpEngine
