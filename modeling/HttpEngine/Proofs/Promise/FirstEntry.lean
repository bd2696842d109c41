import HttpEngine.Proofs.Promise.Bystander
import HttpEngine.Proofs.Promise.Contest

/-!
The race that is run for the promise of the first outcome in time. The winner is the input whose
entry is made first, which need not be the input that was settled first.
-/

namespace HttpEngine

variable {α σ : Type}

namespace Task

/-- What follows upon an entry into a race: the outcome for the aggregate, or nothing. -/
def award (aggregate : Nat) (pack : Nat → α → α) (index : Nat) (outcome : Outcome α)
    (first : Bool) : Task α σ :=
  if first then .settle aggregate (outcome.map (pack index)) fun _ => .done else .done

/-- The entry of an input into a race. -/
def entry (race aggregate : Nat) (pack : Nat → α → α) (index : Nat) (outcome : Outcome α) :
    Task α σ :=
  .enter race (award aggregate pack index outcome)

/-- The entries of several inputs are registered one after the other. -/
theorem enterAll_cons (race aggregate : Nat) (pack : Nat → α → α) (index promise : Nat)
    (rest : List Nat) (next : Task α σ) :
    enterAll race aggregate pack index (promise :: rest) next =
      .subscribe promise (entry race aggregate pack index)
        (enterAll race aggregate pack (index + 1) rest next) := rfl

/-- The promise of the first outcome of some inputs is made before the race for it. -/
theorem whenAny_of_ne_nil {inputs : List Nat} (nonempty : inputs ≠ []) (pack : Nat → α → α)
    (next : Nat → Task α σ) :
    whenAny inputs pack next = .create fun aggregate => .race fun race =>
      enterAll race aggregate pack 0 inputs (next aggregate) := by
  unfold whenAny
  rw [if_neg (by simpa using nonempty)]

end Task

namespace Contest

variable {contest : Contest α} {race : Nat} {next : Task α σ} {frames others : List (Frame α σ)}
  {parts more : List (Part α)} {callbacks newcomers : List (Callback α σ)}
  {indices later : List Nat}

/-- A frame that plays a part in a race. -/
inductive Plays (contest : Contest α) (race : Nat) (next : Task α σ) :
    Frame α σ → Part α → Prop where
  | registering {first : Nat} (inside : first < contest.inputs.length) :
      Plays contest race next
        (.task (.enterAll race contest.aggregate contest.pack first (contest.inputs.drop first)
          next))
        (.registering first)
  /-- The callback of an entry is due. -/
  | due (promise ticket index : Nat) (outcome : Outcome α) :
      Plays contest race next
        (.call promise outcome ⟨ticket, .entry race contest.aggregate contest.pack index⟩)
        (.entry index outcome)
  /-- The callback of an entry has started. -/
  | entry (index : Nat) (outcome : Outcome α) :
      Plays contest race next
        (.task (.entry race contest.aggregate contest.pack index outcome)) (.entry index outcome)
  | prize (index : Nat) (outcome : Outcome α) :
      Plays contest race next
        (.task (.award contest.aggregate contest.pack index outcome true)) (.prize index outcome)

/-- A stack with the parts that its frames play. The others have nothing to do with the race. -/
inductive Stack (contest : Contest α) (race : Nat) (next : Task α σ) :
    List (Frame α σ) → List (Part α) → Prop where
  | nil : Stack contest race next [] []
  | other {frame : Frame α σ} {frames : List (Frame α σ)} {parts : List (Part α)}
      (spares : frame.Spares contest.aggregate race)
      (below : Stack contest race next frames parts) :
      Stack contest race next (frame :: frames) parts
  | part {frame : Frame α σ} {frames : List (Frame α σ)} {part : Part α} {parts : List (Part α)}
      (plays : Plays contest race next frame part) (below : Stack contest race next frames parts) :
      Stack contest race next (frame :: frames) (part :: parts)

/-- The callbacks that a promise stores, with the positions of those that are entries. -/
inductive Keeps (contest : Contest α) (race : Nat) : List (Callback α σ) → List Nat → Prop where
  | nil : Keeps contest race [] []
  | other {callback : Callback α σ} {callbacks : List (Callback α σ)} {indices : List Nat}
      (spares : callback.Spares contest.aggregate race)
      (rest : Keeps contest race callbacks indices) :
      Keeps contest race (callback :: callbacks) indices
  | entry (ticket index : Nat) {callbacks : List (Callback α σ)} {indices : List Nat}
      (rest : Keeps contest race callbacks indices) :
      Keeps contest race (⟨ticket, .entry race contest.aggregate contest.pack index⟩ :: callbacks)
        (index :: indices)

/-- Frames above other frames play their parts first. -/
theorem Stack.append (above : Stack contest race next frames parts)
    (below : Stack contest race next others more) :
    Stack contest race next (frames ++ others) (parts ++ more) := by
  induction above with
  | nil => exact below
  | other spares _ ih => exact .other spares ih
  | part plays _ ih => exact .part plays ih

/-- Frames that have nothing to do with a race play no part in it. -/
theorem Stack.of_spares (spares : ∀ frame ∈ frames, frame.Spares contest.aggregate race) :
    Stack contest race next frames [] := by
  induction frames with
  | nil => exact .nil
  | cons frame rest ih =>
    obtain ⟨first, others⟩ := List.forall_mem_cons.1 spares
    exact .other first (ih others)

/-- Code that has ended plays no part. -/
theorem Stack.done (below : Stack contest race next frames parts) :
    Stack contest race next (.task .done :: frames) parts :=
  .other Task.Spares.done below

/-- Entries that are stored later stand behind the others. -/
theorem Keeps.append (first : Keeps contest race callbacks indices)
    (second : Keeps contest race newcomers later) :
    Keeps contest race (callbacks ++ newcomers) (indices ++ later) := by
  induction first with
  | nil => exact second
  | other spares _ ih => exact .other spares ih
  | entry ticket index _ ih => exact .entry ticket index ih

/-- Callbacks that have nothing to do with a race are no entries. -/
theorem Keeps.of_spares
    (spares : ∀ callback ∈ callbacks, callback.Spares contest.aggregate race) :
    Keeps contest race callbacks [] := by
  induction callbacks with
  | nil => exact .nil
  | cons callback rest ih =>
    obtain ⟨first, others⟩ := List.forall_mem_cons.1 spares
    exact .other first (ih others)

/-- The entries that a promise has stored come to the thread that settles it. -/
theorem Keeps.stack (keeps : Keeps contest race callbacks indices) (promise : Nat)
    (outcome : Outcome α) :
    Stack contest race next (callbacks.map (.call promise outcome))
      (indices.map (.entry · outcome)) := by
  induction keeps with
  | nil => exact .nil
  | other spares _ ih => exact .other spares ih
  | entry ticket index _ ih => exact .part (.due promise ticket index outcome) ih

/-- An entry has to do with the race. -/
theorem not_spares_entry (contest : Contest α) (race index : Nat) (outcome : Outcome α) :
    ¬(Task.entry race contest.aggregate contest.pack index outcome : Task α σ).Spares
      contest.aggregate race := by
  intro spares
  cases spares with
  | enter other => exact other rfl

/-- A frame that plays a part has to do with the race. -/
theorem Plays.not_spares {frame : Frame α σ} {part : Part α}
    (plays : Plays contest race next frame part) : ¬frame.Spares contest.aggregate race := by
  cases plays with
  | registering inside =>
    -- What is registered next is an entry.
    rw [List.drop_eq_getElem_cons inside, Task.enterAll_cons]
    intro spares
    cases spares with
    | subscribe callback =>
      -- Whatever the outcome is, the callback is an entry.
      exact not_spares_entry contest race _ (.error Task.noCandidates) (callback _)
  | due promise ticket index outcome =>
    -- An entry is due, and it enters, whatever the outcome is.
    exact fun spares => not_spares_entry contest race index outcome (spares outcome)
  | entry index outcome => exact not_spares_entry contest race index outcome
  | prize index outcome =>
    -- The prize settles the aggregate, which a stranger must not.
    intro spares
    cases spares with
    | settle other => exact other rfl

/-- Frames that have nothing to do with a race play no part in it, however they are looked at. -/
theorem Stack.eq_nil_of_spares (stack : Stack contest race next frames parts)
    (spares : ∀ frame ∈ frames, frame.Spares contest.aggregate race) : parts = [] := by
  induction stack with
  | nil => rfl
  | other _ _ ih => exact ih fun frame member => spares frame (List.mem_cons_of_mem _ member)
  | part plays _ _ => exact absurd (spares _ List.mem_cons_self) plays.not_spares

/-- Whoever registers inputs is about to go on with the others. -/
theorem stack_registeringFrom (spares : next.Spares contest.aggregate race) (first : Nat) :
    Stack contest race next
      [.task (.enterAll race contest.aggregate contest.pack first (contest.inputs.drop first) next)]
      (contest.registeringFrom first) := by
  unfold registeringFrom
  split
  · rename_i inside
    exact .part (.registering inside) .nil
  · rename_i outside
    rw [List.drop_eq_nil_of_le (Nat.le_of_not_lt outside)]
    exact .other spares .nil

/-- A machine runs a race, which stands like this. -/
structure Agrees (contest : Contest α) (race : Nat) (next : Task α σ) (machine : Machine α σ)
    (standing : Standing α) : Prop where
  lined : ∀ thread, Stack contest race next (machine.stack thread) (standing.parts thread)
  cells : ∀ promise, Keeps contest race (machine.heap.storedOn promise) (standing.lodged promise)
  outcomes : ∀ promise, machine.heap.outcome? promise = standing.outcome? promise
  race : machine.heap.races[race]? = some standing.won
  created : contest.aggregate < machine.heap.cells.length
  inputs : ∀ promise ∈ contest.inputs, promise < machine.heap.cells.length

variable {machine : Machine α σ} {standing after : Standing α} {thread : Nat} {frame : Frame α σ}
  {rest : List (Frame α σ)}

/-- The step of a thread has to do with what is shared, and with the stack of that thread. -/
theorem Agrees.of_step (agrees : contest.Agrees race next machine standing)
    (top : machine.stack thread = frame :: rest)
    (parts : ∀ other, other ≠ thread → after.parts other = standing.parts other)
    (stack : Stack contest race next ((machine.heap.step frame).2 ++ rest) (after.parts thread))
    (cells : ∀ promise,
      Keeps contest race ((machine.heap.step frame).1.storedOn promise) (after.lodged promise))
    (outcomes : ∀ promise, (machine.heap.step frame).1.outcome? promise = after.outcome? promise)
    (won : (machine.heap.step frame).1.races[race]? = some after.won) :
    contest.Agrees race next (machine.step thread) after := by
  obtain ⟨here, untouched, heap, _⟩ := Machine.step_of_stack top
  have grows := machine.heap.cells_le_step frame
  refine ⟨fun other => ?_, fun promise => heap ▸ cells promise,
    fun promise => heap ▸ outcomes promise, heap ▸ won, ?_, fun promise member => ?_⟩
  · -- The thread that steps has what it is left with, and the others what they had.
    by_cases same : other = thread
    · subst same
      rw [here]
      exact stack
    · rw [untouched other same, parts other same]
      exact agrees.lined other
  · rw [heap]
    exact Nat.lt_of_lt_of_le agrees.created grows
  · rw [heap]
    exact Nat.lt_of_lt_of_le (agrees.inputs promise member) grows

/-- The entries that wait for a promise come to the thread that settles it. -/
theorem Agrees.of_settle (agrees : contest.Agrees race next machine standing) {promise : Nat}
    {outcome : Outcome α} {goesOn : Bool → Task α σ}
    (top : machine.stack thread = .task (.settle promise outcome goesOn) :: rest)
    (waits : machine.heap.outcome? promise = none) (inside : promise < machine.heap.cells.length)
    (spares : (goesOn true).Spares contest.aggregate race)
    (below : Stack contest race next rest parts) :
    contest.Agrees race next (machine.step thread)
      (standing.settle thread promise outcome parts) := by
  have found : machine.heap.cells[promise]? = some machine.heap.cells[promise] :=
    List.getElem?_eq_getElem inside
  have empty : machine.heap.cells[promise].outcome? = none := by
    simpa [Heap.outcome?, found] using waits
  refine agrees.of_step top (fun other differs => ?_) ?_ (fun other => ?_) (fun other => ?_) ?_
  · simp [Standing.settle, Standing.goOn, Function.update_of_ne differs]
  · -- The callbacks that were stored come before whoever settles goes on.
    have stored := agrees.cells promise
    rw [Heap.storedOn, found] at stored
    have onward : Stack contest race next [.task (goesOn true)] [] := .other spares .nil
    have here := ((stored.stack promise outcome).append onward).append below
    simpa [Heap.step_settle, Heap.settle_of_pending found empty, Standing.settle, Standing.goOn]
      using here
  · -- The promise that is settled stores no callback any more, and the others what they stored.
    rw [Heap.step_settle, Heap.storedOn_settle found empty]
    by_cases same : promise = other
    · subst same
      simpa [Standing.settle] using Keeps.nil
    · simpa [Standing.settle, same, Function.update_of_ne (Ne.symm same)] using agrees.cells other
  · rw [Heap.step_settle, Heap.outcome?_settle_of_pending found empty]
    by_cases same : promise = other
    · subst same
      simp [Standing.settle]
    · simpa [Standing.settle, same, Function.update_of_ne (Ne.symm same)] using
        agrees.outcomes other
  · rw [Heap.step_settle, Heap.races_settle]
    exact agrees.race

/-- A frame that has nothing to do with a race settles another promise, or changes nothing. -/
theorem Agrees.step_of_spares (agrees : contest.Agrees race next machine standing)
    (top : machine.stack thread = frame :: rest)
    (spares : frame.Spares contest.aggregate race)
    (below : Stack contest race next rest (standing.parts thread)) :
    ∃ after, contest.Agrees race next (machine.step thread) after ∧
      Relation.ReflTransGen contest.Move standing after := by
  -- A stranger can settle another promise, or does nothing that the race would notice.
  obtain ⟨raced, _⟩ := List.getElem?_eq_some_iff.1 agrees.race
  rcases Heap.step_of_spares spares agrees.created (.inl raced) with
    ⟨place, outcome, goesOn, cell, rfl, other, found, empty, goesOnSpares⟩ | quietly
  · have waits : machine.heap.outcome? place = none := by simp [Heap.outcome?, found, empty]
    obtain ⟨inside, _⟩ := List.getElem?_eq_some_iff.1 found
    exact ⟨_, agrees.of_settle top waits inside goesOnSpares below,
      .single (.settles thread outcome (agrees.outcomes place ▸ waits) other)⟩
  · refine ⟨standing, agrees.of_step top (fun _ _ => rfl) ?_ (fun promise => ?_)
      (fun promise => ?_) ?_, .refl⟩
    · exact (Stack.of_spares quietly.frames).append below
    · obtain ⟨newcomers, stored, strangers⟩ := quietly.stored promise
      rw [stored, ← List.append_nil (standing.lodged promise)]
      exact (agrees.cells promise).append (.of_spares strangers)
    · rw [quietly.outcomes, agrees.outcomes]
    · rw [quietly.races, agrees.race]

/-- A frame that plays a part in a race makes a move, or is still about to make it. -/
theorem Agrees.step_of_plays (agrees : contest.Agrees race next machine standing)
    (nextSpares : next.Spares contest.aggregate race) {part : Part α}
    (top : machine.stack thread = frame :: rest) (plays : Plays contest race next frame part)
    (below : Stack contest race next rest parts) (here : standing.parts thread = part :: parts) :
    ∃ after, contest.Agrees race next (machine.step thread) after ∧
      Relation.ReflTransGen contest.Move standing after := by
  cases plays with
  | @registering index inside =>
    -- The next input is registered with: its entry is stored, or it is due at once.
    rw [List.drop_eq_getElem_cons inside, Task.enterAll_cons] at top
    have input : contest.inputs[index]? = some contest.inputs[index] :=
      List.getElem?_eq_getElem inside
    have there := agrees.inputs _ (List.getElem_mem inside)
    generalize contest.inputs[index] = promise at top input there
    have onward := (stack_registeringFrom nextSpares (index + 1)).append below
    cases told : machine.heap.outcome? promise with
    | none =>
      -- The input waits, so that the entry is stored behind those that are there.
      have waits := told
      rw [agrees.outcomes] at waits
      refine ⟨_, ?_, .single (.lodges here input waits)⟩
      refine agrees.of_step top (fun other differs => ?_) ?_ (fun other => ?_) (fun other => ?_) ?_
      · simp [Standing.goOn, Function.update_of_ne differs]
      · simpa [Heap.step_subscribe, Heap.subscribe_of_waits told, Standing.goOn] using onward
      · rw [Heap.step_subscribe, Heap.storedOn_subscribe]
        by_cases same : promise = other
        · subst same
          simpa [there, told] using
            (agrees.cells promise).append (.entry machine.heap.tickets index .nil)
        · simpa [same, Function.update_of_ne (Ne.symm same)] using agrees.cells other
      · rw [Heap.step_subscribe, Heap.outcome?_subscribe, agrees.outcomes]
        rfl
      · rw [Heap.step_subscribe, Heap.races_subscribe]
        exact agrees.race
    | some outcome =>
      -- The input has its outcome, so that nothing is stored and the entry is run.
      have settled := told
      rw [agrees.outcomes] at settled
      refine ⟨_, ?_, .single (.finds here input settled)⟩
      refine agrees.of_step top (fun other differs => ?_) ?_ (fun other => ?_) (fun other => ?_) ?_
      · simp [Standing.goOn, Function.update_of_ne differs]
      · simpa [Heap.step_subscribe, Heap.subscribe_of_settled told, Standing.goOn] using
          Stack.part (.due promise machine.heap.tickets index outcome) onward
      · have kept : ¬(promise = other ∧ other < machine.heap.cells.length ∧
            machine.heap.outcome? other = none) := by
          rintro ⟨rfl, _, waits⟩
          cases told.symm.trans waits
        rw [Heap.step_subscribe, Heap.storedOn_subscribe, if_neg kept, List.append_nil]
        exact agrees.cells other
      · rw [Heap.step_subscribe, Heap.outcome?_subscribe, agrees.outcomes]
        rfl
      · rw [Heap.step_subscribe, Heap.races_subscribe]
        exact agrees.race
  | due promise ticket index outcome =>
    -- The callback has started, and the entry is still to be made.
    refine ⟨standing, ?_, .refl⟩
    refine agrees.of_step top (fun _ _ => rfl) ?_ agrees.cells agrees.outcomes agrees.race
    rw [here]
    exact .part (.entry index outcome) below
  | entry index outcome =>
    -- The entry takes the prize if nobody else has taken it.
    obtain ⟨raced, won⟩ := List.getElem?_eq_some_iff.1 agrees.race
    have after : (machine.heap.races.set race true)[race]? = some true :=
      List.getElem?_set_self raced
    cases nobody : standing.won with
    | false =>
      refine ⟨_, ?_, .single (.wins here nobody)⟩
      refine agrees.of_step top (fun other differs => ?_) ?_ agrees.cells agrees.outcomes after
      · simp [Standing.goOn, Function.update_of_ne differs]
      · simpa [Heap.step, Heap.perform, Task.entry, agrees.race, nobody, Standing.goOn] using
          Stack.part (.prize index outcome) below
    | true =>
      refine ⟨_, ?_, .single (.loses here nobody)⟩
      refine agrees.of_step top (fun other differs => ?_) ?_ agrees.cells agrees.outcomes
        (after.trans (congrArg some nobody.symm))
      · simp [Standing.goOn, Function.update_of_ne differs]
      · simpa [Heap.step, Heap.perform, Task.entry, Task.award, agrees.race, nobody, Standing.goOn]
          using Stack.done below
  | prize index outcome =>
    -- The winner settles the aggregate, unless it is settled already.
    cases told : machine.heap.outcome? contest.aggregate with
    | none =>
      have waits := told
      rw [agrees.outcomes] at waits
      exact ⟨_, agrees.of_settle top told agrees.created .done below, .single (.pays here waits)⟩
    | some paid =>
      have settled := told
      rw [agrees.outcomes] at settled
      -- The aggregate keeps what it was paid.
      have refused : machine.heap.step
          (.task (.award contest.aggregate contest.pack index outcome true)) =
          (machine.heap.record (.refused contest.aggregate), [.task .done]) := by
        rw [Task.award, if_pos rfl, Heap.step_settle, Heap.settle_of_settled told]
        rfl
      refine ⟨_, ?_, .single (.refuses here settled)⟩
      refine agrees.of_step top (fun other differs => ?_) ?_ (fun other => ?_) (fun other => ?_) ?_
      · simp [Standing.goOn, Function.update_of_ne differs]
      · simpa [refused, Standing.goOn] using Stack.done below
      · rw [refused]
        exact agrees.cells other
      · rw [refused]
        exact agrees.outcomes other
      · rw [refused]
        exact agrees.race

/-- Whatever happens on the machine, the race has made moves, or stands as before. -/
theorem Agrees.act (agrees : contest.Agrees race next machine standing)
    (nextSpares : next.Spares contest.aggregate race) {act : MachineAct α σ}
    (spares : act.Spares contest.aggregate race) :
    ∃ after, contest.Agrees race next (machine.act act) after ∧
      Relation.ReflTransGen contest.Move standing after := by
  cases act with
  | call code =>
    refine ⟨standing, { agrees with lined := fun thread => ?_ }, .refl⟩
    have before := agrees.lined thread
    rcases machine.stack_call code thread with same | ⟨empty, new⟩
    · rwa [same]
    · -- A thread without frames had no part in the race.
      rw [empty] at before
      rw [new, before.eq_nil_of_spares (by simp)]
      exact .other spares .nil
  | step thread =>
    -- A thread does the part that is on top of its stack.
    cases top : machine.stack thread with
    | nil => exact ⟨standing, by rwa [Machine.act, (Machine.step_of_idle top).1], .refl⟩
    | cons frame rest =>
      have here := agrees.lined thread
      rw [top] at here
      generalize played : standing.parts thread = parts at here
      cases here with
      | other frameSpares below =>
        exact agrees.step_of_spares top frameSpares (played ▸ below)
      | part plays below => exact agrees.step_of_plays nextSpares top plays below played

/-- Whatever a run does, the race has made moves, or stands as before. -/
theorem Agrees.run (agrees : contest.Agrees race next machine standing)
    (nextSpares : next.Spares contest.aggregate race) {acts : List (MachineAct α σ)}
    (spares : ∀ act ∈ acts, act.Spares contest.aggregate race) :
    ∃ after, contest.Agrees race next (machine.run acts) after ∧
      Relation.ReflTransGen contest.Move standing after := by
  induction acts generalizing machine standing with
  | nil => exact ⟨standing, agrees, .refl⟩
  | cons act rest ih =>
    obtain ⟨first, others⟩ := List.forall_mem_cons.1 spares
    obtain ⟨middle, agrees, moved⟩ := agrees.act nextSpares first
    obtain ⟨after, agrees, further⟩ := ih agrees others
    exact ⟨after, agrees, moved.trans further⟩

/-- A race that has just been made is about to have its entries registered. -/
theorem agrees_opening {stack : List (Frame α σ)}
    (top : machine.stack thread = .task (.race fun race =>
      .enterAll race contest.aggregate contest.pack 0 contest.inputs next) :: stack)
    (sealed : machine.Sealed thread contest.aggregate machine.heap.races.length)
    (nextSpares : next.Spares contest.aggregate machine.heap.races.length)
    (created : contest.aggregate < machine.heap.cells.length)
    (inputs : ∀ promise ∈ contest.inputs, promise < machine.heap.cells.length) :
    contest.Agrees machine.heap.races.length next (machine.step thread)
      (contest.opening thread machine.heap.outcome?) := by
  obtain ⟨here, untouched, heap, _⟩ := Machine.step_of_stack top
  have same : (machine.step thread).heap =
      { machine.heap with races := machine.heap.races ++ [false] } := heap
  refine ⟨fun other => ?_, fun promise => ?_, fun promise => by rw [same]; rfl, ?_, ?_, ?_⟩
  · -- The thread that makes the race registers its inputs, and the others have no part in it.
    by_cases caller : other = thread
    · subst caller
      have below := sealed.below
      rw [top] at below
      have onward := (stack_registeringFrom nextSpares 0).append (Stack.of_spares below)
      simpa [here, Heap.step, Heap.perform, opening] using onward
    · rw [untouched other caller]
      simpa [opening, caller] using Stack.of_spares (sealed.others other caller)
  · rw [same]
    exact .of_spares (sealed.stored promise)
  · rw [same]
    exact List.getElem?_concat_length
  · rw [same]
    exact created
  · rw [same]
    exact inputs

end Contest

namespace Machine

variable {machine : Machine α σ} {thread : Nat} {inputs : List Nat} {pack : Nat → α → α}
  {next : Nat → Task α σ} {stack : List (Frame α σ)} {before early late : List (MachineAct α σ)}

/-- A quiet machine has empty stacks. -/
theorem stack_of_quiet (quiet : machine.Quiet) (thread : Nat) : machine.stack thread = [] := by
  unfold stack
  cases there : machine.threads[thread]? with
  | none => rfl
  | some frames => exact quiet frames (List.mem_of_getElem? there)

/-- The first step makes the aggregate, which waits, and nothing else changes. -/
theorem step_whenAny {race : Nat}
    (called : machine.stack thread = .task (.whenAny inputs pack next) :: stack)
    (candidates : inputs ≠ [])
    (sealed : machine.Sealed thread machine.heap.cells.length race) :
    let aggregate := machine.heap.cells.length
    let made := machine.step thread
    made.stack thread = .task (.race fun race =>
        .enterAll race aggregate pack 0 inputs (next aggregate)) :: stack ∧
      made.Sealed thread aggregate race ∧ aggregate < made.heap.cells.length ∧
      made.heap.outcome? aggregate = none := by
  intro aggregate made
  rw [Task.whenAny_of_ne_nil candidates] at called
  obtain ⟨here, untouched, heap, _⟩ := step_of_stack called
  have same : made.heap = { machine.heap with cells := machine.heap.cells ++ [.pending] } := heap
  refine ⟨here, ⟨fun other differs => ?_, ?_, fun promise => ?_⟩, ?_, ?_⟩
  · -- The other threads were strangers, and did not step.
    rw [untouched other differs]
    exact sealed.others other differs
  · have below := sealed.below
    rw [called] at below
    rw [here]
    exact below
  · rw [same, Heap.storedOn_create]
    exact sealed.stored promise
  · simp [same, aggregate]
  · -- There is no such promise before.
    rw [same, Heap.outcome?_create, Heap.outcome?, List.getElem?_eq_none (Nat.le_refl _)]
    rfl

/--
The promise of the first outcome in time gets the outcome of the input whose entry is made first.

The inputs all wait when the race is started, the acts `before` come between the making of the
promise and that of the race, and nobody else can settle the one or enter the other. The promise
waits as long as all inputs do, it does not wait any more when some input has an outcome and all
threads have nothing left to do, and its outcome never changes. It is the outcome of an input, with
the position of the input. When the race is won, that input has its outcome already, so that it is
the first in time if it is the only one that has. If it waits when all entries have been registered,
its position is the first that it has.
-/
theorem first_entry_wins
    (called : machine.stack thread = .task (.whenAny inputs pack next) :: stack)
    (candidates : inputs ≠ [])
    (waiting : ∀ promise ∈ inputs, promise < machine.heap.cells.length ∧
      machine.heap.outcome? promise = none)
    (others : .step thread ∉ before) :
    let aggregate := machine.heap.cells.length
    let created := (machine.step thread).run before
    let race := created.heap.races.length
    let now := (created.step thread).run early
    let last := now.run late
    machine.Sealed thread aggregate race → (next aggregate).Spares aggregate race →
    (∀ act ∈ before ++ early ++ late, act.Spares aggregate race) →
    created.heap.outcome? aggregate = none ∧
    ((∀ promise ∈ inputs, now.heap.outcome? promise = none) →
      now.heap.outcome? aggregate = none) ∧
    ((∃ promise ∈ inputs, now.heap.outcome? promise ≠ none) → now.Quiet →
      now.heap.outcome? aggregate ≠ none) ∧
    (∀ outcome, now.heap.outcome? aggregate = some outcome →
      last.heap.outcome? aggregate = some outcome) ∧
    ∀ outcome, last.heap.outcome? aggregate = some outcome → ∃ index promise told,
      inputs[index]? = some promise ∧ last.heap.outcome? promise = some told ∧
      outcome = told.map (pack index) ∧
      (now.heap.races[race]? = some true → now.heap.outcome? promise = some told) ∧
      (now.stack thread = .task (next aggregate) :: stack → now.heap.outcome? promise = none →
        ∀ earlier < index, inputs[earlier]? ≠ some promise) := by
  intro aggregate created race now last sealed nextSpares spares
  rw [List.forall_mem_append, List.forall_mem_append] at spares
  obtain ⟨⟨beforeSpares, earlySpares⟩, lateSpares⟩ := spares
  let contest : Contest α := ⟨inputs, pack, aggregate⟩
  -- The aggregate is made, and others may do something before the race is.
  obtain ⟨made, madeSealed, madeCreated, madeWaits⟩ := step_whenAny called candidates sealed
  have busy : (machine.step thread).stack thread ≠ [] := made ▸ List.cons_ne_nil _ _
  obtain ⟨sealed, there, same⟩ :=
    madeSealed.run madeCreated busy beforeSpares others (Nat.le_refl race)
  have waits : created.heap.outcome? aggregate = none := same.trans madeWaits
  have top := (stack_run others busy).trans made
  have agrees : contest.Agrees race (next aggregate) (created.step thread)
      (contest.opening thread created.heap.outcome?) :=
    Contest.agrees_opening top sealed nextSpares there fun promise member =>
      Nat.lt_trans (waiting promise member).1 there
  -- The race makes its moves, early and late.
  obtain ⟨standing, nowAgrees, course⟩ := agrees.run nextSpares earlySpares
  obtain ⟨after, lastAgrees, further⟩ := nowAgrees.run nextSpares lateSpares
  have fair := contest.fair_opening.moves course
  have runs : contest.Runs standing :=
    Contest.Runs.moves (.inl (contest.open_opening waits)) contest.fair_opening course
  refine ⟨waits, fun pending => ?_, fun ⟨promise, member, settled⟩ quiet => ?_,
    fun outcome settled => outcome?_run settled late, fun outcome settled => ?_⟩
  · rw [nowAgrees.outcomes]
    exact runs.waits fun promise member =>
      (nowAgrees.outcomes promise).symm.trans (pending promise member)
  · rw [nowAgrees.outcomes] at settled ⊢
    refine runs.settled fair (fun place => ?_) member settled
    -- A quiet machine has empty stacks, on which no part is played.
    have empty := stack_of_quiet quiet place
    exact (nowAgrees.lined place).eq_nil_of_spares (by simp [now, empty])
  · rw [lastAgrees.outcomes] at settled
    have lined (promise : Nat) (held : now.stack thread = .task (next aggregate) :: stack ∧
        now.heap.outcome? promise = none) :
        standing.outcome? promise = none ∧ contest.Lined standing promise := by
      obtain ⟨returned, pending⟩ := held
      rw [nowAgrees.outcomes] at pending
      obtain ⟨first, filling⟩ := contest.filling_opening.moves course
      refine ⟨pending, filling.lined fair ?_ pending⟩
      -- The thread that made the race is behind it, so that no part of it is on its stack.
      refine (nowAgrees.lined thread).eq_nil_of_spares fun frame member => ?_
      rw [returned] at member
      rcases List.mem_cons.1 member with rfl | below
      · exact nextSpares
      · exact sealed.below frame (by rw [top]; exact below)
    obtain ⟨index, promise, told, input, has, equal, already, least⟩ :=
      runs.paid fair further lined settled
    refine ⟨index, promise, told, input, (lastAgrees.outcomes promise).trans has, equal,
      fun won => (nowAgrees.outcomes promise).trans (already ?_), fun back pending =>
        least ⟨back, pending⟩⟩
    exact Option.some.inj (nowAgrees.race.symm.trans won)

/-- A value with the position that it comes from. -/
def positioned (index value : Nat) : Nat := 10 * index + value

/-- A race in which one promise has two positions. Its promises are settled in their order. -/
def contested : Task Nat Unit :=
  .create fun first =>
  .create fun second =>
  .whenAny [first, second, first] positioned fun _ =>
  .settle first (.ok 1) fun _ =>
  .settle second (.ok 2) fun _ => .done

/-- The first promise wins at its first position, and the second one comes too late. -/
theorem first_entry_wins_contested :
    let machine : Machine Nat Unit := (fresh ()).run [.call contested, .step 0, .step 0]
    let now := ((machine.step 0).step 0).run (List.replicate 3 (.step 0))
    let last := now.run (List.replicate 14 (.step 0))
    last.Quiet ∧ ∃ index promise told, [0, 1, 0][index]? = some promise ∧
      last.heap.outcome? promise = some told ∧ Except.ok 1 = told.map (positioned index) ∧
      ∀ earlier < index, [0, 1, 0][earlier]? ≠ some promise := by
  intro machine now last
  refine ⟨by decide +kernel, ?_⟩
  have called : machine.stack 0 = [.task (.whenAny [0, 1, 0] positioned fun _ =>
      .settle 0 (.ok 1) fun _ => .settle 1 (.ok 2) fun _ => .done)] := rfl
  have waiting : ∀ promise ∈ [0, 1, 0], promise < machine.heap.cells.length ∧
      machine.heap.outcome? promise = none := by decide +kernel
  have sealed : machine.Sealed 0 2 0 :=
    { others := fun other differs frame member => by
        obtain ⟨place, rfl⟩ := Nat.exists_eq_succ_of_ne_zero differs
        exact absurd member List.not_mem_nil
      below := nofun
      stored := fun promise callback member => by
        match promise, member with
        | 0, member => exact absurd member List.not_mem_nil
        | 1, member => exact absurd member List.not_mem_nil
        | _ + 2, member => exact absurd member List.not_mem_nil }
  have spares : ∀ act ∈ [] ++ List.replicate 3 (.step 0) ++ List.replicate 14 (.step 0),
      (act : MachineAct Nat Unit).Spares 2 0 := by
    intro act member
    rw [List.nil_append, ← List.replicate_add] at member
    rw [List.eq_of_mem_replicate member]
    trivial
  have wins := first_entry_wins called (by simp) waiting (List.not_mem_nil) sealed
    (.settle (by decide) fun _ => .settle (by decide) fun _ => .done) spares
  have paid : last.heap.outcome? 2 = some (.ok 1) := by decide +kernel
  have returned : now.stack 0 =
      [.task (.settle 0 (.ok 1) fun _ => .settle 1 (.ok 2) fun _ => .done)] := rfl
  have pending : ∀ promise ∈ [0, 1, 0], now.heap.outcome? promise = none := by decide +kernel
  obtain ⟨index, promise, told, input, settled, equal, _, least⟩ := wins.2.2.2.2 (.ok 1) paid
  exact ⟨index, promise, told, input, settled, equal,
    least returned (pending promise (List.mem_of_getElem? input))⟩

/-- A race in which the settling of the first promise settles the second one, before the race. -/
def nested : Task Nat Unit :=
  .create fun first =>
  .create fun second =>
  .subscribe first (fun _ => .settle second (.ok 2) fun _ => .done) <|
  .whenAny [first, second] positioned fun _ =>
  .settle first (.ok 1) fun _ => .done

/-- The promise that is settled first need not win. -/
theorem first_settled_loses :
    let last := (fresh ()).run (.call nested :: List.replicate 24 (.step 0))
    last.Quiet ∧ last.heap.journal.filterMap (fun
        | .settled promise _ => some promise
        | _ => none) = [0, 1, 2] ∧
      last.heap.outcome? 2 = some (.ok (positioned 1 2)) := by
  refine ⟨by decide +kernel, by decide +kernel, rfl⟩

end Machine

end HttpEngine
