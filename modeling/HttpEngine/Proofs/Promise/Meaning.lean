import HttpEngine.Proofs.Promise.Delivery
import HttpEngine.Proofs.Promise.Upkeep
import Mathlib.Algebra.GroupWithZero.Nat

/-!
What promises come to when no call is in progress. Each has the outcome that its origin gives it,
and neither the order of the settlings nor that of the registrations has a part in it.
-/

namespace HttpEngine

variable {α : Type} {pack : List α → α}

/-- The order of the frames does not matter to the duties that lie with them. -/
theorem World.InOrder.perm {world : World α} {frames others : List (Frame α (Ledger α))}
    (inOrder : world.InOrder pack frames) (same : frames.Perm others) :
    world.InOrder pack others := by
  obtain ⟨duties, books, carry⟩ := inOrder
  exact ⟨duties, books, carry.perm ((same.map _).append_right _)⟩

namespace Machine

variable {machine : Machine α (Ledger α)}

/-- The duties of a machine lie with its frames and with the callbacks that wait on its heap. -/
def InOrder (pack : List α → α) (machine : Machine α (Ledger α)) : Prop :=
  ∃ world : World α, world.heap = machine.heap ∧ world.InOrder pack machine.frames

/-- There are no duties before anything happens. -/
theorem inOrder_fresh : (fresh {} : Machine α (Ledger α)).InOrder pack := by
  refine ⟨⟨[], [], (fresh {} : Machine α (Ledger α)).heap⟩, rfl, [], ?_, .nil⟩
  constructor <;> simp [fresh, World.Noted, Heap.outcome?]

/-- A program that is called, and a step of a thread, leave everything in order. -/
theorem InOrder.act (inOrder : machine.InOrder pack) (act : PromiseAct α) :
    (machine.act (act.toMachineAct pack)).InOrder pack := by
  obtain ⟨world, same, duties, books, carry⟩ := inOrder
  cases act with
  | call program =>
    -- A program has nothing to do but what it takes upon itself.
    have owes : Owes pack world (program.task pack fun _ => .done) [] :=
      owes_task program fun _ _ _ _ => .done (by simp)
    refine ⟨world, same, duties, books, ?_⟩
    rw [PromiseAct.toMachineAct, frames_call, List.map_append, List.append_assoc]
    exact World.carry_behind owes carry
  | step thread =>
    rw [PromiseAct.toMachineAct, Machine.act]
    rcases machine.step_cases thread with ⟨nothing, _⟩ | ⟨frame, others, before, after, heap, _⟩
    · rw [nothing]
      exact ⟨world, same, duties, books, carry⟩
    · have there : world.InOrder pack (frame :: others) :=
        World.InOrder.perm ⟨duties, books, carry⟩ before
      -- The frame that takes the step comes to the front, and the others stay behind.
      obtain ⟨later, stepped, inOrder⟩ := there.step
      rw [same] at stepped inOrder
      exact ⟨later, stepped.trans heap.symm, inOrder.perm after.symm⟩

/-- Programs that run leave everything in order. -/
theorem inOrder_runPrograms (acts : List (PromiseAct α)) :
    (runPrograms pack acts).InOrder pack := by
  have run (machine : Machine α (Ledger α)) (inOrder : machine.InOrder pack) :
      (machine.run (acts.map (PromiseAct.toMachineAct pack))).InOrder pack := by
    -- Each act leaves in order what it finds in order.
    induction acts generalizing machine with
    | nil => exact inOrder
    | cons act rest ih => exact ih _ (inOrder.act act)
  exact run _ inOrder_fresh

/-- A callback that waits after programs ran waits for a promise without an outcome. -/
theorem waits_of_stored (acts : List (PromiseAct α)) {promise : Nat}
    {cell : Cell α (Callback α (Ledger α))} {callback : Callback α (Ledger α)}
    (found : (runPrograms pack acts).heap.cells[promise]? = some cell)
    (stored : callback ∈ cell.callbacks) :
    (runPrograms pack acts).heap.outcome? promise = none := by
  -- The callbacks of a promise with an outcome have started, or are due on some thread.
  have account := (accounts_fresh {}).run (acts.map (PromiseAct.toMachineAct pack)) promise
  change Delivers (runPrograms pack acts).heap.cells[promise]? _ _ at account
  rw [Heap.outcome?, found]
  rw [found] at account
  generalize startsOn promise _ ++ _ = starts at account
  -- A cell that stores a callback is one that waits.
  cases account with
  | pending => rfl
  | settled => cases stored

end Machine

section Quiet

variable {acts : List (PromiseAct α)} {world : World α} {duties : List Duty}

/-- On a quiet machine duties lie with callbacks on promises that wait. -/
theorem awaits_of_quiet (quiet : (runPrograms pack acts).Quiet)
    (same : world.heap = (runPrograms pack acts).heap)
    (carry : Carry pack world ((runPrograms pack acts).frames.map .frame ++ world.heap.stored)
      duties)
    {duty : Duty} (member : duty ∈ duties) :
    ∃ promise, world.heap.outcome? promise = none ∧ world.Awaits pack promise duty := by
  rw [Machine.frames_of_quiet quiet] at carry
  obtain ⟨carrier, there, mine, owes, known⟩ := carry.exists_of_mem member
  -- Without frames only callbacks are left to have the duty, and those wait.
  obtain ⟨promise, cell, callback, found, stored, rfl⟩ := Heap.mem_stored there
  refine ⟨promise, ?_, owes.1 duty known⟩
  rw [same] at found ⊢
  exact Machine.waits_of_stored acts found stored

variable (books : world.Books pack duties)
  (awaits : ∀ duty ∈ duties, ∃ promise, world.heap.outcome? promise = none ∧
    world.Awaits pack promise duty)

include books awaits

/-- What a promise that is not settled waits for is not settled, either. -/
theorem exists_waits {promise : Nat} {origin : Origin α}
    (known : world.origins[promise]? = some origin) (derived : origin.isDerived)
    (waits : world.heap.outcome? promise = none) :
    ∃ input, world.heap.outcome? input = none ∧
      match origin with
      | .source => False
      | .mapped other _ => input = other
      | .flattened other site =>
        input = other ∨ ∃ value, world.graph.Means pack other (.ok value) ∧
          world.heap.shared.found? site = some (value, input)
      | .gathered inputs => input ∈ inputs := by
  rcases books.due promise origin known derived waits with
    member | ⟨gather, index, inputs, team, member⟩
  · -- Somebody has to settle the promise, and waits for what it is made from.
    obtain ⟨input, waits, duty⟩ := awaits _ member
    refine ⟨input, waits, ?_⟩
    rcases duty with ⟨f, known'⟩ | ⟨site, known'⟩ | ⟨other, site, value, known', means, found⟩ <;>
      cases known.symm.trans known'
    · rfl
    · exact .inl rfl
    · exact .inr ⟨value, means, found⟩
  · -- Somebody still has to make a deposit for the promise.
    obtain ⟨input, waits, other, entries, team', here⟩ := awaits _ member
    cases team.symm.trans team'
    cases known.symm.trans (books.teams _ _ _ team)
    exact ⟨input, waits, List.mem_of_getElem? here⟩

/-- Every promise has the outcome that it means, if it means any. -/
theorem outcome?_of_means {promise : Nat} {outcome : Outcome α}
    (means : world.graph.Means pack promise outcome) :
    world.heap.outcome? promise = some outcome := by
  have settles {promise : Nat} {outcome : Outcome α}
      (means : world.graph.Means pack promise outcome)
      (settled : world.heap.outcome? promise ≠ none) :
      world.heap.outcome? promise = some outcome := by
    obtain ⟨other, taken⟩ := Option.ne_none_iff_exists'.1 settled
    rw [taken, means.unique (books.sound _ _ taken)]
  -- What a promise is made from is settled by induction, so that the promise does not wait for it.
  induction means with
  | source origin settled => exact settled
  | mapped origin means ih =>
    refine settles (.mapped origin means) fun waits => ?_
    obtain ⟨input, waits, same⟩ := exists_waits books awaits origin rfl waits
    simp only at same
    simp [same, ih] at waits
  | rejected origin means ih =>
    refine settles (.rejected origin means) fun waits => ?_
    obtain ⟨input, waits, rfl | ⟨value, means', _⟩⟩ := exists_waits books awaits origin rfl waits
    · simp [ih] at waits
    · cases means.unique means'
  | flattened origin means found innerMeans ih innerIh =>
    refine settles (.flattened origin means found innerMeans) fun waits => ?_
    obtain ⟨input, waits, rfl | ⟨value, _, found'⟩⟩ := exists_waits books awaits origin rfl waits
    · simp [ih] at waits
    · cases found.symm.trans found'
      simp [innerIh] at waits
  | gathered origin length means ih =>
    refine settles (.gathered origin length means) fun waits => ?_
    obtain ⟨input, waits, member⟩ := exists_waits books awaits origin rfl waits
    obtain ⟨index, inside, rfl⟩ := List.getElem_of_mem member
    have there := List.getElem?_eq_getElem (length.symm ▸ inside)
    simp [ih index _ _ (List.getElem?_eq_getElem inside) there] at waits

/-- Everything is settled that can be. -/
theorem resolved_of_awaits : world.graph.Resolved pack where
  outcome_iff promise outcome :=
    ⟨books.sound promise outcome, outcome?_of_means books awaits⟩
  found promise input site value origin means := by
    -- Either the promise is settled, or it waits for what was found for the value.
    cases settled : world.heap.outcome? promise with
    | some outcome =>
      -- The promise has an outcome only by what was found for the value.
      cases books.sound promise outcome settled with
      | flattened origin' means' found _ =>
        cases Option.some.inj (origin.symm.trans origin')
        cases means.unique means'
        exact ⟨_, found⟩
      | rejected origin' means' =>
        cases Option.some.inj (origin.symm.trans origin')
        cases means.unique means'
      | _ => simp_all
    | none =>
      obtain ⟨other, waits, rfl | ⟨value', means', found⟩⟩ :=
        exists_waits books awaits origin rfl settled
      · simp [outcome?_of_means books awaits means] at waits
      · cases means.unique means'
        exact ⟨other, found⟩

/-- Everything is written down. -/
theorem graph_of_awaits : world.heap.graph = world.graph := by
  have origins (promise : Nat) :
      world.heap.shared.origin? promise = world.origins[promise]? := by
    cases known : world.heap.shared.origin? promise with
    | some origin => exact (books.noted.origin known).symm
    | none =>
      -- Whoever still has to write something down is no callback.
      symm
      refine List.getElem?_eq_none (Nat.le_of_not_lt fun inside => ?_)
      rcases books.written promise inside with written | member
      · simp [known] at written
      · obtain ⟨_, _, never⟩ := awaits _ member
        exact never
  rw [Heap.graph, World.graph, funext origins]

end Quiet

/-- On a quiet machine everything is settled that can be, and every promise is written down. -/
theorem resolved_runPrograms {acts : List (PromiseAct α)} (quiet : (runPrograms pack acts).Quiet) :
    (runPrograms pack acts).heap.graph.Resolved pack ∧
      ∀ promise < (runPrograms pack acts).heap.cells.length,
        ((runPrograms pack acts).heap.graph.origin? promise).isSome := by
  have inOrder : (runPrograms pack acts).InOrder pack := Machine.inOrder_runPrograms acts
  obtain ⟨world, same, duties, books, carry⟩ := inOrder
  -- No frame is left, so that all duties lie with callbacks that wait.
  have awaits (duty : Duty) (member : duty ∈ duties) := awaits_of_quiet quiet same carry member
  have graph := graph_of_awaits books awaits
  rw [← same, graph]
  refine ⟨resolved_of_awaits books awaits, fun promise inside => ?_⟩
  simpa [World.graph, ← books.cells] using inside

/--
Promises made from promises mean what their origins say, whatever the order in which things happen.

While no call is in progress, the outcome of each promise is what its origin makes of the outcomes
of its inputs: a function applied, the outcome of the promise found for a value, all values in their
order or the first error, and none while one of the inputs waits. Two such runs which make promises
in the same way, from sources with the same outcomes, make promises with the same outcomes.
-/
theorem outcomes_by_origin (acts : List (PromiseAct α)) (quiet : (runPrograms pack acts).Quiet) :
    let heap := (runPrograms pack acts).heap
    (∀ promise < heap.cells.length, ∃ origin,
      heap.graph.origin? promise = some origin ∧ heap.graph.Obeys pack promise origin) ∧
    ∀ others, (runPrograms pack others).Quiet →
      let twins := (runPrograms pack others).heap
      ∀ related, heap.graph.Alike twins.graph related →
        ∀ promise twin, related promise twin → heap.outcome? promise = twins.outcome? twin := by
  intro heap
  obtain ⟨resolved, known⟩ := resolved_runPrograms quiet
  -- One run is resolved by itself, and two resolved runs are compared by their origins.
  refine ⟨fun promise inside => ?_, fun others quietTwin => ?_⟩
  · obtain ⟨origin, there⟩ := Option.isSome_iff_exists.1 (known promise inside)
    exact ⟨origin, there, resolved.obeys there⟩
  · intro twins related alike promise twin pair
    exact alike.outcome?_eq resolved (resolved_runPrograms quietTwin).1 pair

/-- A graph of promises over two sources, which are settled in the end. -/
def settledLate : PromiseProgram Nat :=
  .pending fun first => .pending fun second =>
  .mapped first (· + 1) fun more =>
  .flatten more (fun value => .mapped second (· + value) .give) fun sum =>
  .whenAll [sum, second, sum] fun all =>
  .settle first (.ok 1) fun _ => .settle second (.ok 5) fun _ => .give all

/--
The same graph, in which the sources are settled as soon as they can be, the second one first.
-/
def settledEarly : PromiseProgram Nat :=
  .pending fun first => .pending fun second =>
  .settle second (.ok 5) fun _ => .mapped first (· + 1) fun more =>
  .settle first (.ok 1) fun _ =>
  .flatten more (fun value => .mapped second (· + value) .give) fun sum =>
  .whenAll [sum, second, sum] .give

set_option maxRecDepth 2000 in
/-- Sources that are settled late and sources that are settled early lead to the same outcome. -/
theorem outcomes_by_origin_late_early :
    let late : List (PromiseAct Nat) := .call settledLate :: List.replicate 70 (.step 0)
    let early : List (PromiseAct Nat) := .call settledEarly :: List.replicate 70 (.step 0)
    (runPrograms List.sum late).Quiet ∧ (runPrograms List.sum early).Quiet ∧
      (runPrograms List.sum late).heap.graph.Obeys List.sum 4 (.gathered [3, 1, 3]) ∧
      (runPrograms List.sum late).heap.outcome? 4 = (runPrograms List.sum early).heap.outcome? 5 := by
  intro late early
  have quiet : (runPrograms List.sum late).Quiet := by decide +kernel
  have quietEarly : (runPrograms List.sum early).Quiet := by decide +kernel
  obtain ⟨obeys, alike⟩ := outcomes_by_origin late quiet
  refine ⟨quiet, quietEarly, ?_, ?_⟩
  · obtain ⟨origin, known, obeyed⟩ := obeys 4 (by decide +kernel)
    cases known.symm.trans (by rfl : _ = some (.gathered [3, 1, 3]))
    exact obeyed
  · -- What is found for the value is the last promise of one run, and comes before it in the other.
    refine alike early quietEarly
      (fun promise twin => (promise, twin) ∈ [(0, 0), (1, 1), (2, 2), (3, 3), (4, 5), (5, 4)])
      (fun promise twin pair => ?_) 4 5 (by decide)
    simp only [List.mem_cons, Prod.mk.injEq, List.not_mem_nil, or_false] at pair
    rcases pair with ⟨rfl, rfl⟩ | ⟨rfl, rfl⟩ | ⟨rfl, rfl⟩ | ⟨rfl, rfl⟩ | ⟨rfl, rfl⟩ | ⟨rfl, rfl⟩
    · exact ⟨.source, .source, rfl, rfl, .source rfl⟩
    · exact ⟨.source, .source, rfl, rfl, .source rfl⟩
    · exact ⟨.mapped 0 (· + 1), .mapped 0 (· + 1), rfl, rfl, .mapped _ (by decide)⟩
    · refine ⟨.flattened 2 0, .flattened 2 0, rfl, rfl, .flattened (by decide) ?_⟩
      intro value inner innerTwin found foundTwin
      cases found.symm.trans (by rfl : _ = some (2, 5))
      cases foundTwin.symm.trans (by rfl : _ = some (2, 4))
      decide
    · refine ⟨.gathered [3, 1, 3], .gathered [3, 1, 3], rfl, rfl, .gathered rfl ?_⟩
      intro index input inputTwin here there
      cases here.symm.trans there
      rcases List.mem_of_getElem? here with _ | ⟨_, _ | ⟨_, _ | ⟨_, _ | _⟩⟩⟩ <;> decide
    · exact ⟨.mapped 1 (· + 2), .mapped 1 (· + 2), rfl, rfl, .mapped _ (by decide)⟩

end HttpEngine
