import HttpEngine.Proofs.Promise.Duty

/-!
Who has which duty. Duties lie with the frames of threads and with the callbacks that wait in cells,
and the books about promises and duties are kept by every step.
-/

namespace HttpEngine

variable {α : Type} {pack : List α → α}

/-- Whoever may have duties: a frame on some stack, or a callback in the cell of a promise. -/
inductive Carrier (α : Type) where
  | frame (frame : Frame α (Ledger α))
  | stored (promise : Nat) (callback : Callback α (Ledger α))

/-- A carrier owes duties in a world. -/
def Carrier.Owes (pack : List α → α) (world : World α) : Carrier α → List Duty → Prop
  | .frame (.task code), duties => HttpEngine.Owes pack world code duties
  | .frame (.call _ outcome callback), duties =>
    HttpEngine.Owes pack world (callback.code outcome) duties
  | .stored promise callback, duties =>
    (∀ duty ∈ duties, world.Awaits pack promise duty) ∧
      ∀ later, world.Below later → ∀ outcome, later.graph.Means pack promise outcome →
        HttpEngine.Owes pack later (callback.code outcome) duties

/-- What a carrier owes in a world it owes in what the world becomes. -/
theorem Carrier.Owes.mono {carrier : Carrier α} {world later : World α} {duties : List Duty}
    (owes : carrier.Owes pack world duties) (below : world.Below later) :
    carrier.Owes pack later duties := by
  match carrier, owes with
  | .frame (.task _), owes | .frame (.call _ _ _), owes => exact HttpEngine.Owes.mono owes below
  | .stored _ _, ⟨awaits, does⟩ =>
    exact ⟨fun duty member => (awaits duty member).mono below,
      fun last after => does last (below.trans after)⟩

/-- Carriers have duties between them, each of the duties once. -/
inductive Carry (pack : List α → α) (world : World α) : List (Carrier α) → List Duty → Prop where
  | nil : Carry pack world [] []
  | cons {carrier : Carrier α} {rest : List (Carrier α)} {mine others duties : List Duty}
      (owes : carrier.Owes pack world mine) (carry : Carry pack world rest others)
      (split : duties.Perm (mine ++ others)) : Carry pack world (carrier :: rest) duties

namespace Carry

variable {world later : World α} {carriers others : List (Carrier α)} {duties more : List Duty}

/-- What is carried in a world is carried in what the world becomes. -/
theorem mono (carry : Carry pack world carriers duties) (below : world.Below later) :
    Carry pack later carriers duties := by
  induction carry with
  | nil => exact .nil
  | cons owes _ split ih => exact .cons (owes.mono below) ih split

/-- The order of the carriers does not matter. -/
theorem perm (carry : Carry pack world carriers duties) (same : carriers.Perm others) :
    Carry pack world others duties := by
  induction same generalizing duties with
  | nil => exact carry
  | cons _ _ ih =>
    cases carry with
    | cons owes carry split => exact .cons owes (ih carry) split
  | swap =>
    -- Two carriers change places with their duties.
    cases carry with
    | cons owes carry split =>
      -- The duties of both were split off, and can be split off in the other order too.
      cases carry with
      | cons owesNext carry splitNext =>
        refine .cons owesNext (.cons owes carry (.refl _)) (split.trans ?_)
        exact (splitNext.append_left _).trans (List.perm_append_comm_assoc _ _ _)
  | trans _ _ first second => exact second (first carry)

/-- Whoever carries a duty is one of the carriers. -/
theorem exists_of_mem (carry : Carry pack world carriers duties) {duty : Duty}
    (member : duty ∈ duties) :
    ∃ carrier ∈ carriers, ∃ mine, carrier.Owes pack world mine ∧ duty ∈ mine := by
  -- The duty is that of the first carrier, or of one of the others.
  induction carry with
  | nil => cases member
  | cons owes _ split ih =>
    rcases List.mem_append.1 (split.mem_iff.1 member) with here | there
    · exact ⟨_, List.mem_cons_self, _, owes, here⟩
    · obtain ⟨carrier, known, rest⟩ := ih there
      exact ⟨carrier, List.mem_cons_of_mem _ known, rest⟩

/-- Callbacks of a promise that waited for its outcome are due with the duties that they had. -/
theorem told {promise : Nat} {outcome : Outcome α} {callbacks : List (Callback α (Ledger α))}
    (carry : Carry pack world (callbacks.map (.stored promise) ++ carriers) duties)
    (below : world.Below later) (means : later.graph.Means pack promise outcome) :
    Carry pack later (callbacks.map (fun callback => .frame (.call promise outcome callback)) ++
      carriers) duties := by
  -- Each callback has waited with its duties for just this outcome.
  induction callbacks generalizing duties with
  | nil => exact carry.mono below
  | cons callback rest ih =>
    cases carry with
    | cons owes carry split => exact .cons (owes.2 later below outcome means) (ih carry) split

end Carry

/-- The callbacks that wait on a heap, each with its promise. -/
def Heap.stored (heap : Heap α (Ledger α)) : List (Carrier α) :=
  (heap.cells.mapIdx fun promise cell => cell.callbacks.map (.stored promise)).flatten

/-- A callback that waits on a heap waits in a cell. -/
theorem Heap.mem_stored {heap : Heap α (Ledger α)} {carrier : Carrier α}
    (member : carrier ∈ heap.stored) : ∃ promise cell callback,
      heap.cells[promise]? = some cell ∧ callback ∈ cell.callbacks ∧
        carrier = .stored promise callback := by
  obtain ⟨callbacks, here, there⟩ := List.mem_flatten.1 member
  obtain ⟨promise, inside, rfl⟩ := List.mem_mapIdx.1 here
  obtain ⟨callback, known, rfl⟩ := List.mem_map.1 there
  exact ⟨promise, _, callback, List.getElem?_eq_getElem inside, known, rfl⟩

/-- Cells that are put in place of one cell change nothing about the callbacks of the others. -/
theorem Heap.stored_set {heap : Heap α (Ledger α)} {promise : Nat}
    {cell : Cell α (Callback α (Ledger α))} (found : heap.cells[promise]? = some cell) :
    ∃ others, heap.stored.Perm (cell.callbacks.map (.stored promise) ++ others) ∧
      ∀ changed : Heap α (Ledger α), ∀ instead : Cell α (Callback α (Ledger α)),
        changed.cells = heap.cells.set promise instead →
        changed.stored.Perm (instead.callbacks.map (.stored promise) ++ others) := by
  have there : (heap.cells.mapIdx fun promise cell =>
      cell.callbacks.map (Carrier.stored promise))[promise]? =
      some (cell.callbacks.map (.stored promise)) := by
    simp [List.getElem?_mapIdx, found]
  -- The callbacks of the other cells are the same, whatever the one cell becomes.
  obtain ⟨others, before, after⟩ := flatten_set_perm there
  refine ⟨others, before, fun changed instead same => ?_⟩
  rw [stored, same, List.mapIdx_set]
  exact after _

/-- Whether a duty must not be done twice. -/
def Duty.isOnce : Duty → Bool
  | .deposit _ _ | .fill _ => true
  | .settle _ | .note _ => false

/-- The slots of a gathered promise, with the deposits that are still to be made. -/
inductive World.Filling (pack : List α → α) (world : World α) (gather : Nat) (inputs : List Nat)
    (duties : List Duty) : Gather α → Prop where
  /-- The last deposit took the slots. -/
  | ended {slots : Gather α} (undue : ∀ index, .deposit gather index ∉ duties) :
      Filling pack world gather inputs duties slots
  /-- The empty slots are those of deposits to be made, and the others hold outcomes. -/
  | waits {slots : List (Option (Outcome α))} (length : slots.length = inputs.length)
      (empty : ∀ index : Nat, slots[index]? = some none ↔ .deposit gather index ∈ duties)
      (filled : ∀ (index input : Nat) (outcome : Outcome α), inputs[index]? = some input →
        slots[index]? = some (some outcome) → world.graph.Means pack input outcome) :
      Filling pack world gather inputs duties ⟨slots, slots.countP Option.isNone⟩

/-- The books about the promises of a world, and the duties towards them. -/
structure World.Books (pack : List α → α) (world : World α) (duties : List Duty) : Prop where
  once : (duties.filter Duty.isOnce).Nodup
  cells : world.heap.cells.length = world.origins.length
  gathers : world.heap.gathers.length = world.teams.length
  noted : world.Noted
  written : ∀ promise < world.origins.length,
    (world.heap.shared.origin? promise).isSome ∨ .note promise ∈ duties
  /-- A promise has no outcome but the one that it means. -/
  sound : ∀ promise outcome, world.heap.outcome? promise = some outcome →
    world.graph.Means pack promise outcome
  /-- A promise that waits is one that somebody has to settle. -/
  due : ∀ promise origin, world.origins[promise]? = some origin → origin.isDerived →
    world.heap.outcome? promise = none →
    .settle promise ∈ duties ∨ ∃ gather index inputs,
      world.teams[gather]? = some (promise, inputs) ∧ .deposit gather index ∈ duties
  sites : ∀ site, .fill site ∈ duties → world.heap.shared.sites[site]? = some none
  teams : ∀ (gather promise : Nat) (inputs : List Nat),
    world.teams[gather]? = some (promise, inputs) →
    world.origins[promise]? = some (Origin.gathered inputs)
  deposits : ∀ gather index, .deposit gather index ∈ duties → gather < world.teams.length
  slots : ∀ (gather promise : Nat) (inputs : List Nat) (slots : Gather α),
    world.teams[gather]? = some (promise, inputs) → world.heap.gathers[gather]? = some slots →
    world.Filling pack gather inputs duties slots

/-- Nothing is left to be done about a duty. -/
def World.Done (world : World α) : Duty → Prop
  | .settle promise => world.heap.outcome? promise ≠ none
  | .note promise => (world.heap.shared.origin? promise).isSome
  | .fill _ => True
  | .deposit _ _ => False

/-- Slots stay as they are while nobody makes a deposit in them. -/
theorem World.Filling.mono {world later : World α} {gather : Nat} {inputs : List Nat}
    {duties others : List Duty} {slots : Gather α}
    (filling : world.Filling pack gather inputs duties slots) (below : world.Below later)
    (same : ∀ index, .deposit gather index ∈ others ↔ .deposit gather index ∈ duties) :
    later.Filling pack gather inputs others slots := by
  cases filling with
  | ended undue => exact .ended fun index => mt (same index).1 (undue index)
  | waits length empty filled =>
    exact .waits length (fun index => (empty index).trans (same index).symm)
      fun index input outcome here there => (filled index input outcome here there).mono below.graph

namespace World.Books

variable {world : World α} {duties others : List Duty} {duty : Duty}

/-- The order of the duties does not matter. -/
theorem perm (books : world.Books pack duties) (same : duties.Perm others) :
    world.Books pack others where
  once := (same.filter _).nodup_iff.1 books.once
  cells := books.cells
  gathers := books.gathers
  noted := books.noted
  written promise inside := (books.written promise inside).imp_right same.mem_iff.1
  sound := books.sound
  due promise origin known derived waits := by
    simpa only [same.mem_iff] using books.due promise origin known derived waits
  sites site member := books.sites site (same.mem_iff.2 member)
  teams := books.teams
  deposits gather index member := books.deposits gather index (same.mem_iff.2 member)
  slots gather promise inputs slots team found :=
    (books.slots gather promise inputs slots team found).mono (.refl _) fun _ => same.mem_iff.symm

/-- A duty that is done is nobody's any more. -/
theorem drop (books : world.Books pack (duty :: duties)) (done : world.Done duty) :
    world.Books pack duties where
  -- A duty less does not make two of another.
  once := by
    have once := books.once
    rw [List.filter_cons] at once
    split at once
    · exact (List.nodup_cons.1 once).2
    · exact once
  cells := books.cells
  gathers := books.gathers
  noted := books.noted
  written promise inside := by
    rcases books.written promise inside with known | member
    · exact .inl known
    · rcases List.mem_cons.1 member with rfl | member
      · exact .inl done
      · exact .inr member
  sound := books.sound
  -- What had to be done for a promise that waits is still to be done, since this was not it.
  due promise origin known derived waits := by
    rcases books.due promise origin known derived waits with
      member | ⟨gather, index, inputs, team, member⟩
    · rcases List.mem_cons.1 member with rfl | member
      · exact absurd waits done
      · exact .inl member
    · rcases List.mem_cons.1 member with rfl | member
      · exact done.elim
      · exact .inr ⟨gather, index, inputs, team, member⟩
  sites site member := books.sites site (List.mem_cons_of_mem _ member)
  teams := books.teams
  deposits gather index member := books.deposits gather index (List.mem_cons_of_mem _ member)
  slots gather promise inputs slots team found := by
    refine (books.slots gather promise inputs slots team found).mono (.refl _) fun index => ?_
    refine ⟨List.mem_cons_of_mem _, fun member => ?_⟩
    rcases List.mem_cons.1 member with rfl | member
    · exact done.elim
    · exact member

/-- The right to fill a site may be given up. -/
theorem drop_fills {rest : List Duty} (books : world.Books pack (duties ++ rest))
    (fills : ∀ duty ∈ duties, ∃ site, duty = .fill site) : world.Books pack rest := by
  -- One right after the other is given up.
  induction duties with
  | nil => exact books
  | cons duty duties ih =>
    obtain ⟨site, rfl⟩ := fills duty List.mem_cons_self
    exact ih (books.drop trivial) fun other member => fills other (List.mem_cons_of_mem _ member)

/-- What must not be done twice is nobody else's duty. -/
theorem not_mem_of_isOnce (books : world.Books pack (duty :: duties)) (once : duty.isOnce) :
    duty ∉ duties := by
  have nodup := books.once
  rw [List.filter_cons_of_pos once] at nodup
  exact fun member => (List.nodup_cons.1 nodup).1 (List.mem_filter.2 ⟨member, once⟩)

end World.Books

section Heaps

variable {world : World α} {duties : List Duty} {heap : Heap α (Ledger α)}

/-- A world whose promises have at least the outcomes that they had before. -/
theorem World.below_of_outcomes (shared : heap.shared = world.heap.shared)
    (outcomes : ∀ promise outcome, world.heap.outcome? promise = some outcome →
      heap.outcome? promise = some outcome) : world.Below { world with heap } where
  graph :=
    { origins := fun _ _ known => known
      finds := fun site found known => by
        show heap.shared.found? site = some found
        rw [shared]
        exact known
      outcomes }
  teams _ _ known := known

/-- The books are right if promises only get outcomes that they mean. -/
theorem World.Books.alter (books : world.Books pack duties)
    (shared : heap.shared = world.heap.shared) (gathers : heap.gathers = world.heap.gathers)
    (cells : heap.cells.length = world.heap.cells.length)
    (outcomes : ∀ promise outcome, world.heap.outcome? promise = some outcome →
      heap.outcome? promise = some outcome)
    (sound : ∀ promise outcome, heap.outcome? promise = some outcome →
      world.heap.outcome? promise = some outcome ∨
        { world with heap : World α }.graph.Means pack promise outcome) :
    { world with heap : World α }.Books pack duties := by
  have below := World.below_of_outcomes shared outcomes
  -- Only the outcomes have changed, so that all that is not about them is as it was.
  exact
    { once := books.once
      cells := cells.trans books.cells
      gathers := (congrArg List.length gathers).trans books.gathers
      noted := by
        unfold World.Noted
        rw [shared]
        exact books.noted
      written := by
        rw [shared]
        exact books.written
      sound := fun promise outcome settled => (sound promise outcome settled).elim
        (fun before => (books.sound promise outcome before).mono below.graph) id
      due := fun promise origin known derived waits => by
        refine books.due promise origin known derived ?_
        -- A promise that waits now has waited before.
        cases settled : world.heap.outcome? promise with
        | none => rfl
        | some outcome => exact absurd (outcomes _ _ settled) (by simp [waits])
      sites := by
        rw [shared]
        exact books.sites
      teams := books.teams
      deposits := books.deposits
      slots := fun gather promise inputs slots team found =>
        (books.slots gather promise inputs slots team (gathers ▸ found)).mono below
          fun _ => Iff.rfl }

end Heaps

end HttpEngine
