import HttpEngine.Proofs.Promise.Books

/-!
Every step of a machine keeps the books. What a step is allowed to do follows from the duties of the
code that takes it.
-/

namespace HttpEngine

variable {α : Type} {pack : List α → α}

namespace World

variable {world : World α} {duties : List Duty}

/-- A world with one more promise. -/
def create (world : World α) (origin : Origin α) : World α :=
  { world with
    origins := world.origins ++ [origin]
    heap := { world.heap with cells := world.heap.cells ++ [.pending] } }

/-- A new promise changes nothing about the others. -/
theorem below_create (world : World α) (origin : Origin α) : world.Below (world.create origin) where
  graph :=
    { origins := fun promise known there => by
        obtain ⟨inside, _⟩ := List.getElem?_eq_some_iff.1 there
        exact (List.getElem?_append_left inside).trans there
      finds := fun _ _ known => known
      outcomes := fun promise outcome settled => (Heap.outcome?_create promise).trans settled }
  teams _ _ known := known

/-- The new promise is to be written down, and settled if it is made from others. -/
theorem Books.create (books : world.Books pack duties) (origin : Origin α) :
    (world.create origin).Books pack (origin.duties world.origins.length ++ duties) := by
  have below := world.below_create origin
  have more (duty : Duty) (member : duty ∈ duties) :
      duty ∈ origin.duties world.origins.length ++ duties := List.mem_append_right _ member
  -- The new duties are to settle and to write down, and both may be done twice.
  have neither (duty : Duty) (once : duty.isOnce) :
      duty ∈ origin.duties world.origins.length ++ duties ↔ duty ∈ duties := by
    refine ⟨fun member => (List.mem_append.1 member).resolve_left fun fresh => ?_, more duty⟩
    unfold Origin.duties at fresh
    cases duty <;> split at fresh <;> simp_all [Duty.isOnce]
  exact
    { once := by
        have nothing : (origin.duties world.origins.length).filter Duty.isOnce = [] := by
          unfold Origin.duties
          split <;> rfl
        rw [List.filter_append, nothing]
        exact books.once
      cells := by simp [World.create, books.cells]
      gathers := books.gathers
      noted := fun entry member => below.graph.origins _ _ (books.noted entry member)
      written := fun promise inside => by
        simp only [World.create, List.length_append, List.length_singleton] at inside
        rcases Nat.lt_or_eq_of_le (Nat.le_of_lt_succ inside) with before | rfl
        · exact (books.written promise before).imp_right (more _)
        · -- The new promise is not written down yet.
          exact .inr (by simp [Origin.duties])
      sound := fun promise outcome settled =>
        (books.sound promise outcome ((Heap.outcome?_create promise).symm.trans settled)).mono
          below.graph
      due := fun promise known there derived waits => by
        simp only [World.create, List.getElem?_append] at there
        split at there
        · -- The promise was there before.
          rcases books.due promise known there derived ((Heap.outcome?_create promise).symm.trans
            waits) with member | ⟨gather, index, inputs, team, member⟩
          · exact .inl (more _ member)
          · exact .inr ⟨gather, index, inputs, team, more _ member⟩
        · -- The new promise has to be settled, if it is made from others.
          obtain ⟨rfl, rfl⟩ : promise = world.origins.length ∧ origin = known := by
            obtain ⟨inside, same⟩ := List.getElem?_eq_some_iff.1 there
            simp only [List.length_singleton] at inside
            exact ⟨by omega, by simpa using same⟩
          exact .inl (by simp [Origin.duties, derived])
      sites := fun site member => books.sites site ((neither _ rfl).1 member)
      teams := fun gather promise inputs team =>
        below.graph.origins _ _ (books.teams gather promise inputs team)
      deposits := fun gather index member => books.deposits gather index ((neither _ rfl).1 member)
      slots := fun gather promise inputs slots team found =>
        (books.slots gather promise inputs slots team found).mono below fun index => neither _ rfl }

/-- A world with something else written down. -/
def rewrite (world : World α) (change : Ledger α → Ledger α) : World α :=
  { world with heap := { world.heap with shared := change world.heap.shared } }

/-- An entry about a promise changes nothing about the graph. -/
theorem below_note (world : World α) (promise : Nat) (origin : Origin α) :
    world.Below (world.rewrite (Ledger.note promise origin)) :=
  ⟨⟨fun _ _ known => known, fun _ _ known => known, fun _ _ known => known⟩, fun _ _ known => known⟩

/-- Whoever writes down where a promise comes from has done the duty. -/
theorem Books.note {promise : Nat} {origin : Origin α}
    (books : world.Books pack (.note promise :: duties))
    (known : world.origins[promise]? = some origin) :
    (world.rewrite (Ledger.note promise origin)).Books pack duties := by
  have below := world.below_note promise origin
  have here : ((Ledger.note promise origin world.heap.shared).origin? promise).isSome := by
    simp [Ledger.origin?, Ledger.note]
  -- What was written down before is not lost.
  have there (other : Nat) (before : (world.heap.shared.origin? other).isSome) :
      ((Ledger.note promise origin world.heap.shared).origin? other).isSome := by
    unfold Ledger.origin? Ledger.note
    rw [List.lookup_cons]
    split
    · rfl
    · exact before
  have rewritten : (world.rewrite (Ledger.note promise origin)).Books pack
      (.note promise :: duties) :=
    { once := books.once
      cells := books.cells
      gathers := books.gathers
      noted := fun entry member => by
        rcases List.mem_cons.1 member with rfl | member
        · exact known
        · exact books.noted entry member
      written := fun other inside => (books.written other inside).imp_left (there other)
      sound := fun other outcome settled => (books.sound other outcome settled).mono below.graph
      due := books.due
      sites := books.sites
      teams := books.teams
      deposits := books.deposits
      slots := fun gather other inputs slots team found =>
        (books.slots gather other inputs slots team found).mono below fun _ => Iff.rfl }
  -- The duty is done, now that the entry is there.
  exact rewritten.drop here

/-- The books are right whatever is written down at sites that nobody has the right to fill. -/
theorem Books.resite {others : List Duty} {change : Ledger α → Ledger α}
    (books : world.Books pack duties) (below : world.Below (world.rewrite change))
    (origins : (change world.heap.shared).origins = world.heap.shared.origins)
    (once : (others.filter Duty.isOnce).Nodup)
    (same : ∀ duty, (∀ site, duty ≠ .fill site) → (duty ∈ others ↔ duty ∈ duties))
    (sites : ∀ site, .fill site ∈ others → (change world.heap.shared).sites[site]? = some none) :
    (world.rewrite change).Books pack others where
  once := once
  cells := books.cells
  gathers := books.gathers
  noted entry member := books.noted entry (origins ▸ member)
  written promise inside := by
    show ((change world.heap.shared).origins.lookup promise).isSome ∨ _
    rw [origins, same _ (by simp)]
    exact books.written promise inside
  sound promise outcome settled := (books.sound promise outcome settled).mono below.graph
  due promise origin known derived waits := by
    rcases books.due promise origin known derived waits with
      member | ⟨gather, index, inputs, team, member⟩
    · exact .inl ((same _ (by simp)).2 member)
    · exact .inr ⟨gather, index, inputs, team, (same _ (by simp)).2 member⟩
  sites := sites
  teams := books.teams
  deposits gather index member := books.deposits gather index ((same _ (by simp)).1 member)
  slots gather promise inputs slots team found :=
    (books.slots gather promise inputs slots team found).mono below fun _ => same _ (by simp)

/-- A new site changes nothing about the others. -/
theorem below_openSite (world : World α) : world.Below (world.rewrite Ledger.openSite) where
  graph :=
    { origins := fun _ _ known => known
      finds := fun site found known => by
        simp only [World.graph, rewrite, Ledger.openSite, Ledger.found?] at known ⊢
        -- A site where something was found was there.
        obtain ⟨inside, _⟩ := List.getElem?_eq_some_iff.1 (Option.join_eq_some_iff.1 known)
        rw [List.getElem?_append_left inside]
        exact known
      outcomes := fun _ _ known => known }
  teams _ _ known := known

/-- Whoever opens a site has the right to fill it. -/
theorem Books.openSite (books : world.Books pack duties) :
    (world.rewrite Ledger.openSite).Books pack
      (.fill world.heap.shared.sites.length :: duties) := by
  refine books.resite world.below_openSite rfl ?_ (fun duty other => ?_) fun site member => ?_
  · -- Nobody else has the right, since the site was not there.
    rw [List.filter_cons_of_pos (by rfl), List.nodup_cons]
    refine ⟨fun member => ?_, books.once⟩
    have there := books.sites _ (List.mem_filter.1 member).1
    rw [List.getElem?_eq_none (Nat.le_refl _)] at there
    cases there
  · rw [List.mem_cons]
    exact ⟨fun member => member.resolve_left (other _), .inr⟩
  · show (world.heap.shared.sites ++ [none])[site]? = some none
    -- The new site is empty, and the others are as they were.
    rcases List.mem_cons.1 member with same | member
    · cases same
      simp
    · have there := books.sites site member
      obtain ⟨inside, _⟩ := List.getElem?_eq_some_iff.1 there
      rwa [List.getElem?_append_left inside]

/-- What is found at a site changes nothing about the others. -/
theorem below_fillSite {site : Nat} (empty : world.heap.shared.sites[site]? = some none) (value : α)
    (found : Nat) : world.Below (world.rewrite (Ledger.fillSite site value found)) where
  graph :=
    { origins := fun _ _ known => known
      finds := fun other before known => by
        simp only [World.graph, rewrite, Ledger.fillSite, Ledger.found?] at known ⊢
        -- Nothing was found at this site, and the other sites stay as they are.
        by_cases same : site = other
        · subst same
          simp [empty] at known
        · rwa [List.getElem?_set_ne same]
      outcomes := fun _ _ known => known }
  teams _ _ known := known

/-- Whoever fills a site gives up the right to fill it. -/
theorem Books.fillSite {site : Nat} (books : world.Books pack (.fill site :: duties)) (value : α)
    (found : Nat) : (world.rewrite (Ledger.fillSite site value found)).Books pack duties := by
  have empty := books.sites site List.mem_cons_self
  refine books.resite (below_fillSite empty value found) rfl (books.drop trivial).once
    (fun duty other => ?_) fun another member => ?_
  · rw [List.mem_cons]
    exact ⟨.inr, fun member => member.resolve_left (other _)⟩
  · -- The right to fill a site is there once, and was just used.
    have different : site ≠ another := by
      rintro rfl
      exact books.not_mem_of_isOnce rfl member
    exact (List.getElem?_set_ne different).trans
      (books.sites another (List.mem_cons_of_mem _ member))

/-- The deposits for slots are those with the positions of the slots. -/
theorem mem_depositDuties {gather first count : Nat} {duty : Duty} :
    duty ∈ depositDuties gather first count ↔
      ∃ index, first ≤ index ∧ index < first + count ∧ duty = .deposit gather index := by
  simp only [depositDuties, List.mem_map, List.mem_range'_1, and_assoc, eq_comm]

/-- No deposit must be made twice. -/
theorem filter_isOnce_depositDuties (gather first count : Nat) :
    (depositDuties gather first count).filter Duty.isOnce = depositDuties gather first count := by
  rw [List.filter_eq_self]
  intro duty member
  obtain ⟨index, _, _, rfl⟩ := mem_depositDuties.1 member
  rfl

/-- The deposits for slots are different ones. -/
theorem nodup_depositDuties (gather first count : Nat) :
    (depositDuties gather first count).Nodup := by
  refine List.Pairwise.map _ (fun _ _ different same => different ?_) List.nodup_range'
  cases same
  rfl

/-- Empty slots wait for the deposits of all inputs. -/
theorem Filling.ofSize {gather : Nat} {inputs : List Nat}
    (all : ∀ index, .deposit gather index ∈ duties ↔ index < inputs.length) :
    world.Filling pack gather inputs duties (.ofSize inputs.length) := by
  have empty : (Gather.ofSize inputs.length : Gather α) =
      ⟨List.replicate inputs.length none,
        (List.replicate inputs.length (none : Option (Outcome α))).countP Option.isNone⟩ := by
    simp [Gather.ofSize, List.countP_replicate]
  rw [empty]
  -- All slots are empty, and so all deposits are to be made and no outcome is held.
  refine .waits List.length_replicate (fun index => ?_) fun index input outcome _ there => ?_
  · rw [all, List.getElem?_replicate]
    simp
  · rw [List.getElem?_replicate] at there
    split at there <;> cases there

/-- A world with new slots for the inputs of a promise. -/
def gather (world : World α) (promise : Nat) (inputs : List Nat) : World α :=
  { world with
    teams := world.teams ++ [(promise, inputs)]
    heap := { world.heap with gathers := world.heap.gathers ++ [.ofSize inputs.length] } }

/-- New slots change nothing about the others. -/
theorem below_gather (world : World α) (promise : Nat) (inputs : List Nat) :
    world.Below (world.gather promise inputs) where
  graph := ⟨fun _ _ known => known, fun _ _ known => known, fun _ _ known => known⟩
  teams gather team known := by
    obtain ⟨inside, _⟩ := List.getElem?_eq_some_iff.1 known
    exact (List.getElem?_append_left inside).trans known

/-- In place of the settling of a promise come the deposits for its inputs. -/
theorem Books.gather {promise : Nat} {inputs : List Nat}
    (books : world.Books pack (.settle promise :: duties))
    (origin : world.origins[promise]? = some (.gathered inputs)) (nonempty : inputs ≠ []) :
    (world.gather promise inputs).Books pack
      (depositDuties world.teams.length 0 inputs.length ++ duties) := by
  have below := world.below_gather promise inputs
  -- The slots are new, so that nobody has a deposit to make for them yet.
  have fresh (index : Nat) : Duty.deposit world.teams.length index ∉ duties := fun member =>
    absurd (books.deposits _ index (List.mem_cons_of_mem _ member)) (Nat.lt_irrefl _)
  have other (duty : Duty) (different : ∀ index, duty ≠ .deposit world.teams.length index) :
      duty ∈ depositDuties world.teams.length 0 inputs.length ++ duties ↔ duty ∈ duties := by
    rw [List.mem_append, mem_depositDuties]
    exact ⟨fun member => member.resolve_left fun ⟨index, _, _, same⟩ => different index same, .inr⟩
  exact
    { once := by
        rw [List.filter_append, filter_isOnce_depositDuties, List.nodup_append]
        refine ⟨nodup_depositDuties _ _ _, ?_, ?_⟩
        · simpa [List.filter_cons, Duty.isOnce] using books.once
        · rintro duty here _ there rfl
          obtain ⟨index, _, _, rfl⟩ := mem_depositDuties.1 here
          exact fresh index (List.mem_filter.1 there).1
      cells := books.cells
      gathers := by simp [World.gather, books.gathers]
      noted := books.noted
      written := fun another inside => by
        rw [other _ (by simp)]
        exact (books.written another inside).imp_right fun member => by simpa using member
      sound := fun another outcome settled => (books.sound another outcome settled).mono below.graph
      due := fun another known there derived waits => by
        rcases books.due another known there derived waits with
          member | ⟨gather, index, others, team, member⟩
        · rcases List.mem_cons.1 member with same | member
          · -- The promise waits for the first of its inputs, at least.
            cases same
            refine .inr ⟨world.teams.length, 0, inputs, by simp [World.gather], ?_⟩
            refine List.mem_append_left _ (mem_depositDuties.2 ⟨0, Nat.le_refl _, ?_, rfl⟩)
            simpa using List.length_pos_iff.2 nonempty
          · exact .inl ((other _ (by simp)).2 member)
        · refine .inr ⟨gather, index, others, below.teams _ _ team, List.mem_append_right _ ?_⟩
          simpa using member
      sites := fun site member => books.sites site
        (List.mem_cons_of_mem _ ((other _ (by simp)).1 member))
      teams := fun gather another others team => by
        simp only [World.gather, List.getElem?_append] at team
        split at team
        · exact books.teams gather another others team
        · obtain ⟨_, same⟩ := List.getElem?_eq_some_iff.1 team
          simp only [List.getElem_singleton, Prod.mk.injEq] at same
          obtain ⟨rfl, rfl⟩ := same
          exact origin
      deposits := fun gather index member => by
        simp only [World.gather, List.length_append, List.length_singleton]
        rcases List.mem_append.1 member with member | member
        · obtain ⟨_, _, _, same⟩ := mem_depositDuties.1 member
          cases same
          exact Nat.lt_succ_self _
        · exact Nat.lt_succ_of_lt (books.deposits gather index (List.mem_cons_of_mem _ member))
      slots := fun gather another others slots team found => by
        simp only [World.gather, List.getElem?_append] at team found
        rw [books.gathers] at found
        split at team
        · -- These slots were there before.
          rename_i inside
          rw [if_pos inside] at found
          refine (books.slots gather another others slots team found).mono below fun index => ?_
          rw [other _ (by simp; omega)]
          simp
        · -- The new slots are empty.
          rename_i outside
          rw [if_neg outside] at found
          obtain ⟨_, same⟩ := List.getElem?_eq_some_iff.1 team
          obtain ⟨atEnd, rfl⟩ := List.getElem?_eq_some_iff.1 found
          simp only [List.length_singleton] at atEnd
          obtain rfl : gather = world.teams.length := by omega
          simp only [List.getElem_singleton, Prod.mk.injEq] at same ⊢
          obtain ⟨rfl, rfl⟩ := same
          refine .ofSize fun index => ?_
          rw [List.mem_append, mem_depositDuties]
          simp [fresh] }

/-- Slots of which one was set are empty where they were, apart from the one. -/
theorem getElem?_set_eq_none_iff {slots : List (Option (Outcome α))} {index other : Nat}
    {outcome : Outcome α} : (slots.set index (some outcome))[other]? = some none ↔
      index ≠ other ∧ slots[other]? = some none := by
  by_cases same : index = other
  · subst same
    rw [List.getElem?_set, if_pos rfl]
    split <;> simp
  · rw [List.getElem?_set_ne same]
    exact ⟨fun empty => ⟨same, empty⟩, And.right⟩

/-- A world in which the slots for some promise have changed. -/
def refill (world : World α) (gather : Nat) (slots : Gather α) : World α :=
  { world with heap := { world.heap with gathers := world.heap.gathers.set gather slots } }

/-- Slots that change are no change to the graph. -/
theorem below_refill (world : World α) (gather : Nat) (slots : Gather α) :
    world.Below (world.refill gather slots) :=
  ⟨⟨fun _ _ known => known, fun _ _ known => known, fun _ _ known => known⟩, fun _ _ known => known⟩

/--
The books are right after a deposit, if the slots are.

Either somebody still has a deposit to make for the promise, or somebody has to settle it.
-/
theorem Books.refill {others : List Duty} {gather index derived : Nat} {inputs : List Nat}
    {slots : Gather α} (books : world.Books pack (.deposit gather index :: duties))
    (team : world.teams[gather]? = some (derived, inputs))
    (same : ∀ duty, duty ≠ .settle derived → (duty ∈ others ↔ duty ∈ duties))
    (once : others.filter Duty.isOnce = duties.filter Duty.isOnce)
    (more : ∀ duty ∈ duties, duty ∈ others)
    (left : .settle derived ∈ others ∨ ∃ index, .deposit gather index ∈ duties)
    (filling : (world.refill gather slots).Filling pack gather inputs others slots) :
    (world.refill gather slots).Books pack others where
  once := by
    have nodup := books.once
    rw [List.filter_cons_of_pos (by rfl)] at nodup
    rw [once]
    exact (List.nodup_cons.1 nodup).2
  cells := books.cells
  gathers := by simp [World.refill, books.gathers]
  noted := books.noted
  written promise inside := by
    rw [same _ (by simp)]
    exact (books.written promise inside).imp_right fun member => by simpa using member
  sound := books.sound
  due promise origin known isDerived waits := by
    rcases books.due promise origin known isDerived waits with
      member | ⟨place, position, entries, found, member⟩
    · exact .inl (more _ (by simpa using member))
    · rcases List.mem_cons.1 member with mine | member
      · -- The deposit was for this promise.
        cases mine
        cases team.symm.trans found
        exact left.imp_right fun ⟨position, member⟩ =>
          ⟨gather, position, inputs, team, more _ member⟩
      · exact .inr ⟨place, position, entries, found, more _ member⟩
  sites site member :=
    books.sites site (List.mem_cons_of_mem _ ((same _ (by simp)).1 member))
  teams := books.teams
  deposits place position member :=
    books.deposits place position (List.mem_cons_of_mem _ ((same _ (by simp)).1 member))
  slots place promise entries found known there := by
    -- The slots of the deposit are those that are given, and the others do not change.
    by_cases here : gather = place
    · subst here
      cases team.symm.trans known
      obtain ⟨inside, _⟩ := List.getElem?_eq_some_iff.1 there
      simp only [World.refill, List.length_set] at inside
      rw [World.refill, List.getElem?_set_self inside] at there
      cases there
      exact filling
    · rw [World.refill, List.getElem?_set_ne here] at there
      refine (books.slots place promise entries found known there).mono (world.below_refill _ _)
        fun position => ?_
      rw [same _ (by simp), List.mem_cons]
      exact ⟨.inr, fun member => member.resolve_left fun same => here (by cases same; rfl)⟩

/-- Options none of which is missing are the entries of a list. -/
theorem eq_map_some_of_countP {β : Type} {list : List (Option β)}
    (full : list.countP Option.isNone = 0) : ∃ entries : List β, list = entries.map some := by
  have there : ∀ entry ∈ list, id entry ≠ Option.none := fun entry member missing =>
    List.countP_eq_zero.1 full entry member (by simpa using missing)
  simpa using exists_map_some there

section Deposit

variable {gather index input : Nat} {inputs : List Nat} {slots : List (Option (Outcome α))}
  {outcome : Outcome α}

/-- After a deposit the empty slots are those of the deposits that are left. -/
theorem empty_after_deposit (alone : .deposit gather index ∉ duties)
    (empty : ∀ position : Nat, slots[position]? = some none ↔
      .deposit gather position ∈ Duty.deposit gather index :: duties) (position : Nat) :
    (slots.set index (some outcome))[position]? = some none ↔ .deposit gather position ∈ duties := by
  rw [getElem?_set_eq_none_iff, empty, List.mem_cons]
  -- Of the empty slots one is filled, and of the duties the one for it is done.
  constructor
  · rintro ⟨different, same | member⟩
    · cases same
      exact absurd rfl different
    · exact member
  · intro member
    refine ⟨?_, .inr member⟩
    rintro rfl
    exact alone member

/-- After a deposit every slot holds what its input means, the new one as well as the others. -/
theorem filled_after_deposit (here : inputs[index]? = some input)
    (means : world.graph.Means pack input outcome)
    (filled : ∀ (position entry : Nat) (told : Outcome α), inputs[position]? = some entry →
      slots[position]? = some (some told) → world.graph.Means pack entry told)
    {position entry : Nat} {told : Outcome α} (known : inputs[position]? = some entry)
    (there : (slots.set index (some outcome))[position]? = some (some told)) :
    world.graph.Means pack entry told := by
  -- The new slot holds what was deposited, and the others what they held before.
  by_cases same : index = position
  · subst same
    obtain ⟨inside, _⟩ := List.getElem?_eq_some_iff.1 there
    rw [List.length_set] at inside
    rw [List.getElem?_set_self inside] at there
    cases there
    cases here.symm.trans known
    exact means
  · rw [List.getElem?_set_ne same] at there
    exact filled position entry told known there

end Deposit

/-- A deposit leaves some deposit to be made, or it is the last and takes all outcomes. -/
theorem Books.deposit {gather index derived input : Nat} {inputs : List Nat} {outcome : Outcome α}
    {slots : Gather α} (books : world.Books pack (.deposit gather index :: duties))
    (team : world.teams[gather]? = some (derived, inputs)) (here : inputs[index]? = some input)
    (means : world.graph.Means pack input outcome)
    (found : world.heap.gathers[gather]? = some slots) :
    let after := slots.deposit index outcome
    (after.2 = none ∧ (world.refill gather after.1).Books pack duties) ∨
      ∃ outcomes : List (Outcome α), after.2 = some (outcomes.map some) ∧
        outcomes.length = inputs.length ∧
        (∀ (index input : Nat) (outcome : Outcome α), inputs[index]? = some input →
          outcomes[index]? = some outcome → world.graph.Means pack input outcome) ∧
        (world.refill gather after.1).Books pack (.settle derived :: duties) := by
  have alone := books.not_mem_of_isOnce rfl
  cases books.slots gather derived inputs slots team found with
  | ended undue => exact absurd List.mem_cons_self (undue index)
  | @waits slots length empty filled =>
    have free : slots[index]? = some none := (empty index).2 List.mem_cons_self
    obtain ⟨inside, isNone⟩ := List.getElem?_eq_some_iff.1 free
    -- One slot less is empty than before.
    have count : (slots.set index (some outcome)).countP Option.isNone =
        slots.countP Option.isNone - 1 := by
      rw [List.countP_set inside, isNone]
      simp
    have emptyAfter (position : Nat) : (slots.set index (some outcome))[position]? = some none ↔
        .deposit gather position ∈ duties := empty_after_deposit alone empty position
    simp only [Gather.deposit]
    split
    · rename_i last
      -- No slot is empty any more, so that they hold the outcomes of all inputs.
      obtain ⟨outcomes, all⟩ := eq_map_some_of_countP (count.trans (by omega))
      refine .inr ⟨outcomes, by rw [all], ?_, fun position entry told known there => ?_, ?_⟩
      · have lengths := congrArg List.length all
        rw [List.length_set, List.length_map] at lengths
        exact lengths.symm.trans length
      · refine filled_after_deposit here means filled known ?_
        rw [all, List.getElem?_map, there, Option.map_some]
      · refine books.refill team (fun duty other => ?_) ?_ (fun duty => List.mem_cons_of_mem _)
          (.inl List.mem_cons_self) (.ended fun position member => ?_)
        · rw [List.mem_cons]
          exact ⟨fun member => member.resolve_left other, .inr⟩
        · rw [List.filter_cons_of_neg (by simp [Duty.isOnce])]
        · -- There is no empty slot left.
          have missing := (emptyAfter position).2 (by simpa using member)
          rw [all, List.getElem?_map] at missing
          cases there : outcomes[position]? <;> simp [there] at missing
    · rename_i notLast
      refine .inl ⟨rfl, books.refill team (fun _ _ => Iff.rfl) rfl (fun _ member => member) ?_ ?_⟩
      · -- Another slot is empty, since this was not the last.
        have positive : 0 < slots.countP Option.isNone :=
          List.countP_pos_iff.2 ⟨none, List.mem_of_getElem? free, rfl⟩
        have left : 0 < (slots.set index (Option.some outcome)).countP Option.isNone := by omega
        obtain ⟨entry, member, missing⟩ := List.countP_pos_iff.1 left
        obtain ⟨position, there⟩ := List.getElem?_of_mem member
        rw [Option.isNone_iff_eq_none.1 missing] at there
        exact .inr ⟨position, (emptyAfter position).1 there⟩
      · rw [← count]
        refine .waits (by rw [List.length_set, length]) emptyAfter fun _ _ _ known there => ?_
        exact filled_after_deposit here means filled known there

end World

/-- A promise that means something is there. -/
theorem Graph.Means.known {graph : Graph α} {promise : Nat} {outcome : Outcome α}
    (means : graph.Means pack promise outcome) : ∃ origin, graph.origin? promise = some origin := by
  cases means <;> exact ⟨_, ‹_›⟩

namespace World

variable {world : World α} {duties rest : List Duty} {others : List (Carrier α)}

/-- The callbacks of a promise that is settled are due, with the duties that they had. -/
theorem Books.settle {promise : Nat} {outcome : Outcome α} (books : world.Books pack duties)
    (carry : Carry pack world (others ++ world.heap.stored) rest)
    (inside : promise < world.origins.length)
    (means : ∀ later, world.Below later → later.heap.outcome? promise = some outcome →
      later.graph.Means pack promise outcome) :
    let later := { world with heap := (world.heap.settle promise outcome).1 : World α }
    world.Below later ∧ later.heap.outcome? promise ≠ none ∧ later.Books pack duties ∧
      Carry pack later ((((world.heap.settle promise outcome).2.getD []).map
        (.call promise outcome)).map .frame ++ (others ++ later.heap.stored)) rest := by
  obtain ⟨cell, found⟩ : ∃ cell, world.heap.cells[promise]? = some cell :=
    ⟨_, List.getElem?_eq_getElem (books.cells.symm ▸ inside)⟩
  have keeps (other : Nat) (told : Outcome α) (known : world.heap.outcome? other = some told) :=
    Heap.outcome?_settle known promise outcome
  cases settled : cell.outcome? with
  | some before =>
    -- The promise refuses the outcome, and nothing changes but the journal.
    have known : world.heap.outcome? promise = some before := by
      simp [Heap.outcome?, found, settled]
    rw [Heap.settle_of_settled known] at keeps ⊢
    have below : world.Below { world with heap := world.heap.record (.refused promise) } :=
      below_of_outcomes rfl keeps
    exact ⟨below, by simp [known],
      books.alter rfl rfl rfl keeps fun _ _ known => .inl known, carry.mono below⟩
  | none =>
    rw [Heap.settle_of_pending found settled] at keeps ⊢
    generalize changed : { world.heap with
        cells := world.heap.cells.set promise ⟨some outcome, []⟩ }.record
          (.settled promise outcome) = heap at keeps ⊢
    have cells : heap.cells = world.heap.cells.set promise ⟨some outcome, []⟩ := by
      rw [← changed]
      rfl
    have shared : heap.shared = world.heap.shared := by rw [← changed]; rfl
    have gathers : heap.gathers = world.heap.gathers := by rw [← changed]; rfl
    have below : world.Below { world with heap } := below_of_outcomes shared keeps
    have takes : heap.outcome? promise = some outcome := by
      simp [Heap.outcome?, cells, List.getElem?_set_self (books.cells.symm ▸ inside)]
    -- The promise takes the outcome, and all that it stored becomes due.
    refine ⟨below, by simp [takes], ?_, ?_⟩
    · refine books.alter shared gathers (by rw [cells, List.length_set]) keeps
        fun other told known => ?_
      by_cases same : promise = other
      · subst same
        cases takes.symm.trans known
        exact .inr (means _ below takes)
      · -- The others have the outcomes that they had.
        refine .inl ?_
        simpa [Heap.outcome?, cells, List.getElem?_set_ne same] using known
    · obtain ⟨stored, before, after⟩ := Heap.stored_set found
      have there : (others ++ world.heap.stored).Perm
          (cell.callbacks.map (.stored promise) ++ (others ++ stored)) :=
        (before.append_left _).trans (List.perm_append_comm_assoc _ _ _)
      have told := (carry.perm there).told below (means _ below takes)
      rw [Option.getD_some, List.map_map]
      exact told.perm (((after heap _ cells).symm.append_left _).append_left _)

/-- A callback that is registered waits with its duties, or is due at once. -/
theorem Books.subscribe {promise : Nat} {callback : Callback α (Ledger α)} {handed : List Duty}
    (books : world.Books pack duties)
    (carry : Carry pack world (others ++ world.heap.stored) rest)
    (inside : promise < world.origins.length)
    (owes : (Carrier.stored promise callback).Owes pack world handed) :
    let later := { world with heap := (world.heap.subscribe promise callback).1 : World α }
    world.Below later ∧ later.Books pack duties ∧
      Carry pack later (((world.heap.subscribe promise callback).2.map
        (.call promise · callback)).toList.map .frame ++ (others ++ later.heap.stored))
        (handed ++ rest) := by
  obtain ⟨cell, found⟩ : ∃ cell, world.heap.cells[promise]? = some cell :=
    ⟨_, List.getElem?_eq_getElem (books.cells.symm ▸ inside)⟩
  have same (other : Nat) : (world.heap.subscribe promise callback).1.outcome? other =
      world.heap.outcome? other := Heap.outcome?_subscribe promise callback
  have registered : world.heap.subscribe promise callback =
      ({ world.heap with
        cells := world.heap.cells.set promise (cell.subscribe callback).1
        tickets := world.heap.tickets + 1 }.record (.registered promise callback.ticket),
      (cell.subscribe callback).2) := by
    simp [Heap.subscribe, found]
  rw [registered] at same ⊢
  generalize changed : { world.heap with
      cells := world.heap.cells.set promise (cell.subscribe callback).1
      tickets := world.heap.tickets + 1 }.record (.registered promise callback.ticket) = heap
    at same ⊢
  have cells : heap.cells = world.heap.cells.set promise (cell.subscribe callback).1 := by
    rw [← changed]
    rfl
  have shared : heap.shared = world.heap.shared := by rw [← changed]; rfl
  have gathers : heap.gathers = world.heap.gathers := by rw [← changed]; rfl
  have keeps (other : Nat) (told : Outcome α) (known : world.heap.outcome? other = some told) :
      heap.outcome? other = some told := (same other).trans known
  have below : world.Below { world with heap } := below_of_outcomes shared keeps
  refine ⟨below, books.alter shared gathers (by rw [cells, List.length_set]) keeps
    fun other told known => .inl ((same other).symm.trans known), ?_⟩
  obtain ⟨stored, before, after⟩ := Heap.stored_set found
  have afterwards := after heap _ cells
  -- The callback is due if the promise has an outcome, and else waits in the cell.
  cases settled : cell.outcome? with
  | some outcome =>
    have means := books.sound promise outcome (by simp [Heap.outcome?, found, settled])
    simp only [Cell.subscribe, settled] at afterwards ⊢
    refine .cons (owes.2 _ below outcome (means.mono below.graph)) ?_ (.refl _)
    exact (carry.mono below).perm ((before.trans afterwards.symm).append_left _)
  | none =>
    simp only [Cell.subscribe, settled, List.map_append, List.append_assoc] at afterwards ⊢
    refine (Carry.cons (owes.mono below) (carry.mono below) (.refl _)).perm ?_
    -- The new callback stands behind the others that wait for the promise.
    have one : (Carrier.stored promise callback :: world.heap.stored).Perm heap.stored :=
      ((before.cons _).trans List.perm_middle.symm).trans afterwards.symm
    exact List.perm_middle.symm.trans (one.append_left _)

/-- Code goes on behind the callbacks that became due. -/
theorem carry_behind {calls : List (Carrier α)} {code : Task α (Ledger α)} {mine : List Duty}
    (owes : Owes pack world code mine) (carry : Carry pack world (calls ++ others) duties) :
    Carry pack world (calls ++ .frame (.task code) :: others) (mine ++ duties) := by
  have front : Carry pack world (.frame (.task code) :: (calls ++ others)) (mine ++ duties) :=
    .cons owes carry (.refl _)
  exact front.perm List.perm_middle.symm

/-- Somebody has each of the duties that there are, and the books are right. -/
def InOrder (pack : List α → α) (world : World α) (frames : List (Frame α (Ledger α))) : Prop :=
  ∃ duties, world.Books pack duties ∧
    Carry pack world (frames.map .frame ++ world.heap.stored) duties

variable {frame : Frame α (Ledger α)} {frames : List (Frame α (Ledger α))}

/-- Code goes on with the rest of its duties. -/
theorem InOrder.next {later : World α} {code : Task α (Ledger α)} {mine : List Duty}
    (below : world.Below later) (books : later.Books pack (mine ++ rest))
    (owes : Owes pack later code mine)
    (carry : Carry pack world (frames.map .frame ++ world.heap.stored) rest)
    (stored : later.heap.stored = world.heap.stored) :
    later.InOrder pack (.task code :: frames) := by
  refine ⟨mine ++ rest, books, .cons owes ?_ (.refl _)⟩
  rw [stored]
  exact carry.mono below

/-- A settling leaves everything in order, if the code has the duties that are left after it. -/
theorem InOrder.settle {promise : Nat} {outcome : Outcome α} {next : Bool → Task α (Ledger α)}
    {mine : List Duty} (books : world.Books pack duties)
    (carry : Carry pack world (frames.map .frame ++ world.heap.stored) rest)
    (inside : promise < world.origins.length)
    (means : ∀ later, world.Below later → later.heap.outcome? promise = some outcome →
      later.graph.Means pack promise outcome)
    (goesOn : ∀ accepted, Owes pack world (next accepted) mine)
    (leaves : ∀ later : World α, later.heap.outcome? promise ≠ none → later.Books pack duties →
      later.Books pack (mine ++ rest)) :
    ∃ later : World α,
      later.heap = (world.heap.step (.task (.settle promise outcome next))).1 ∧
      later.InOrder pack
        ((world.heap.step (.task (.settle promise outcome next))).2 ++ frames) := by
  obtain ⟨below, settled, after, told⟩ := books.settle carry inside means
  rw [Heap.step_settle]
  refine ⟨_, rfl, mine ++ rest, leaves _ settled after, ?_⟩
  -- The callbacks stand in front of the code, and the other frames behind it.
  rw [List.map_append, List.map_append, List.append_assoc, List.append_assoc]
  exact carry_behind ((goesOn _).mono below) told

/-- A step of a frame leaves everything in order. -/
theorem InOrder.step (inOrder : world.InOrder pack (frame :: frames)) :
    ∃ later : World α, later.heap = (world.heap.step frame).1 ∧
      later.InOrder pack ((world.heap.step frame).2 ++ frames) := by
  obtain ⟨duties, books, carry⟩ := inOrder
  cases carry with
  | @cons _ _ mine rest _ owes carry split =>
  replace books := books.perm split
  cases frame with
  | call promise outcome callback =>
    have below : world.Below
        { world with heap := world.heap.record (.started promise callback.ticket outcome) } :=
      below_of_outcomes rfl fun _ _ known => known
    exact ⟨_, rfl, .next below
      (books.alter rfl rfl rfl (fun _ _ known => known) fun _ _ known => .inl known)
      (HttpEngine.Owes.mono owes below) carry rfl⟩
  | task code =>
    -- What the code owes says which step it takes, and which duties are left after it.
    cases owes with
    | done fills => exact ⟨world, rfl, rest, books.drop_fills fills, carry⟩
    | create origin goesOn =>
      have below := world.below_create origin
      have fresh : (world.create origin).origins[world.heap.cells.length]? = some origin := by
        simp [World.create, books.cells]
      refine ⟨world.create origin, rfl, .next below ?_ (goesOn _ below _ fresh) carry ?_⟩
      · rw [books.cells, List.append_assoc]
        exact books.create origin
      · simp [World.create, Heap.stored, List.mapIdx_concat, Cell.pending]
    | @settle _ promise outcome next _ left mineSplit means goesOn =>
      obtain ⟨origin, known⟩ := means.known
      -- The promise has an outcome afterwards, whether it was this or another one.
      exact InOrder.settle books carry (List.getElem?_eq_some_iff.1 known).1
        (fun _ below _ => means.mono below.graph) goesOn
        fun _ settled after => (after.perm (mineSplit.append_right _)).drop settled
    | @source _ promise outcome next _ known goesOn =>
      exact InOrder.settle books carry (List.getElem?_eq_some_iff.1 known).1
        (fun _ below settled => .source (below.graph.origins _ _ known) settled) goesOn
        fun _ _ after => after
    | @subscribe _ promise code next _ handed left mineSplit inside awaits does goesOn =>
      have waits : (Carrier.stored promise ⟨world.heap.tickets, code⟩).Owes pack world handed :=
        ⟨awaits, does⟩
      obtain ⟨below, after, registered⟩ := books.subscribe carry inside waits
      rw [Heap.step_subscribe]
      -- What is handed to the callback goes to where the callback is.
      have regrouped : (mine ++ rest).Perm (left ++ (handed ++ rest)) := by
        rw [← List.append_assoc]
        exact (mineSplit.trans List.perm_append_comm).append_right _
      refine ⟨_, rfl, left ++ (handed ++ rest), after.perm regrouped, ?_⟩
      rw [List.map_append, List.map_append, List.append_assoc, List.append_assoc]
      exact carry_behind (goesOn.mono below) registered
    | @gather _ promise inputs next _ left mineSplit origin nonempty goesOn =>
      have below := world.below_gather promise inputs
      have fresh : (world.gather promise inputs).teams[world.heap.gathers.length]? =
          Option.some (promise, inputs) := by
        simp [World.gather, books.gathers]
      refine ⟨world.gather promise inputs, rfl, .next below ?_ (goesOn _ below _ fresh) carry rfl⟩
      rw [books.gathers, List.append_assoc]
      exact (books.perm (mineSplit.append_right _)).gather origin nonempty
    | @deposit _ gather index derived input inputs outcome next _ left mineSplit team here means
        goesOn last =>
      obtain ⟨slots, found⟩ : ∃ slots, world.heap.gathers[gather]? = some slots := by
        obtain ⟨inside, _⟩ := List.getElem?_eq_some_iff.1 team
        exact ⟨_, List.getElem?_eq_getElem (books.gathers.symm ▸ inside)⟩
      have below := world.below_refill gather (slots.deposit index outcome).1
      rw [Heap.step_deposit, found]
      refine ⟨world.refill gather (slots.deposit index outcome).1, rfl, ?_⟩
      -- The code is told the outcomes only if the deposit was the last one.
      rcases (books.perm (mineSplit.append_right _)).deposit team here means found with
        ⟨waits, after⟩ | ⟨outcomes, all, length, meanings, after⟩
      · simp only [waits]
        exact .next below after (goesOn.mono below) carry rfl
      · simp only [all]
        exact .next below after (last _ below outcomes length fun position entry told known there =>
          (meanings position entry told known there).mono below.graph) carry rfl
    | look goesOn =>
      have owes := goesOn world (.refl world) books.noted
      exact ⟨world, rfl, .next (.refl world) books owes carry rfl⟩
    | @note _ promise origin next _ left mineSplit known goesOn =>
      have below := world.below_note promise origin
      exact ⟨_, rfl, .next below ((books.perm (mineSplit.append_right _)).note known)
        (goesOn.mono below) carry rfl⟩
    | openSite goesOn =>
      exact ⟨_, rfl, .next world.below_openSite books.openSite
        ((goesOn _).mono world.below_openSite) carry rfl⟩
    | @fillSite _ site found value next _ left mineSplit goesOn =>
      replace books := books.perm (mineSplit.append_right _)
      have empty := books.sites site List.mem_cons_self
      obtain ⟨inside, _⟩ := List.getElem?_eq_some_iff.1 empty
      have below := below_fillSite empty value found
      refine ⟨_, rfl, .next below (books.fillSite value found) (goesOn _ below ?_) carry rfl⟩
      simp [rewrite, Ledger.fillSite, Ledger.found?, List.getElem?_set_self inside]

end World

end HttpEngine
