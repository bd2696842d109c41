import HttpEngine.Proofs.Promise.Program

/-!
What code still owes to promises. A promise made from others is settled by whoever has the duty to
do so, and code keeps its duties until it does them or hands them to a callback.
-/

namespace HttpEngine

variable {α : Type} {pack : List α → α}

/-- What code has to do, each of it once. -/
inductive Duty where
  | settle (promise : Nat)
  | deposit (gather index : Nat)
  /-- The right to write down what was found at a site, which may come to nothing. -/
  | fill (site : Nat)
  /-- The entry about a promise in the ledger. -/
  | note (promise : Nat)

/-- The duties that come with a new promise. -/
def Origin.duties (origin : Origin α) (promise : Nat) : List Duty :=
  .note promise :: if origin.isDerived then [.settle promise] else []

/-- A heap, with where its promises come from, even where that is not written down yet. -/
structure World (α : Type) where
  origins : List (Origin α)
  /-- What the slots are for: the promise to be settled in the end, and its inputs. -/
  teams : List (Nat × List Nat)
  heap : Heap α (Ledger α)

namespace World

/-- The graph of all promises. -/
def graph (world : World α) : Graph α :=
  ⟨fun promise => world.origins[promise]?, world.heap.shared.found?, world.heap.outcome?⟩

/-- What a world has become after some steps. -/
structure Below (world later : World α) : Prop where
  graph : world.graph.Below later.graph
  teams : ∀ (gather : Nat) (team : Nat × List Nat), world.teams[gather]? = some team →
    later.teams[gather]? = some team

/-- A world before any step. -/
theorem Below.refl (world : World α) : world.Below world :=
  ⟨⟨fun _ _ known => known, fun _ _ known => known, fun _ _ known => known⟩, fun _ _ known => known⟩

/-- Steps after steps. -/
theorem Below.trans {world later last : World α} (first : world.Below later)
    (second : later.Below last) : world.Below last where
  graph :=
    ⟨fun _ _ known => second.graph.origins _ _ (first.graph.origins _ _ known),
      fun _ _ known => second.graph.finds _ _ (first.graph.finds _ _ known),
      fun _ _ known => second.graph.outcomes _ _ (first.graph.outcomes _ _ known)⟩
  teams _ _ known := second.teams _ _ (first.teams _ _ known)

/-- A promise that is there stays there. -/
theorem Below.inside {world later : World α} (below : world.Below later) {promise : Nat}
    (inside : promise < world.origins.length) : promise < later.origins.length :=
  (List.getElem?_eq_some_iff.1
    (below.graph.origins _ _ (List.getElem?_eq_getElem inside))).1

/-- What is written down about promises is so. -/
def Noted (world : World α) : Prop :=
  ∀ entry ∈ world.heap.shared.origins, world.origins[entry.1]? = some entry.2

/-- What the ledger says about a promise is so. -/
theorem Noted.origin {world : World α} (noted : world.Noted) {promise : Nat} {origin : Origin α}
    (known : world.heap.shared.origin? promise = some origin) :
    world.origins[promise]? = some origin := by
  obtain ⟨front, back, split, _⟩ := List.lookup_eq_some_iff.1 known
  exact noted (promise, origin) (by rw [split]; simp)

/--
A callback on a promise may have the duty.

Whoever has to settle a promise waits for one that it is made from.
-/
def Awaits (pack : List α → α) (world : World α) (promise : Nat) : Duty → Prop
  | .settle derived =>
    (∃ f, world.origins[derived]? = some (.mapped promise f)) ∨
    (∃ site, world.origins[derived]? = some (.flattened promise site)) ∨
    ∃ input site value, world.origins[derived]? = some (.flattened input site) ∧
      world.graph.Means pack input (.ok value) ∧
      world.heap.shared.found? site = some (value, promise)
  | .deposit gather index =>
    ∃ derived inputs, world.teams[gather]? = some (derived, inputs) ∧ inputs[index]? = some promise
  | .fill _ => True
  | .note _ => False

/-- Who has a duty for a promise has it for that promise later. -/
theorem Awaits.mono {pack : List α → α} {world later : World α} {promise : Nat}
    {duty : Duty} (awaits : world.Awaits pack promise duty) (below : world.Below later) :
    later.Awaits pack promise duty := by
  -- Origins, teams and finds are kept, and what a promise means is as well.
  cases duty with
  | settle derived =>
    rcases awaits with ⟨f, origin⟩ | ⟨site, origin⟩ | ⟨input, site, value, origin, means, found⟩
    · exact .inl ⟨f, below.graph.origins _ _ origin⟩
    · exact .inr (.inl ⟨site, below.graph.origins _ _ origin⟩)
    · exact .inr (.inr ⟨input, site, value, below.graph.origins _ _ origin,
        means.mono below.graph, below.graph.finds _ _ found⟩)
  | deposit gather index =>
    obtain ⟨derived, inputs, team, input⟩ := awaits
    exact ⟨derived, inputs, below.teams _ _ team, input⟩
  | fill _ => trivial
  | note _ => exact awaits

end World

/-- The deposits for the inputs of a gathered promise, from a position on. -/
def depositDuties (gather first count : Nat) : List Duty :=
  (List.range' first count).map (.deposit gather)

/--
Code owes duties: it does each of them, or hands it to a callback that does it.

What code does to promises is right in the world as it is, and in whatever world it may become.
-/
inductive Owes (pack : List α → α) : World α → Task α (Ledger α) → List Duty → Prop where
  | done {world : World α} {duties : List Duty}
      (fills : ∀ duty ∈ duties, ∃ site, duty = .fill site) :
      Owes pack world .done duties
  | create {world : World α} {next : Nat → Task α (Ledger α)} {duties : List Duty}
      (origin : Origin α)
      (goesOn : ∀ later, world.Below later → ∀ fresh, later.origins[fresh]? = some origin →
        Owes pack later (next fresh) (origin.duties fresh ++ duties)) :
      Owes pack world (.create next) duties
  /-- Whoever settles a promise made from others has the duty, and knows what the promise means. -/
  | settle {world : World α} {promise : Nat} {outcome : Outcome α}
      {next : Bool → Task α (Ledger α)} {duties rest : List Duty}
      (split : duties.Perm (.settle promise :: rest))
      (means : world.graph.Means pack promise outcome)
      (goesOn : ∀ accepted, Owes pack world (next accepted) rest) :
      Owes pack world (.settle promise outcome next) duties
  | source {world : World α} {promise : Nat} {outcome : Outcome α}
      {next : Bool → Task α (Ledger α)} {duties : List Duty}
      (origin : world.origins[promise]? = some .source)
      (goesOn : ∀ accepted, Owes pack world (next accepted) duties) :
      Owes pack world (.settle promise outcome next) duties
  /-- A callback does what is handed to it whenever the promise has the outcome that it means. -/
  | subscribe {world : World α} {promise : Nat} {code : Outcome α → Task α (Ledger α)}
      {next : Task α (Ledger α)} {duties handed rest : List Duty}
      (split : duties.Perm (handed ++ rest)) (inside : promise < world.origins.length)
      (awaits : ∀ duty ∈ handed, world.Awaits pack promise duty)
      (does : ∀ later, world.Below later → ∀ outcome, later.graph.Means pack promise outcome →
        Owes pack later (code outcome) handed)
      (goesOn : Owes pack world next rest) :
      Owes pack world (.subscribe promise code next) duties
  /-- The settling of a gathered promise is shared out among the deposits. -/
  | gather {world : World α} {promise : Nat} {inputs : List Nat} {next : Nat → Task α (Ledger α)}
      {duties rest : List Duty} (split : duties.Perm (.settle promise :: rest))
      (origin : world.origins[promise]? = some (.gathered inputs)) (nonempty : inputs ≠ [])
      (goesOn : ∀ later, world.Below later → ∀ fresh,
        later.teams[fresh]? = Option.some (promise, inputs) →
        Owes pack later (next fresh) (depositDuties fresh 0 inputs.length ++ rest)) :
      Owes pack world (.gather inputs.length next) duties
  /-- Whoever makes the last deposit gets the duty to settle. -/
  | deposit {world : World α} {gather index derived input : Nat} {inputs : List Nat}
      {outcome : Outcome α} {next : Option (List (Option (Outcome α))) → Task α (Ledger α)}
      {duties rest : List Duty} (split : duties.Perm (.deposit gather index :: rest))
      (team : world.teams[gather]? = some (derived, inputs)) (here : inputs[index]? = some input)
      (means : world.graph.Means pack input outcome)
      (goesOn : Owes pack world (next none) rest)
      (last : ∀ later, world.Below later → ∀ outcomes : List (Outcome α),
        outcomes.length = inputs.length →
        (∀ (index input : Nat) (outcome : Outcome α), inputs[index]? = some input →
          outcomes[index]? = some outcome → later.graph.Means pack input outcome) →
        Owes pack later (next (some (outcomes.map some))) (.settle derived :: rest)) :
      Owes pack world (.deposit gather index outcome next) duties
  | look {world : World α} {next : Ledger α → Task α (Ledger α)} {duties : List Duty}
      (goesOn : ∀ later, world.Below later → later.Noted →
        Owes pack later (next later.heap.shared) duties) :
      Owes pack world (.update id next) duties
  | note {world : World α} {promise : Nat} {origin : Origin α} {next : Task α (Ledger α)}
      {duties rest : List Duty} (split : duties.Perm (.note promise :: rest))
      (known : world.origins[promise]? = some origin) (goesOn : Owes pack world next rest) :
      Owes pack world (.update (Ledger.note promise origin) fun _ => next) duties
  | openSite {world : World α} {next : Ledger α → Task α (Ledger α)} {duties : List Duty}
      (goesOn : ∀ ledger, Owes pack world (next ledger) (.fill ledger.sites.length :: duties)) :
      Owes pack world (.update Ledger.openSite next) duties
  | fillSite {world : World α} {site found : Nat} {value : α} {next : Task α (Ledger α)}
      {duties rest : List Duty} (split : duties.Perm (.fill site :: rest))
      (goesOn : ∀ later, world.Below later →
        later.heap.shared.found? site = some (value, found) → Owes pack later next rest) :
      Owes pack world (.update (Ledger.fillSite site value found) fun _ => next) duties

namespace Owes

variable {world later : World α} {code : Task α (Ledger α)} {duties others : List Duty}

/-- Code that is right in a world is right in what the world becomes. -/
theorem mono (owes : Owes pack world code duties) (below : world.Below later) :
    Owes pack later code duties := by
  -- What code owes later it owes after what has come in between, by transitivity.
  induction owes generalizing later with
  | done fills => exact .done fills
  | create origin goesOn _ =>
    exact .create origin fun last after => goesOn last (below.trans after)
  | settle split means _ ih =>
    exact .settle split (means.mono below.graph) fun accepted => ih accepted below
  | source origin _ ih =>
    exact .source (below.graph.origins _ _ origin) fun accepted => ih accepted below
  | subscribe split inside awaits does _ _ ih =>
    exact .subscribe split (below.inside inside)
      (fun duty member => (awaits duty member).mono below)
      (fun last after => does last (below.trans after)) (ih below)
  | gather split origin nonempty goesOn _ =>
    exact .gather split (below.graph.origins _ _ origin) nonempty
      fun last after => goesOn last (below.trans after)
  | deposit split team here means _ last ih _ =>
    exact .deposit split (below.teams _ _ team) here (means.mono below.graph) (ih below)
      fun final after => last final (below.trans after)
  | look goesOn _ => exact .look fun last after => goesOn last (below.trans after)
  | note split known _ ih => exact .note split (below.graph.origins _ _ known) (ih below)
  | openSite _ ih => exact .openSite fun ledger => ih ledger below
  | fillSite split goesOn _ =>
    exact .fillSite split fun last after => goesOn last (below.trans after)

/-- The order of duties does not matter. -/
theorem perm (owes : Owes pack world code duties) (same : duties.Perm others) :
    Owes pack world code others := by
  -- A duty that is taken out of the list is taken out of the other list.
  induction owes generalizing others with
  | done fills => exact .done fun duty member => fills duty (same.mem_iff.2 member)
  | create origin _ ih =>
    exact .create origin fun last after fresh known =>
      ih last after fresh known (same.append_left _)
  | settle split means goesOn _ => exact .settle (same.symm.trans split) means goesOn
  | source origin _ ih => exact .source origin fun accepted => ih accepted same
  | subscribe split inside awaits does goesOn _ _ =>
    exact .subscribe (same.symm.trans split) inside awaits does goesOn
  | gather split origin nonempty goesOn _ =>
    exact .gather (same.symm.trans split) origin nonempty goesOn
  | deposit split team here means goesOn last _ _ =>
    exact .deposit (same.symm.trans split) team here means goesOn last
  | look _ ih => exact .look fun last after noted => ih last after noted same
  | note split known goesOn _ => exact .note (same.symm.trans split) known goesOn
  | openSite _ ih => exact .openSite fun ledger => ih ledger (same.cons _)
  | fillSite split goesOn _ => exact .fillSite (same.symm.trans split) goesOn

/-- Code that settles a promise and ends. -/
theorem settleOnly {promise : Nat} {outcome : Outcome α}
    (means : world.graph.Means pack promise outcome) :
    Owes pack world (.settle promise outcome fun _ => .done) [.settle promise] :=
  .settle (.refl _) means fun _ => .done (by simp)

end Owes

open PromiseProgram

section Programs

variable {world : World α} {duties : List Duty}

/-- The promise that has a number is there. -/
theorem owes_named (promise : Nat) {next : Nat → Task α (Ledger α)}
    (goesOn : ∀ later, world.Below later → ∀ found < later.origins.length,
      Owes pack later (next found) duties) :
    Owes pack world (named promise next) duties := by
  refine .look fun later below noted => ?_
  cases known : later.heap.shared.origin? promise with
  | some origin =>
    obtain ⟨inside, _⟩ := List.getElem?_eq_some_iff.1 (noted.origin known)
    simpa using goesOn later below promise inside
  | none =>
    -- A new promise is made and written down.
    simp only [Option.isSome_none, Bool.false_eq_true, if_false]
    refine .create .source fun last after fresh origin => .note (.refl _) origin ?_
    exact goesOn last (below.trans after) fresh (List.getElem?_eq_some_iff.1 origin).1

/-- The promises that have numbers are there. -/
theorem owes_namedAll (promises : List Nat) {next : List Nat → Task α (Ledger α)}
    (goesOn : ∀ later, world.Below later → ∀ found : List Nat,
      (∀ promise ∈ found, promise < later.origins.length) → Owes pack later (next found) duties) :
    Owes pack world (namedAll promises next) duties := by
  induction promises generalizing world next with
  | nil => exact goesOn world (.refl _) [] (by simp)
  | cons promise rest ih =>
    -- The first one is still there when the others have been looked for.
    refine owes_named promise fun later below first inside => ih fun last after others there => ?_
    refine goesOn last (below.trans after) (first :: others) fun found member => ?_
    rcases List.mem_cons.1 member with rfl | member
    · exact after.inside inside
    · exact there found member

/-- The promise of what a function makes of a value is settled by the callback on the other. -/
theorem owes_mapped {input : Nat} (inside : input < world.origins.length) (f : α → α)
    {next : Nat → Task α (Ledger α)}
    (goesOn : ∀ later, world.Below later → ∀ derived,
      later.origins[derived]? = some (.mapped input f) →
      Owes pack later (next derived) (.note derived :: duties)) :
    Owes pack world (.mapped input f next) duties := by
  refine .create (.mapped input f) fun later below derived origin => ?_
  have split : ([.note derived, .settle derived] ++ duties : List Duty).Perm
      ([.settle derived] ++ .note derived :: duties) := List.Perm.swap _ _ _
  -- The duty to settle is handed to the callback, and that to write down is kept.
  refine .subscribe split (below.inside inside) ?_ ?_ (goesOn later below derived origin)
  · intro duty member
    rw [List.mem_singleton.1 member]
    exact .inl ⟨f, origin⟩
  · intro last after outcome means
    -- The callback settles the promise with what it means, whatever the outcome.
    have derivedMeans := means.mapped (after.graph.origins _ _ origin)
    cases outcome <;> exact .settleOnly derivedMeans

/--
The promise of what is found for a value is settled by the callback on the input, or by a callback
on what was found.
-/
theorem owes_flatten {input site : Nat} (inside : input < world.origins.length)
    {inner : α → (Nat → Task α (Ledger α)) → Task α (Ledger α)} {next : Nat → Task α (Ledger α)}
    (finds : ∀ later, world.Below later → ∀ value give (mine : List Duty),
      (∀ last, later.Below last → ∀ found < last.origins.length,
        last.heap.shared.found? site = some (value, found) → Owes pack last (give found) mine) →
      Owes pack later (inner value give) (.fill site :: mine))
    (goesOn : ∀ later, world.Below later → ∀ derived,
      later.origins[derived]? = some (.flattened input site) →
      Owes pack later (next derived) (.note derived :: duties)) :
    Owes pack world (.flatten input inner next) (.fill site :: duties) := by
  refine .create (.flattened input site) fun later below derived origin => ?_
  have split : ([.note derived, .settle derived] ++ .fill site :: duties : List Duty).Perm
      ([.fill site, .settle derived] ++ .note derived :: duties) :=
    (List.reverse_perm [Duty.fill site, Duty.settle derived, Duty.note derived]).append_right duties
  -- The callback also gets the right to fill the site, since only it knows the value.
  refine .subscribe split (below.inside inside) ?_ ?_ (goesOn later below derived origin)
  · intro duty member
    rcases List.mem_cons.1 member with rfl | member
    · trivial
    · rw [List.mem_singleton.1 member]
      exact .inr (.inl ⟨site, origin⟩)
  · intro last after outcome means
    have known := after.graph.origins _ _ origin
    cases outcome with
    | error error =>
      -- Nothing will be found for the site.
      refine .settle (List.Perm.swap _ _ _) (.rejected known means) fun _ => .done ?_
      simp
    | ok value =>
      refine finds last (below.trans after) value _ _ fun final finally_ found there filled => ?_
      -- The duty goes to whoever waits for what was found.
      have split : [Duty.settle derived].Perm ([.settle derived] ++ []) := .refl _
      refine .subscribe split there ?_ ?_ (.done (by simp))
      · intro duty member
        rw [List.mem_singleton.1 member]
        exact .inr (.inr ⟨input, site, value, finally_.graph.origins _ _ known,
          means.mono finally_.graph, filled⟩)
      · intro end_ atEnd outcome innerMeans
        exact .settleOnly (.flattened (atEnd.graph.origins _ _ (finally_.graph.origins _ _ known))
          ((means.mono finally_.graph).mono atEnd.graph) (atEnd.graph.finds _ _ filled) innerMeans)

/-- Each input of a gathered promise gets a callback that makes its deposit. -/
theorem owes_depositAll {gather derived first : Nat} {inputs rest : List Nat}
    {next : Task α (Ledger α)} (team : world.teams[gather]? = some (derived, inputs))
    (origin : world.origins[derived]? = some (.gathered inputs))
    (inside : ∀ input ∈ inputs, input < world.origins.length) (part : inputs.drop first = rest)
    (goesOn : Owes pack world next duties) :
    Owes pack world (.depositAll gather derived pack first rest next)
      (depositDuties gather first rest.length ++ duties) := by
  -- The inputs from a position on, with the deposits from that position on.
  induction rest generalizing first with
  | nil => exact goesOn
  | cons input rest ih =>
    have here : inputs[first]? = some input := by
      rw [← List.head?_drop, part, List.head?_cons]
    have others : inputs.drop (first + 1) = rest := by
      rw [← List.tail_drop, part, List.tail_cons]
    have split : (depositDuties gather first (rest.length + 1) ++ duties).Perm
        ([.deposit gather first] ++ (depositDuties gather (first + 1) rest.length ++ duties)) :=
      .refl _
    -- The first deposit is handed to the callback on the first input.
    refine .subscribe split (inside input (List.mem_of_getElem? here)) ?_ ?_ (ih others)
    · intro duty member
      rw [List.mem_singleton.1 member]
      exact ⟨derived, inputs, team, here⟩
    · intro later below outcome means
      refine .deposit (.refl _) (below.teams _ _ team) here means (.done (by simp)) ?_
      intro last after outcomes length all
      -- The slots hold the outcomes of all inputs, and the promise means what they come to.
      have known := after.graph.origins _ _ (below.graph.origins _ _ origin)
      have collected : Gather.collect (outcomes.map some) = Gather.valuesOf outcomes := by
        simp [Gather.collect, List.filterMap_map]
      show Owes pack last
        (.settle derived ((Gather.collect (outcomes.map some)).map pack) fun _ => .done) _
      rw [collected]
      exact .settleOnly (.gathered known length all)

/-- The promise of all values is settled by whoever makes the last deposit. -/
theorem owes_whenAll {inputs : List Nat} (inside : ∀ input ∈ inputs, input < world.origins.length)
    {next : Nat → Task α (Ledger α)}
    (goesOn : ∀ later, world.Below later → ∀ derived,
      later.origins[derived]? = some (.gathered inputs) →
      Owes pack later (next derived) (.note derived :: duties)) :
    Owes pack world (.whenAll inputs pack next) duties := by
  unfold Task.whenAll
  split
  · -- Without inputs there is nothing to wait for.
    rename_i empty
    obtain rfl : inputs = [] := List.isEmpty_iff.1 empty
    refine .create (.gathered []) fun later below derived origin => ?_
    have vacuous (index input : Nat) (outcome : Outcome α)
        (here : ([] : List Nat)[index]? = some input)
        (_ : ([] : List (Outcome α))[index]? = some outcome) :
        later.graph.Means pack input outcome := by simp at here
    exact .settle (List.Perm.swap _ _ _) (.gathered origin rfl vacuous)
      fun _ => goesOn later below derived origin
  · rename_i nonempty
    refine .create (.gathered inputs) fun later below derived origin => ?_
    -- The duty to settle is shared out, and each input gets one of the deposits.
    refine .gather (List.Perm.swap _ _ _) origin (by simpa using nonempty)
      fun last after gather team => ?_
    exact owes_depositAll team (after.graph.origins _ _ origin)
      (fun input member => after.inside (below.inside (inside input member))) rfl
      (goesOn last (below.trans after) derived (after.graph.origins _ _ origin))

/-- A program owes what comes after it, and nothing of its own. -/
theorem owes_task (program : PromiseProgram α) {after : Nat → Task α (Ledger α)}
    (goesOn : ∀ later, world.Below later → ∀ found < later.origins.length,
      Owes pack later (after found) duties) :
    Owes pack world (program.task pack after) duties := by
  -- The code is cut where the program is, and what comes after it is by induction.
  induction program generalizing world after duties with
  | give promise => exact owes_named promise goesOn
  | look next ih =>
    exact .look fun later below _ =>
      ih _ fun last beyond => goesOn last (below.trans beyond)
  | pending next ih =>
    refine .create .source fun later below fresh origin => .note (.refl _) origin ?_
    exact ih _ fun last beyond => goesOn last (below.trans beyond)
  | mapped promise f next ih =>
    refine owes_named promise fun later below input inside => ?_
    refine owes_mapped inside f fun last beyond derived origin => .note (.refl _) origin ?_
    exact ih _ fun final further => goesOn final ((below.trans beyond).trans further)
  | flatten promise inner next innerIh ih =>
    refine owes_named promise fun later below input inside => .openSite fun ledger => ?_
    refine owes_flatten inside (fun last beyond value give mine gives => ?_) fun last beyond derived
      origin => .note (.refl _) origin ?_
    · -- What was found is written down before anybody waits for it.
      refine innerIh value fun final further found there => .fillSite (.refl _) ?_
      exact fun end_ atEnd filled =>
        gives end_ (further.trans atEnd) found (atEnd.inside there) filled
    · exact ih _ fun final further => goesOn final ((below.trans beyond).trans further)
  | whenAll promises next ih =>
    refine owes_namedAll promises fun later below inputs inside => ?_
    -- The derived promise is written down as soon as it is there.
    refine owes_whenAll inside fun last beyond derived origin => .note (.refl _) origin ?_
    exact ih _ fun final further => goesOn final ((below.trans beyond).trans further)
  | settle promise outcome next ih =>
    refine .look fun later below noted => ?_
    have goesOnThere (accepted : Bool) :
        Owes pack later ((next accepted).task pack after) duties :=
      ih accepted fun last beyond => goesOn last (below.trans beyond)
    split
    · -- What the ledger says to be a source is one.
      rename_i source
      refine .source (noted.origin ?_) goesOnThere
      revert source
      unfold Ledger.isSource
      split <;> simp_all
    · exact goesOnThere false

end Programs

end HttpEngine
