import HttpEngine.Promise.Gather

/-!
What the promises of a graph mean. A promise is a source, or is made from others, and the outcomes
of the sources decide those of all promises made from them, in whatever order they come.
-/

namespace HttpEngine

variable {α : Type} {pack : List α → α}

/-- Where a promise comes from. -/
inductive Origin (α : Type) where
  /-- Somebody may settle it. -/
  | source
  | mapped (promise : Nat) (f : α → α)
  /-- The promise that code finds for a value, which is written down at a site. -/
  | flattened (promise site : Nat)
  | gathered (promises : List Nat)

/-- Whether nobody but a callback settles the promise. -/
def Origin.isDerived : Origin α → Bool
  | source => false
  | _ => true

/-- The origins of promises, what was found at the sites, and the outcomes that promises have. -/
structure Graph (α : Type) where
  origin? : Nat → Option (Origin α)
  /-- The value that code was called with for a site, and the promise that it found for it. -/
  found? : Nat → Option (α × Nat)
  outcome? : Nat → Option (Outcome α)

namespace Graph

variable {graph : Graph α} {promise : Nat} {outcome : Outcome α}

/--
The outcome that a promise ought to have, by its origin alone.

Only the outcomes of sources are taken from the graph.
-/
inductive Means (graph : Graph α) (pack : List α → α) : Nat → Outcome α → Prop where
  | source {promise : Nat} {outcome : Outcome α} (origin : graph.origin? promise = some .source)
      (settled : graph.outcome? promise = some outcome) : Means graph pack promise outcome
  | mapped {promise input : Nat} {f : α → α} {outcome : Outcome α}
      (origin : graph.origin? promise = some (.mapped input f))
      (means : Means graph pack input outcome) : Means graph pack promise (outcome.map f)
  | rejected {promise input site : Nat} {error : Error}
      (origin : graph.origin? promise = some (.flattened input site))
      (means : Means graph pack input (.error error)) : Means graph pack promise (.error error)
  | flattened {promise input site inner : Nat} {value : α} {outcome : Outcome α}
      (origin : graph.origin? promise = some (.flattened input site))
      (means : Means graph pack input (.ok value))
      (found : graph.found? site = some (value, inner))
      (innerMeans : Means graph pack inner outcome) : Means graph pack promise outcome
  | gathered {promise : Nat} {inputs : List Nat} {outcomes : List (Outcome α)}
      (origin : graph.origin? promise = some (.gathered inputs))
      (length : outcomes.length = inputs.length)
      (means : ∀ (index input : Nat) (outcome : Outcome α), inputs[index]? = some input →
        outcomes[index]? = some outcome → Means graph pack input outcome) :
      Means graph pack promise ((Gather.valuesOf outcomes).map pack)

/-- One list of outcomes is another if they have the same length and the same entries. -/
theorem outcomes_unique {inputs : List Nat} {outcomes others : List (Outcome α)}
    {P : Nat → Outcome α → Prop} (length : outcomes.length = inputs.length)
    (sameLength : others.length = inputs.length)
    (unique : ∀ (index input : Nat) (outcome : Outcome α), inputs[index]? = some input →
      outcomes[index]? = some outcome → ∀ other, P input other → outcome = other)
    (holds : ∀ (index input : Nat) (outcome : Outcome α), inputs[index]? = some input →
      others[index]? = some outcome → P input outcome) : outcomes = others := by
  refine List.ext_getElem (length.trans sameLength.symm) fun index here there => ?_
  have inside : index < inputs.length := length ▸ here
  -- At each position the input decides, and both lists have an entry there.
  exact unique index inputs[index] outcomes[index] (List.getElem?_eq_getElem inside)
    (List.getElem?_eq_getElem here) _
    (holds index inputs[index] others[index] (List.getElem?_eq_getElem inside)
      (List.getElem?_eq_getElem there))

/-- No promise means two outcomes. -/
theorem Means.unique {other : Outcome α} (means : graph.Means pack promise outcome)
    (same : graph.Means pack promise other) : outcome = other := by
  -- The origin leaves one rule, and what goes into the rule is unique by induction.
  induction means generalizing other with
  | source origin settled =>
    cases same <;> simp_all
  | mapped origin _ ih =>
    cases same with
    | mapped origin' means' =>
      cases origin.symm.trans origin'
      rw [ih means']
    | _ => simp_all
  | rejected origin _ ih =>
    -- The input decides between the two rules for flattened promises, since it means one outcome.
    cases same with
    | rejected origin' means' =>
      cases origin.symm.trans origin'
      exact ih means'
    | flattened origin' means' =>
      cases origin.symm.trans origin'
      cases ih means'
    | _ => simp_all
  | flattened origin _ found _ ih innerIh =>
    cases same with
    | rejected origin' means' =>
      cases origin.symm.trans origin'
      cases ih means'
    | flattened origin' means' found' innerMeans' =>
      cases origin.symm.trans origin'
      cases ih means'
      cases found.symm.trans found'
      exact innerIh innerMeans'
    | _ => simp_all
  | gathered origin length _ ih =>
    -- The inputs are the same, and each of them means one outcome.
    cases same with
    | gathered origin' length' means' =>
      cases origin.symm.trans origin'
      rw [outcomes_unique length length'
        (fun index input _ here there _ => ih index input _ here there)
        means']
    | _ => simp_all

/-- What a graph has become when promises were added, settled, or found at sites. -/
structure Below (graph later : Graph α) : Prop where
  origins : ∀ promise origin, graph.origin? promise = some origin →
    later.origin? promise = some origin
  finds : ∀ site found, graph.found? site = some found → later.found? site = some found
  outcomes : ∀ promise outcome, graph.outcome? promise = some outcome →
    later.outcome? promise = some outcome

/-- What a promise means does not change when the graph grows. -/
theorem Means.mono {later : Graph α} (means : graph.Means pack promise outcome)
    (below : graph.Below later) : later.Means pack promise outcome := by
  -- Each rule is used again, with premises from the graph that grew.
  induction means with
  | source origin settled =>
    exact .source (below.origins _ _ origin) (below.outcomes _ _ settled)
  | mapped origin _ ih => exact .mapped (below.origins _ _ origin) ih
  | rejected origin _ ih => exact .rejected (below.origins _ _ origin) ih
  | flattened origin _ found _ ih innerIh =>
    exact .flattened (below.origins _ _ origin) ih (below.finds _ _ found) innerIh
  | gathered origin length _ ih => exact .gathered (below.origins _ _ origin) length ih

/--
A graph in which everything that can be settled is: promises have the outcomes that they mean.
-/
structure Resolved (graph : Graph α) (pack : List α → α) : Prop where
  outcome_iff : ∀ promise outcome, graph.outcome? promise = some outcome ↔
    graph.Means pack promise outcome
  /-- Where a value came to a site, code was called with it, and found a promise. -/
  found : ∀ promise input site value, graph.origin? promise = some (.flattened input site) →
    graph.Means pack input (.ok value) → ∃ inner, graph.found? site = some (value, inner)

/-- What the outcome of a promise is by the outcomes that it was made from. -/
def Obeys (graph : Graph α) (pack : List α → α) (promise : Nat) : Origin α → Prop
  | .source => True
  | .mapped input f => graph.outcome? promise = (graph.outcome? input).map (Except.map f)
  | .flattened input site =>
    match graph.outcome? input with
    | none => graph.outcome? promise = none
    | some (.error error) => graph.outcome? promise = some (.error error)
    | some (.ok value) =>
      ∃ inner, graph.found? site = some (value, inner) ∧
        graph.outcome? promise = graph.outcome? inner
  | .gathered inputs =>
    ((∃ input ∈ inputs, graph.outcome? input = none) → graph.outcome? promise = none) ∧
    (∀ values : List α, inputs.map graph.outcome? = values.map (fun value => some (.ok value)) →
      graph.outcome? promise = some (.ok (pack values))) ∧
    (∀ before input after error, inputs = before ++ input :: after →
      (∀ other ∈ before, ∃ value, graph.outcome? other = some (.ok value)) →
      graph.outcome? input = some (.error error) →
      (∀ other ∈ after, graph.outcome? other ≠ none) →
      graph.outcome? promise = some (.error error))

namespace Resolved

variable (resolved : graph.Resolved pack)
include resolved

/-- A promise without a meaning waits. -/
theorem outcome?_eq_none (nothing : ∀ outcome, ¬ graph.Means pack promise outcome) :
    graph.outcome? promise = none := by
  cases settled : graph.outcome? promise with
  | none => rfl
  | some outcome => exact absurd ((resolved.outcome_iff _ _).1 settled) (nothing outcome)

/-- The outcome of a promise that a function makes of another. -/
theorem outcome?_mapped {input : Nat} {f : α → α}
    (origin : graph.origin? promise = some (.mapped input f)) :
    graph.outcome? promise = (graph.outcome? input).map (Except.map f) := by
  cases settled : graph.outcome? input with
  | some outcome =>
    exact (resolved.outcome_iff _ _).2 (.mapped origin ((resolved.outcome_iff _ _).1 settled))
  | none =>
    -- A meaning would have come from one of the input, which would be settled then.
    refine resolved.outcome?_eq_none fun outcome means => ?_
    cases means with
    | mapped origin' means =>
      cases origin.symm.trans origin'
      simp [(resolved.outcome_iff _ _).2 means] at settled
    | _ => simp_all

/-- A flattened promise has the outcome of what was found, if its input has a value. -/
theorem obeys_flattened {input site : Nat}
    (origin : graph.origin? promise = some (.flattened input site)) :
    graph.Obeys pack promise (.flattened input site) := by
  -- The input waits, failed, or has a value, for which there is an inner promise.
  simp only [Obeys]
  cases settled : graph.outcome? input with
  | none =>
    refine resolved.outcome?_eq_none fun outcome means => ?_
    cases means with
    | rejected origin' means | flattened origin' means =>
      cases origin.symm.trans origin'
      simp [(resolved.outcome_iff _ _).2 means] at settled
    | _ => simp_all
  | some outcome =>
    have means := (resolved.outcome_iff _ _).1 settled
    cases outcome with
    | error error => exact (resolved.outcome_iff _ _).2 (.rejected origin means)
    | ok value =>
      obtain ⟨inner, found⟩ := resolved.found _ _ _ _ origin means
      refine ⟨inner, found, Option.ext fun outcome => ?_⟩
      -- The promise means what the inner promise means, and nothing else.
      rw [resolved.outcome_iff, resolved.outcome_iff]
      constructor
      · intro derived
        cases derived with
        | rejected origin' means' =>
          cases origin.symm.trans origin'
          cases means.unique means'
        | flattened origin' means' found' innerMeans =>
          cases origin.symm.trans origin'
          cases means.unique means'
          cases found.symm.trans found'
          exact innerMeans
        | _ => simp_all
      · exact .flattened origin means found

/-- A gathered promise takes its outcome from the outcomes of all its inputs. -/
theorem outcome?_gathered {inputs : List Nat} {outcomes : List (Outcome α)}
    (origin : graph.origin? promise = some (.gathered inputs))
    (settled : inputs.map graph.outcome? = outcomes.map some) :
    graph.outcome? promise = some ((Gather.valuesOf outcomes).map pack) := by
  -- All inputs mean what they have, so that the promise means what they come to.
  refine (resolved.outcome_iff _ _).2 (.gathered origin ?_ fun index input outcome here there => ?_)
  · simpa using (congrArg List.length settled).symm
  · have entry := congrArg (·[index]?) settled
    simp only [List.getElem?_map, here, there, Option.map_some] at entry
    exact (resolved.outcome_iff _ _).1 (Option.some.inj entry)

/-- A gathered promise waits for each of its inputs. -/
theorem outcome?_gathered_of_waits {inputs : List Nat} {input : Nat}
    (origin : graph.origin? promise = some (.gathered inputs)) (member : input ∈ inputs)
    (waits : graph.outcome? input = none) : graph.outcome? promise = none := by
  refine resolved.outcome?_eq_none fun outcome means => ?_
  cases means with
  | gathered origin' length means =>
    cases origin.symm.trans origin'
    -- A meaning would take in one of this input, which would be settled then.
    obtain ⟨index, inside, rfl⟩ := List.getElem_of_mem member
    have there := List.getElem?_eq_getElem (length.symm ▸ inside)
    have settled := means index _ _ (List.getElem?_eq_getElem inside) there
    simp [(resolved.outcome_iff _ _).2 settled] at waits
  | _ => simp_all

end Resolved

end Graph

/-- Values that are all there come out in their order. -/
theorem Gather.valuesOf_ok (values : List α) :
    valuesOf (values.map (Except.ok : α → Outcome α)) = .ok values := by
  induction values with
  | nil => rfl
  | cons value rest ih => simp [valuesOf, ih]

/-- The first error is what comes out, whatever is behind it. -/
theorem Gather.valuesOf_error (values : List α) (error : Error) (rest : List (Outcome α)) :
    valuesOf (values.map (Except.ok : α → Outcome α) ++ .error error :: rest) = .error error := by
  induction values with
  | nil => rfl
  | cons value others ih => simp [valuesOf, ih]

/-- Options that are all there are the entries of a list. -/
theorem exists_map_some {β γ : Type} {f : β → Option γ} {list : List β}
    (there : ∀ entry ∈ list, f entry ≠ none) :
    ∃ entries : List γ, list.map f = entries.map some := by
  -- No entry is left out by the filter.
  refine ⟨list.filterMap f, ?_⟩
  induction list with
  | nil => rfl
  | cons first rest ih =>
    obtain ⟨entry, found⟩ := Option.ne_none_iff_exists'.1 (there first List.mem_cons_self)
    have others := ih fun other member => there other (List.mem_cons_of_mem _ member)
    rw [List.filterMap_cons_some found, List.map_cons, List.map_cons, found, others]

namespace Graph

variable {graph other : Graph α}

/-- In a graph in which everything is settled that can be, all promises obey their origins. -/
theorem Resolved.obeys (resolved : graph.Resolved pack) {promise : Nat} {origin : Origin α}
    (known : graph.origin? promise = some origin) : graph.Obeys pack promise origin := by
  cases origin with
  | source => trivial
  | mapped input f => exact resolved.outcome?_mapped known
  | flattened input site => exact resolved.obeys_flattened known
  | gathered inputs =>
    -- An input that waits, only values, and a first error are told apart.
    refine ⟨fun ⟨input, member, waits⟩ => resolved.outcome?_gathered_of_waits known member waits,
      fun values settled => ?_, fun before input after error split first failed rest => ?_⟩
    · have all : inputs.map graph.outcome? = (values.map (Except.ok : α → Outcome α)).map some := by
        simpa [Function.comp_def] using settled
      rw [resolved.outcome?_gathered known all, Gather.valuesOf_ok]
      rfl
    · -- The inputs in front have values, so that theirs is the first error.
      have values : ∃ values : List α,
          before.map graph.outcome? = values.map (fun value => some (.ok value)) := by
        clear split
        induction before with
        | nil => exact ⟨[], rfl⟩
        | cons input others ih =>
          obtain ⟨value, settled⟩ := first input List.mem_cons_self
          obtain ⟨values, settledRest⟩ := ih fun other member =>
            first other (List.mem_cons_of_mem _ member)
          exact ⟨value :: values, by simp [settled, settledRest]⟩
      obtain ⟨values, front⟩ := values
      -- Those behind it are settled, with whatever outcomes.
      obtain ⟨outcomes, back⟩ := exists_map_some rest
      have all : inputs.map graph.outcome? =
          (values.map .ok ++ .error error :: outcomes : List (Outcome α)).map some := by
        simp [split, front, failed, back]
      rw [resolved.outcome?_gathered known all, Gather.valuesOf_error]
      rfl

/-- Two promises of two graphs that come about in the same way, by promises that are related. -/
inductive Matches (graph other : Graph α) (related : Nat → Nat → Prop) (promise twin : Nat) :
    Origin α → Origin α → Prop where
  | source (same : graph.outcome? promise = other.outcome? twin) :
      Matches graph other related promise twin .source .source
  | mapped {input inputTwin : Nat} (f : α → α) (inputs : related input inputTwin) :
      Matches graph other related promise twin (.mapped input f) (.mapped inputTwin f)
  /-- Code that is called with the same value finds related promises. -/
  | flattened {input inputTwin site siteTwin : Nat} (inputs : related input inputTwin)
      (founds : ∀ value inner innerTwin, graph.found? site = some (value, inner) →
        other.found? siteTwin = some (value, innerTwin) → related inner innerTwin) :
      Matches graph other related promise twin (.flattened input site)
        (.flattened inputTwin siteTwin)
  | gathered {inputs inputTwins : List Nat} (length : inputs.length = inputTwins.length)
      (entries : ∀ (index input inputTwin : Nat), inputs[index]? = some input →
        inputTwins[index]? = some inputTwin → related input inputTwin) :
      Matches graph other related promise twin (.gathered inputs) (.gathered inputTwins)

/-- Related promises of two graphs are made in the same way, from sources with the same outcomes. -/
def Alike (graph other : Graph α) (related : Nat → Nat → Prop) : Prop :=
  ∀ promise twin, related promise twin → ∃ origin originTwin,
    graph.origin? promise = some origin ∧ other.origin? twin = some originTwin ∧
      Matches graph other related promise twin origin originTwin

/-- What relates two graphs relates them the other way round. -/
theorem Alike.flip {related : Nat → Nat → Prop} (alike : graph.Alike other related) :
    other.Alike graph fun twin promise => related promise twin := by
  intro twin promise pair
  obtain ⟨origin, originTwin, known, knownTwin, same⟩ := alike promise twin pair
  refine ⟨originTwin, origin, knownTwin, known, ?_⟩
  -- Every way of coming about is symmetric.
  cases same with
  | source same => exact .source same.symm
  | mapped f inputs => exact .mapped f inputs
  | flattened inputs founds =>
    exact .flattened inputs fun value inner innerTwin there here => founds value _ _ here there
  | gathered length entries =>
    exact .gathered length.symm fun index _ _ there here => entries index _ _ here there

/-- Related promises mean the same, if code was called wherever there was a value for it. -/
theorem Means.alike {related : Nat → Nat → Prop} (alike : graph.Alike other related)
    (resolved : other.Resolved pack) {promise twin : Nat} {outcome : Outcome α}
    (means : graph.Means pack promise outcome) (pair : related promise twin) :
    other.Means pack twin outcome := by
  -- The rule is the same on both sides, and its premises are by induction.
  induction means generalizing twin with
  | source origin settled =>
    obtain ⟨_, _, known, knownTwin, same⟩ := alike _ _ pair
    cases origin.symm.trans known
    cases same with
    | source same => exact .source knownTwin (same ▸ settled)
  | mapped origin _ ih =>
    obtain ⟨_, _, known, knownTwin, same⟩ := alike _ _ pair
    cases origin.symm.trans known
    cases same with
    | mapped f inputs => exact .mapped knownTwin (ih inputs)
  | rejected origin _ ih =>
    obtain ⟨_, _, known, knownTwin, same⟩ := alike _ _ pair
    cases origin.symm.trans known
    cases same with
    | flattened inputs _ => exact .rejected knownTwin (ih inputs)
  | flattened origin _ found _ ih innerIh =>
    obtain ⟨_, _, known, knownTwin, same⟩ := alike _ _ pair
    cases origin.symm.trans known
    cases same with
    | flattened inputs founds =>
      -- Code was called on the other side as well, and found the related promise.
      obtain ⟨inner, foundTwin⟩ := resolved.found _ _ _ _ knownTwin (ih inputs)
      exact .flattened knownTwin (ih inputs) foundTwin (innerIh (founds _ _ _ found foundTwin))
  | gathered origin length _ ih =>
    obtain ⟨_, _, known, knownTwin, same⟩ := alike _ _ pair
    cases origin.symm.trans known
    cases same with
    | gathered sameLength entries =>
      -- Entries at the same position are related, and so the outcomes are the same.
      refine .gathered knownTwin (length.trans sameLength) fun index inputTwin _ there entry => ?_
      obtain ⟨inside, _⟩ := List.getElem?_eq_some_iff.1 there
      have here := List.getElem?_eq_getElem (sameLength.symm ▸ inside)
      exact ih index _ _ here entry (entries index _ _ here there)

/-- Related promises of two graphs in which everything is settled that can be have one outcome. -/
theorem Alike.outcome?_eq {related : Nat → Nat → Prop} (alike : graph.Alike other related)
    (resolved : graph.Resolved pack) (resolvedTwin : other.Resolved pack) {promise twin : Nat}
    (pair : related promise twin) : graph.outcome? promise = other.outcome? twin := by
  -- Outcomes are meanings on both sides, and the relation goes both ways.
  refine Option.ext fun outcome => ?_
  rw [resolved.outcome_iff, resolvedTwin.outcome_iff]
  exact ⟨fun means => means.alike alike resolvedTwin pair,
    fun means => means.alike alike.flip resolved pair⟩

end Graph

end HttpEngine
