import HttpEngine.Proofs.Promise.Upkeep
import Mathlib.Data.List.Nodup
import Mathlib.Logic.Function.Basic
import Mathlib.Logic.Relation

/-!
The gathering of outcomes, without the code that runs it. Every input has a deposit, which waits
until the input has an outcome, and then comes to some thread. The deposit that leaves nothing to
count down takes the slots, and what they come to is paid to the aggregate.
-/

namespace HttpEngine

variable {α : Type}

/-- A gathering of outcomes: the inputs by their positions, and the promise for all outcomes. -/
structure Collection (α : Type) where
  inputs : List Nat
  pack : List α → α
  aggregate : Nat

/-- What some thread is about to do for a collection. -/
inductive Chore (α : Type) where
  /-- Registering the deposits of the inputs from a position on. -/
  | registering (first : Nat)
  /-- Making the deposit of an input that has an outcome. -/
  | deposit (index : Nat) (outcome : Outcome α)
  /-- Settling the promise with what the slots come to. -/
  | payment (slots : List (Option (Outcome α)))

/-- A deposit that was made, with the slots as they were before. -/
structure Deposit (α : Type) where
  before : Gather α
  index : Nat
  outcome : Outcome α

/-- An attempt to settle a promise, and whether the promise took the outcome. -/
structure Payment (α : Type) where
  outcome : Outcome α
  accepted : Bool

/-- How a collection stands. -/
structure Tally (α : Type) where
  /-- What the threads are about to do. -/
  chores : List (Chore α)
  /-- The positions of the inputs whose deposits wait for a promise, in their order. -/
  lodged : List Nat
  outcome? : Nat → Option (Outcome α)
  gather : Gather α
  /-- The deposits that were made, in their order. -/
  deposits : List (Deposit α)
  /-- The attempts to settle the promise, in their order. -/
  payments : List (Payment α)

/-- As many values are collected as there are outcomes, if none of them is an error. -/
theorem Gather.length_valuesOf {outcomes : List (Outcome α)} {values : List α}
    (ok : valuesOf outcomes = .ok values) : values.length = outcomes.length := by
  induction outcomes generalizing values with
  | nil =>
    cases ok
    rfl
  | cons outcome rest ih =>
    -- One failure makes all of it a failure, so that every outcome was a value.
    cases outcome with
    | error error => cases ok
    | ok value =>
      rw [valuesOf] at ok
      cases others : valuesOf rest with
      | error error => rw [others] at ok; cases ok
      | ok more =>
        rw [others] at ok
        cases ok
        rw [List.length_cons, List.length_cons, ih others]

/-- Nothing is dropped when slots are collected that are all filled. -/
theorem Gather.collect_map_some (outcomes : List (Outcome α)) :
    collect (outcomes.map some) = valuesOf outcomes := by
  rw [collect, List.filterMap_map]
  exact congrArg valuesOf List.filterMap_some

namespace Deposit

/-- The slots that a deposit takes, if it sees itself as the last one. -/
def taken? (deposit : Deposit α) : Option (List (Option (Outcome α))) :=
  (deposit.before.deposit deposit.index deposit.outcome).2

/-- A deposit sees itself as the last one if it is the last to be counted down. -/
theorem taken?_eq (deposit : Deposit α) :
    deposit.taken? = if deposit.before.remaining = 1
      then some (deposit.before.slots.set deposit.index (some deposit.outcome)) else none := by
  unfold taken? Gather.deposit
  split <;> rfl

end Deposit

/-- The slots of whoever is about to settle the promise. -/
@[simp] def Chore.payment? : Chore α → Option (List (Option (Outcome α)))
  | .registering _ => none
  | .deposit _ _ => none
  | .payment slots => some slots

namespace Collection

variable {collection : Collection α} {tally after : Tally α}

/-- The positions of the inputs whose deposits a thread is about to register, or to make. -/
def owed (collection : Collection α) : Chore α → List Nat
  | .registering first => List.range' first (collection.inputs.length - first)
  | .deposit index _ => [index]
  | .payment _ => []

/-- What is left to whoever registers the inputs from a position on. -/
def registeringFrom (collection : Collection α) (first : Nat) : List (Chore α) :=
  if first < collection.inputs.length then [.registering first] else []

/-- Whether an input is a promise, by the position of the input. -/
def isInput (collection : Collection α) (promise index : Nat) : Bool :=
  collection.inputs[index]? == some promise

/-- The outcome that some slots come to. -/
def outcomeOf (collection : Collection α) (slots : List (Option (Outcome α))) : Outcome α :=
  (Gather.collect slots).map collection.pack

/-- What the settling of a promise leads to: the deposits that wait for it come to some thread. -/
def settle (collection : Collection α) (tally : Tally α) (promise : Nat) (outcome : Outcome α)
    (rest : List (Chore α)) : Tally α :=
  { tally with
    chores := (tally.lodged.filter (collection.isInput promise)).map (.deposit · outcome) ++ rest
    lodged := tally.lodged.filter fun index => !collection.isInput promise index
    outcome? := Function.update tally.outcome? promise (some outcome) }

/-- One thing that can happen in a collection. -/
inductive Move (collection : Collection α) (tally : Tally α) : Tally α → Prop where
  /-- Somebody settles another promise than the aggregate. -/
  | settles {promise : Nat} (outcome : Outcome α) (other : promise ≠ collection.aggregate) :
      Move collection tally (collection.settle tally promise outcome tally.chores)
  /-- The next deposit waits for its promise. -/
  | lodges {first promise : Nat} {rest : List (Chore α)}
      (chore : tally.chores.Perm (.registering first :: rest))
      (input : collection.inputs[first]? = some promise)
      (waits : tally.outcome? promise = none) :
      Move collection tally
        { tally with
          chores := collection.registeringFrom (first + 1) ++ rest
          lodged := tally.lodged ++ [first] }
  /-- The promise of the next deposit has an outcome already. -/
  | finds {first : Nat} {rest : List (Chore α)} (outcome : Outcome α)
      (chore : tally.chores.Perm (.registering first :: rest))
      (inside : first < collection.inputs.length) :
      Move collection tally
        { tally with
          chores := (.deposit first outcome :: collection.registeringFrom (first + 1)) ++ rest }
  /-- A deposit is made, and whoever makes the last one has the promise to settle. -/
  | deposits {index : Nat} {outcome : Outcome α} {rest : List (Chore α)}
      (chore : tally.chores.Perm (.deposit index outcome :: rest)) :
      Move collection tally
        { tally with
          chores := ((tally.gather.deposit index outcome).2.map Chore.payment).toList ++ rest
          gather := (tally.gather.deposit index outcome).1
          deposits := tally.deposits ++ [⟨tally.gather, index, outcome⟩] }
  /-- The promise takes what the slots come to. -/
  | pays {slots : List (Option (Outcome α))} {rest : List (Chore α)}
      (chore : tally.chores.Perm (.payment slots :: rest)) :
      Move collection tally
        { collection.settle tally collection.aggregate (collection.outcomeOf slots) rest with
          payments := tally.payments ++ [⟨collection.outcomeOf slots, true⟩] }

/--
A deposit that comes at a position among all deposits.

It fills an empty slot among those of the inputs, and the count is that of the empty slots.
-/
structure Fits (collection : Collection α) (position : Nat) (deposit : Deposit α) : Prop where
  length : deposit.before.slots.length = collection.inputs.length
  empty : deposit.before.slots[deposit.index]? = some none
  counts : deposit.before.remaining = deposit.before.slots.countP Option.isNone
  left : deposit.before.remaining + position = collection.inputs.length

/--
The slots of a collection and its promise, by the positions of the deposits that were made.

With them come the slots of which somebody is about to settle the promise, and the attempts to
settle it so far.
-/
inductive Stage (collection : Collection α) (deposits : List (Deposit α)) :
    Gather α → List (List (Option (Outcome α))) → List (Payment α) → Option (Outcome α) →
    Prop where
  /-- Some slots are empty, and these are the ones that are counted. -/
  | filling {slots : List (Option (Outcome α))}
      (length : slots.length = collection.inputs.length)
      (empty : ∀ index, index < collection.inputs.length →
        index ∉ deposits.map Deposit.index → slots[index]? = some none)
      (left : slots.countP Option.isNone + deposits.length = collection.inputs.length)
      (fewer : deposits.length < collection.inputs.length) :
      Stage collection deposits ⟨slots, slots.countP Option.isNone⟩ [] [] none
  /-- The last deposit has taken the slots. -/
  | taken {deposit : Deposit α} {slots : List (Option (Outcome α))}
      (all : deposits.length = collection.inputs.length)
      (last : deposit ∈ deposits) (taken : deposit.taken? = some slots) :
      Stage collection deposits ⟨[], 0⟩ [slots] [] none
  /-- The promise has been settled with what the slots came to. -/
  | paid {deposit : Deposit α} {slots : List (Option (Outcome α))}
      (all : deposits.length = collection.inputs.length)
      (last : deposit ∈ deposits) (taken : deposit.taken? = some slots) :
      Stage collection deposits ⟨[], 0⟩ [] [⟨collection.outcomeOf slots, true⟩]
        (some (collection.outcomeOf slots))

/--
A collection in which nothing is lost and nothing comes twice.

The deposit of every input is still to be registered, or waits for its promise, or is due on some
thread, or was made.
-/
structure Kept (collection : Collection α) (tally : Tally α) : Prop where
  places : (tally.chores.flatMap collection.owed ++
    (tally.lodged ++ tally.deposits.map Deposit.index)).Perm (List.range collection.inputs.length)
  waits : ∀ index ∈ tally.lodged, ∀ promise, collection.inputs[index]? = some promise →
    tally.outcome? promise = none
  fits : ∀ position deposit, tally.deposits[position]? = some deposit →
    collection.Fits position deposit
  stage : collection.Stage tally.deposits tally.gather (tally.chores.filterMap Chore.payment?)
    tally.payments (tally.outcome? collection.aggregate)

/-- A deposit counts down what is left to count, and has a slot among those of the inputs. -/
theorem Fits.inside {position : Nat} {deposit : Deposit α}
    (fits : collection.Fits position deposit) :
    deposit.index < collection.inputs.length ∧ 0 < deposit.before.remaining := by
  obtain ⟨inside, _⟩ := List.getElem?_eq_some_iff.1 fits.empty
  refine ⟨fits.length ▸ inside, ?_⟩
  rw [fits.counts]
  exact List.countP_pos_iff.2 ⟨none, List.mem_of_getElem? fits.empty, rfl⟩

/-- A deposit sees itself as the last one if it is the last of the deposits for the inputs. -/
theorem Fits.isLast_iff {position : Nat} {deposit : Deposit α}
    (fits : collection.Fits position deposit) :
    deposit.taken?.isSome ↔ position + 1 = collection.inputs.length := by
  have left := fits.left
  rw [Deposit.taken?_eq]
  split <;> simp <;> omega

/-- One slot less is empty after a deposit than before. -/
theorem countP_after_deposit {slots : List (Option (Outcome α))} {index : Nat}
    (empty : slots[index]? = some none) (outcome : Outcome α) :
    (slots.set index (some outcome)).countP Option.isNone = slots.countP Option.isNone - 1 := by
  obtain ⟨inside, isNone⟩ := List.getElem?_eq_some_iff.1 empty
  rw [List.countP_set inside, isNone]
  simp

/-- The last deposit finds every slot filled, and takes an outcome for each input. -/
theorem Fits.filled {position : Nat} {deposit : Deposit α} {slots : List (Option (Outcome α))}
    (fits : collection.Fits position deposit) (taken : deposit.taken? = some slots) :
    ∃ outcomes : List (Outcome α), slots = outcomes.map some ∧
      outcomes.length = collection.inputs.length := by
  rw [Deposit.taken?_eq] at taken
  split at taken
  · -- The slots were taken because this deposit was the last one, so that none is empty.
    rename_i last
    cases taken
    have filled : (deposit.before.slots.set deposit.index (some deposit.outcome)).countP
        Option.isNone = 0 := by
      rw [countP_after_deposit fits.empty, ← fits.counts, last]
    obtain ⟨outcomes, all⟩ := World.eq_map_some_of_countP filled
    refine ⟨outcomes, all, ?_⟩
    rw [← fits.length, ← List.length_set (i := deposit.index) (a := some deposit.outcome), all,
      List.length_map]
  · cases taken

section Stage

variable {deposits : List (Deposit α)} {gather : Gather α}
  {slots : List (Option (Outcome α))} {due others : List (List (Option (Outcome α)))}
  {payments : List (Payment α)} {paid : Option (Outcome α)}

/-- What is left to count down is the number of empty slots, and that of deposits to be made. -/
theorem Stage.counts (stage : collection.Stage deposits gather due payments paid) :
    gather.remaining = gather.slots.countP Option.isNone ∧
      gather.remaining + deposits.length = collection.inputs.length := by
  cases stage with
  | filling _ _ left => exact ⟨rfl, left⟩
  | taken all => exact ⟨rfl, by rw [all, Nat.zero_add]⟩
  | paid all => exact ⟨rfl, by rw [all, Nat.zero_add]⟩

/-- The promise is settled at most once, and takes what it is settled with. -/
theorem Stage.once (stage : collection.Stage deposits gather due payments paid) :
    payments = [] ∧ paid = none ∨
      ∃ deposit ∈ deposits, ∃ slots, deposit.taken? = some slots ∧
        payments = [⟨collection.outcomeOf slots, true⟩] ∧
        paid = some (collection.outcomeOf slots) := by
  cases stage with
  | filling => exact .inl ⟨rfl, rfl⟩
  | taken => exact .inl ⟨rfl, rfl⟩
  | paid _ last taken => exact .inr ⟨_, last, _, taken, rfl, rfl⟩

/-- When all deposits are made and nobody has the promise to settle, it was settled. -/
theorem Stage.payments_ne_nil (stage : collection.Stage deposits gather [] payments paid)
    (all : deposits.length = collection.inputs.length) : payments ≠ [] := by
  cases stage with
  | filling _ _ _ fewer => exact absurd all (Nat.ne_of_lt fewer)
  | paid => exact List.cons_ne_nil _ _

/-- At most one thread is about to settle the promise, so that there is no order to it. -/
theorem Stage.perm (stage : collection.Stage deposits gather due payments paid)
    (same : due.Perm others) : collection.Stage deposits gather others payments paid := by
  cases stage with
  | filling length empty left fewer => exact List.nil_perm.1 same ▸ .filling length empty left fewer
  | taken all last taken => exact List.singleton_perm.1 same ▸ .taken all last taken
  | paid all last taken => exact List.nil_perm.1 same ▸ .paid all last taken

/-- The promise waits as long as somebody has it to settle. -/
theorem Stage.waits (stage : collection.Stage deposits gather (slots :: others) payments paid) :
    paid = none := by
  cases stage
  rfl

/-- Whoever has the promise to settle is the only one, and settles it. -/
theorem Stage.pays (stage : collection.Stage deposits gather (slots :: others) payments paid) :
    collection.Stage deposits gather others
      (payments ++ [⟨collection.outcomeOf slots, true⟩]) (some (collection.outcomeOf slots)) := by
  cases stage with
  | taken all last taken => exact .paid all last taken

/-- A deposit leaves some slots empty, or it is the last and takes all slots. -/
theorem Stage.deposit (stage : collection.Stage deposits gather due payments paid)
    {index : Nat} (inside : index < collection.inputs.length)
    (new : index ∉ deposits.map Deposit.index)
    (fewer : deposits.length < collection.inputs.length) (outcome : Outcome α) :
    collection.Fits deposits.length ⟨gather, index, outcome⟩ ∧
      collection.Stage (deposits ++ [⟨gather, index, outcome⟩]) (gather.deposit index outcome).1
        ((gather.deposit index outcome).2.toList ++ due) payments paid := by
  cases stage with
  | taken all =>
    -- While the slots are being filled there are fewer deposits than inputs.
    omega
  | paid all => omega
  | @filling slots length empty left =>
    have free := empty index inside new
    let deposit : Deposit α := ⟨⟨slots, slots.countP Option.isNone⟩, index, outcome⟩
    have fits : collection.Fits deposits.length deposit := ⟨length, free, rfl, left⟩
    have counts := countP_after_deposit free outcome
    have positive : 0 < slots.countP Option.isNone := fits.inside.2
    refine ⟨fits, ?_⟩
    -- The count is that of the empty slots, so that it says whether this was the last of them.
    by_cases last : slots.countP Option.isNone = 1
    · have taken : deposit.taken? = some (slots.set index (some outcome)) := by
        rw [Deposit.taken?_eq, if_pos last]
      have result : (⟨slots, slots.countP Option.isNone⟩ : Gather α).deposit index outcome =
          (⟨[], 0⟩, some (slots.set index (some outcome))) := if_pos last
      rw [result]
      -- The last one takes all the slots, and leaves them to be paid.
      refine .taken ?_ (List.mem_append_right _ (List.mem_singleton_self deposit)) taken
      rw [List.length_append, List.length_singleton]
      omega
    · have result : (⟨slots, slots.countP Option.isNone⟩ : Gather α).deposit index outcome =
          (⟨slots.set index (some outcome), slots.countP Option.isNone - 1⟩, none) :=
        if_neg last
      -- The slots stay, and there is one fewer to be filled.
      rw [result, ← counts]
      refine .filling (by rw [List.length_set, length]) (fun position bound missing => ?_) ?_ ?_
      · -- Another slot is empty if it was empty before.
        rw [List.map_append, List.mem_append, not_or] at missing
        rw [World.getElem?_set_eq_none_iff]
        exact ⟨fun same => missing.2 (by simp [same]), empty position bound missing.1⟩
      · rw [List.length_append, List.length_singleton, counts]
        omega
      · rw [List.length_append, List.length_singleton]
        omega

end Stage

/-- Whoever registers inputs owes the deposits of all that are left. -/
theorem owed_registeringFrom (collection : Collection α) (first : Nat) :
    (collection.registeringFrom first).flatMap collection.owed =
      List.range' first (collection.inputs.length - first) := by
  unfold registeringFrom
  split
  · exact List.flatMap_singleton ..
  · rename_i outside
    rw [Nat.sub_eq_zero_of_le (Nat.le_of_not_lt outside)]
    rfl

/-- Whoever registers inputs does not settle the aggregate. -/
theorem payment?_registeringFrom (collection : Collection α) (first : Nat) :
    (collection.registeringFrom first).filterMap Chore.payment? = [] := by
  unfold registeringFrom
  split <;> rfl

/-- The deposits that come to a thread are owed by it. -/
theorem owed_map_deposit (collection : Collection α) (indices : List Nat) (outcome : Outcome α) :
    (indices.map (Chore.deposit · outcome)).flatMap collection.owed = indices := by
  rw [List.flatMap_map]
  exact List.flatMap_singleton' indices

/-- Whoever goes on with other chores, which owe as much, loses no deposit. -/
theorem Kept.places_of_count (kept : collection.Kept tally)
    (same : ∀ index, (after.chores.flatMap collection.owed).count index +
        (after.lodged.count index + (after.deposits.map Deposit.index).count index) =
      (tally.chores.flatMap collection.owed).count index +
        (tally.lodged.count index + (tally.deposits.map Deposit.index).count index)) :
    (after.chores.flatMap collection.owed ++
      (after.lodged ++ after.deposits.map Deposit.index)).Perm
        (List.range collection.inputs.length) := by
  refine List.Perm.trans (List.perm_iff_count.2 fun index => ?_) kept.places
  simp only [List.count_append]
  exact same index

/-- Whoever does a chore owed its deposits. -/
theorem count_owed (collection : Collection α) {chore : Chore α} {rest : List (Chore α)}
    (there : tally.chores.Perm (chore :: rest)) (index : Nat) :
    (tally.chores.flatMap collection.owed).count index =
      (collection.owed chore).count index + (rest.flatMap collection.owed).count index := by
  rw [(there.flatMap_right collection.owed).count_eq, List.flatMap_cons, List.count_append]

/-- The deposits that waited for a promise come to whoever settles it. -/
theorem count_settle (collection : Collection α) (tally : Tally α) (promise : Nat)
    (outcome : Outcome α) (rest : List (Chore α)) (index : Nat) :
    ((collection.settle tally promise outcome rest).chores.flatMap collection.owed).count index +
        (collection.settle tally promise outcome rest).lodged.count index =
      (rest.flatMap collection.owed).count index + tally.lodged.count index := by
  have all := (List.filter_append_perm (collection.isInput promise) tally.lodged).count_eq index
  rw [List.count_append] at all
  dsimp only [settle]
  rw [List.flatMap_append, owed_map_deposit, List.count_append]
  omega

/-- What waits after a settling waits for another promise. -/
theorem Kept.waits_settle (kept : collection.Kept tally) (promise : Nat) (outcome : Outcome α)
    (rest : List (Chore α)) :
    ∀ index ∈ (collection.settle tally promise outcome rest).lodged, ∀ other,
      collection.inputs[index]? = some other →
      (collection.settle tally promise outcome rest).outcome? other = none := by
  intro index member other input
  obtain ⟨before, apart⟩ := List.mem_filter.1 member
  -- The settled promise has no deposits any more, so that this one is for another.
  have differs : other ≠ promise := by
    rintro rfl
    simp [isInput, input] at apart
  dsimp only [settle]
  rw [Function.update_of_ne differs]
  exact kept.waits index before other input

/-- Whoever does a chore may be the one who has the promise to settle. -/
theorem Kept.stage_of (kept : collection.Kept tally) {chore : Chore α} {rest : List (Chore α)}
    (there : tally.chores.Perm (chore :: rest)) :
    collection.Stage tally.deposits tally.gather
      (chore.payment?.toList ++ rest.filterMap Chore.payment?) tally.payments
      (tally.outcome? collection.aggregate) := by
  refine kept.stage.perm ((there.filterMap Chore.payment?).trans ?_)
  cases chore <;> exact .refl _

/-- A deposit that is due fills a slot of its own, whatever has been deposited before. -/
theorem Kept.deposit (kept : collection.Kept tally) {index : Nat} {outcome : Outcome α}
    {rest : List (Chore α)} (there : tally.chores.Perm (.deposit index outcome :: rest)) :
    collection.Fits tally.deposits.length ⟨tally.gather, index, outcome⟩ ∧
      collection.Stage (tally.deposits ++ [⟨tally.gather, index, outcome⟩])
        (tally.gather.deposit index outcome).1
        ((tally.gather.deposit index outcome).2.toList ++ rest.filterMap Chore.payment?)
        tally.payments (tally.outcome? collection.aggregate) := by
  have here := collection.count_owed there index
  -- Every position is owed once, wherever it stands in the tally.
  have one := kept.places.count_eq index
  simp only [List.count_append, here, owed, List.count_singleton_self] at one
  have most := List.nodup_iff_count_le_one.1
    (List.nodup_range (n := collection.inputs.length)) index
  refine (kept.stage_of there).deposit ?_ ?_ ?_ outcome
  · -- The deposit is that of an input.
    rw [← List.mem_range, ← List.count_pos_iff]
    omega
  · -- It was not made before, since it has one place only.
    rw [← List.count_eq_zero]
    omega
  · -- And so there are fewer deposits than inputs.
    have lengths := kept.places.length_eq
    have owes := (there.flatMap_right collection.owed).length_eq
    simp only [List.length_append, List.length_map, List.length_range, List.flatMap_cons, owed,
      List.length_singleton] at lengths owes
    omega

/-- Every move keeps a collection. -/
theorem Kept.move (kept : collection.Kept tally) (move : collection.Move tally after) :
    collection.Kept after := by
  -- The next deposit is one of those that are still to be registered.
  have next {first : Nat} (inside : first < collection.inputs.length) (index : Nat) :
      (collection.owed (.registering first)).count index =
        [first].count index +
          ((collection.registeringFrom (first + 1)).flatMap collection.owed).count index := by
    rw [owed_registeringFrom, owed, ← List.count_append, List.singleton_append, ← List.range'_succ]
    congr 2
    omega
  cases move with
  | @settles promise outcome other =>
    -- The deposits that waited for the promise are due instead, and nobody pays the aggregate.
    refine ⟨kept.places_of_count fun index => ?_, kept.waits_settle promise outcome _, kept.fits,
      ?_⟩
    · have moved := collection.count_settle tally promise outcome tally.chores index
      dsimp only [settle] at moved ⊢
      omega
    · have stage := kept.stage
      simpa [settle, Function.comp_def, Function.update_of_ne (Ne.symm other)] using stage
  | @lodges first promise rest chore input waits =>
    -- The position moves from those that are to be registered to those that are stored.
    obtain ⟨inside, _⟩ := List.getElem?_eq_some_iff.1 input
    refine ⟨kept.places_of_count fun index => ?_, fun index member other known => ?_, kept.fits,
      ?_⟩
    · simp only [List.flatMap_append, List.count_append, collection.count_owed chore,
        next inside]
      omega
    · rcases List.mem_append.1 member with before | new
      · exact kept.waits index before other known
      · cases List.mem_singleton.1 new
        cases input.symm.trans known
        exact waits
    · have stage := kept.stage_of chore
      simpa [payment?_registeringFrom] using stage
  | @finds first rest outcome chore inside =>
    -- It is due at once, as its input has an outcome.
    refine ⟨kept.places_of_count fun index => ?_, kept.waits, kept.fits, ?_⟩
    · have owes := next inside index
      simp only [List.flatMap_append, List.flatMap_cons, List.count_append,
        collection.count_owed chore]
      dsimp only [owed] at owes ⊢
      omega
    · have stage := kept.stage_of chore
      simpa [List.filterMap_cons, payment?_registeringFrom] using stage
  | @deposits index outcome rest chore =>
    obtain ⟨fits, stage⟩ := kept.deposit chore
    refine ⟨kept.places_of_count fun position => ?_, kept.waits, fun position deposit there => ?_,
      ?_⟩
    · -- Whoever goes on owes nothing but to settle the aggregate.
      have unowed : ((tally.gather.deposit index outcome).2.map Chore.payment).toList.flatMap
          collection.owed = [] := by
        cases (tally.gather.deposit index outcome).2 <;> rfl
      simp only [List.flatMap_append, unowed, List.nil_append, List.map_append, List.count_append,
        List.map_cons, List.map_nil, collection.count_owed chore,
        owed]
      omega
    · rcases Nat.lt_trichotomy position tally.deposits.length with before | rfl | behind
      · rw [List.getElem?_append_left before] at there
        exact kept.fits position deposit there
      · rw [List.getElem?_concat_length] at there
        cases there
        exact fits
      · rw [List.getElem?_eq_none (by simp; omega)] at there
        cases there
    · -- Only the last deposit leaves somebody with the promise to settle.
      rw [List.filterMap_append]
      cases taken : (tally.gather.deposit index outcome).2 <;> simpa [taken] using stage
  | @pays slots rest chore =>
    -- The payment is made, and was owed by one chore only.
    refine ⟨kept.places_of_count fun index => ?_,
      kept.waits_settle collection.aggregate (collection.outcomeOf slots) rest, kept.fits, ?_⟩
    · have moved := collection.count_settle tally collection.aggregate
        (collection.outcomeOf slots) rest index
      have owes := collection.count_owed chore index
      simp only [owed, List.count_nil] at owes
      dsimp only [settle] at moved ⊢
      omega
    · simpa [settle, Function.comp_def] using (kept.stage_of chore).pays

/-- Moves keep a collection. -/
theorem Kept.moves (kept : collection.Kept tally)
    (course : Relation.ReflTransGen collection.Move tally after) : collection.Kept after := by
  induction course with
  | refl => exact kept
  | tail _ move ih => exact ih.move move

/-- Only the last of all deposits takes the slots. -/
theorem Kept.getLast? (kept : collection.Kept tally) {deposit : Deposit α}
    (member : deposit ∈ tally.deposits) (taken : deposit.taken?.isSome) :
    tally.deposits.getLast? = some deposit := by
  obtain ⟨position, there⟩ := List.getElem?_of_mem member
  obtain ⟨inside, _⟩ := List.getElem?_eq_some_iff.1 there
  have last := (kept.fits position deposit there).isLast_iff.1 taken
  have most := kept.stage.counts.2
  rw [List.getLast?_eq_getElem?, ← there]
  congr 1
  omega

/-- Of all deposits exactly one is the last, and of fewer deposits none is. -/
theorem Kept.countP_taken (kept : collection.Kept tally) (nonempty : collection.inputs ≠ []) :
    tally.deposits.countP (·.taken?.isSome) =
      if tally.deposits.length = collection.inputs.length then 1 else 0 := by
  have fits := kept.fits
  have most := kept.stage.counts.2
  have positive := List.length_pos_iff.2 nonempty
  generalize tally.deposits = deposits at fits most ⊢
  -- Only the last of the deposits can have taken the slots.
  rcases List.eq_nil_or_concat' deposits with rfl | ⟨earlier, last, rfl⟩
  · rw [if_neg (by simp; omega)]
    rfl
  · -- No deposit that comes before another one is the last of all.
    rw [List.length_append, List.length_singleton] at most
    have untaken : earlier.countP (·.taken?.isSome) = 0 := by
      refine List.countP_eq_zero.2 fun deposit member taken => ?_
      obtain ⟨position, there⟩ := List.getElem?_of_mem member
      obtain ⟨inside, _⟩ := List.getElem?_eq_some_iff.1 there
      have all := (fits position deposit (by
        rw [List.getElem?_append_left inside, there])).isLast_iff.1 taken
      omega
    have isLast := (fits earlier.length last List.getElem?_concat_length).isLast_iff
    rw [List.countP_append, untaken, List.length_append, List.length_singleton,
      List.countP_singleton,
      Nat.zero_add]
    simp only [isLast]

/-- No input has two deposits. -/
theorem Kept.nodup (kept : collection.Kept tally) :
    (tally.deposits.map Deposit.index).Nodup := by
  have all : (tally.chores.flatMap collection.owed ++
      (tally.lodged ++ tally.deposits.map Deposit.index)).Nodup :=
    kept.places.nodup_iff.2 List.nodup_range
  exact (List.nodup_append.1 (List.nodup_append.1 all).2.1).2.1

/-- When no input waits and nobody has anything to do, all deposits are made, and it is settled. -/
theorem Kept.finished (kept : collection.Kept tally) (idle : tally.chores = [])
    (settled : ∀ promise ∈ collection.inputs, tally.outcome? promise ≠ none) :
    tally.deposits.length = collection.inputs.length ∧ tally.payments ≠ [] := by
  -- A deposit that waits, waits for an input without an outcome.
  have unlodged : tally.lodged = [] := by
    refine List.eq_nil_iff_forall_not_mem.2 fun index member => ?_
    have place : index ∈ List.range collection.inputs.length :=
      kept.places.subset (List.mem_append_right _ (List.mem_append_left _ member))
    have inside := List.mem_range.1 place
    exact settled _ (List.getElem_mem inside)
      (kept.waits index member _ (List.getElem?_eq_getElem inside))
  -- So every position is one of a deposit.
  have all : tally.deposits.length = collection.inputs.length := by
    simpa [idle, unlodged] using kept.places.length_eq
  have stage := kept.stage
  rw [idle, List.filterMap_nil] at stage
  exact ⟨all, stage.payments_ne_nil all⟩

/-- How a collection stands when the first input is about to be registered. -/
def opening (collection : Collection α) (outcome? : Nat → Option (Outcome α)) : Tally α where
  chores := collection.registeringFrom 0
  lodged := []
  outcome? := outcome?
  gather := .ofSize collection.inputs.length
  deposits := []
  payments := []

/-- A collection of some inputs is kept before any deposit is registered. -/
theorem kept_opening {outcome? : Nat → Option (Outcome α)} (nonempty : collection.inputs ≠ [])
    (waits : outcome? collection.aggregate = none) :
    collection.Kept (collection.opening outcome?) where
  places := by
    -- In the beginning every position is still to be registered.
    simp [opening, owed_registeringFrom, List.range_eq_range']
  waits _ member := nomatch member
  fits _ _ there := nomatch there
  stage := by
    have empty : (Gather.ofSize collection.inputs.length : Gather α) =
        ⟨List.replicate collection.inputs.length none,
          (List.replicate collection.inputs.length
            (none : Option (Outcome α))).countP Option.isNone⟩ := by
      simp [Gather.ofSize, List.countP_replicate]
    -- All slots are empty, so that the count is that of the inputs.
    simp only [opening, payment?_registeringFrom, waits, empty]
    refine .filling List.length_replicate (fun index inside _ => ?_) ?_ ?_
    · simp [inside]
    · simp [List.countP_replicate]
    · exact List.length_pos_iff.2 nonempty

end Collection

end HttpEngine
