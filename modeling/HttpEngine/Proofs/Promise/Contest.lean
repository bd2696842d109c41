import HttpEngine.Promise.Cell
import Mathlib.Data.List.Basic
import Mathlib.Logic.Function.Basic
import Mathlib.Logic.Relation

/-!
A race among promises, without the code that runs it. Every input has an entry, which waits until
the input has an outcome, and then comes to some thread. The first entry that is made there wins,
and its outcome is paid to the aggregate.
-/

namespace HttpEngine

variable {α : Type}

/-- A race among promises: the inputs by their positions, and the promise for the outcome. -/
structure Contest (α : Type) where
  inputs : List Nat
  pack : Nat → α → α
  aggregate : Nat

/-- What a thread is about to do for a race. -/
inductive Part (α : Type) where
  /-- Registering the entries of the inputs from a position on. -/
  | registering (first : Nat)
  /-- Making the entry of an input that has an outcome. -/
  | entry (index : Nat) (outcome : Outcome α)
  /-- Paying the outcome of the winner. -/
  | prize (index : Nat) (outcome : Outcome α)

/-- How a race stands. -/
structure Standing (α : Type) where
  /-- What each thread is about to do, in its order. -/
  parts : Nat → List (Part α)
  /-- The positions of the inputs whose entries wait for a promise, in their order. -/
  lodged : Nat → List Nat
  outcome? : Nat → Option (Outcome α)
  won : Bool

namespace Standing

variable {standing : Standing α} {thread : Nat} {part : Part α} {done fresh rest : List (Part α)}

/-- What is left after a thread has done something. -/
def goOn (standing : Standing α) (thread : Nat) (parts : List (Part α)) : Standing α :=
  { standing with parts := Function.update standing.parts thread parts }

/-- What the settling of a promise leads to: the entries that wait for it come to the thread. -/
def settle (standing : Standing α) (thread promise : Nat) (outcome : Outcome α)
    (rest : List (Part α)) : Standing α :=
  { standing.goOn thread ((standing.lodged promise).map (Part.entry · outcome) ++ rest) with
    lodged := Function.update standing.lodged promise []
    outcome? := Function.update standing.outcome? promise (some outcome) }

/-- Some thread is about to do something. -/
def Has (standing : Standing α) (part : Part α) : Prop :=
  ∃ thread, part ∈ standing.parts thread

/-- What a thread is about to do is new, or some thread was about to do it before. -/
theorem Has.of_goOn (top : standing.parts thread = done ++ rest)
    (has : (standing.goOn thread (fresh ++ rest)).Has part) : part ∈ fresh ∨ standing.Has part := by
  -- A part is on the stack that goes on, or on one that is as it was.
  obtain ⟨other, member⟩ := has
  by_cases same : other = thread
  · subst same
    simp only [goOn, Function.update_self, List.mem_append] at member
    exact member.imp_right fun member => ⟨other, top ▸ List.mem_append_right _ member⟩
  · simp only [goOn, Function.update_of_ne same] at member
    exact .inr ⟨other, member⟩

/-- What a thread was about to do is done, or some thread is still about to do it. -/
theorem Has.goOn (has : standing.Has part) (top : standing.parts thread = done ++ rest)
    (fresh : List (Part α)) : part ∈ done ∨ (standing.goOn thread (fresh ++ rest)).Has part := by
  obtain ⟨other, member⟩ := has
  by_cases same : other = thread
  · -- On the stack that goes on, the parts below those that are done are still there.
    subst same
    rw [top, List.mem_append] at member
    exact member.imp_right fun member =>
      ⟨other, by simp [Standing.goOn, List.mem_append_right fresh member]⟩
  · exact .inr ⟨other, by simpa [Standing.goOn, Function.update_of_ne same] using member⟩

/-- What a thread has done and what it is to do instead may not concern somebody. -/
theorem filterMap_goOn {β : Type} {f : Part α → Option β}
    (top : standing.parts thread = done ++ rest) (past : done.filterMap f = [])
    (fresh : List (Part α)) (other : Nat) :
    ((standing.goOn thread (fresh ++ rest)).parts other).filterMap f =
      (if other = thread then fresh.filterMap f else []) ++ (standing.parts other).filterMap f := by
  by_cases same : other = thread
  · subst same
    simp [goOn, top, past]
  · simp [goOn, same]

end Standing

namespace Contest

variable {contest : Contest α} {standing after : Standing α} {index : Nat} {outcome : Outcome α}

/-- The part of whoever registers the inputs from a position on, if there are any left. -/
def registeringFrom (contest : Contest α) (first : Nat) : List (Part α) :=
  if first < contest.inputs.length then [.registering first] else []

/-- The outcome of an input, by the position of the input. -/
def Tells (contest : Contest α) (standing : Standing α) (index : Nat) (outcome : Outcome α) :
    Prop :=
  ∃ promise, contest.inputs[index]? = some promise ∧ standing.outcome? promise = some outcome

/-- One thing that can happen in a race. -/
inductive Move (contest : Contest α) (standing : Standing α) : Standing α → Prop where
  /-- Somebody settles another promise than the aggregate. -/
  | settles (thread : Nat) {promise : Nat} (outcome : Outcome α)
      (waits : standing.outcome? promise = none) (other : promise ≠ contest.aggregate) :
      Move contest standing (standing.settle thread promise outcome (standing.parts thread))
  /-- The next entry waits for its promise. -/
  | lodges {thread index promise : Nat} {rest : List (Part α)}
      (top : standing.parts thread = [.registering index] ++ rest)
      (input : contest.inputs[index]? = some promise)
      (waits : standing.outcome? promise = none) :
      Move contest standing
        { standing.goOn thread (contest.registeringFrom (index + 1) ++ rest) with
          lodged := Function.update standing.lodged promise (standing.lodged promise ++ [index]) }
  /-- The promise of the next entry has an outcome already. -/
  | finds {thread index promise : Nat} {outcome : Outcome α} {rest : List (Part α)}
      (top : standing.parts thread = [.registering index] ++ rest)
      (input : contest.inputs[index]? = some promise)
      (settled : standing.outcome? promise = some outcome) :
      Move contest standing
        (standing.goOn thread
          ((.entry index outcome :: contest.registeringFrom (index + 1)) ++ rest))
  /-- The first entry is made. -/
  | wins {thread index : Nat} {outcome : Outcome α} {rest : List (Part α)}
      (top : standing.parts thread = [.entry index outcome] ++ rest)
      (first : standing.won = false) :
      Move contest standing
        { standing.goOn thread ([.prize index outcome] ++ rest) with won := true }
  /-- Another entry is made. -/
  | loses {thread index : Nat} {outcome : Outcome α} {rest : List (Part α)}
      (top : standing.parts thread = [.entry index outcome] ++ rest)
      (late : standing.won = true) :
      Move contest standing (standing.goOn thread ([] ++ rest))
  /-- The winner is paid. -/
  | pays {thread index : Nat} {outcome : Outcome α} {rest : List (Part α)}
      (top : standing.parts thread = [.prize index outcome] ++ rest)
      (waits : standing.outcome? contest.aggregate = none) :
      Move contest standing
        (standing.settle thread contest.aggregate (outcome.map (contest.pack index)) rest)
  /-- The aggregate does not take another outcome. -/
  | refuses {thread index : Nat} {outcome paid : Outcome α} {rest : List (Part α)}
      (top : standing.parts thread = [.prize index outcome] ++ rest)
      (settled : standing.outcome? contest.aggregate = some paid) :
      Move contest standing (standing.goOn thread ([] ++ rest))

/-- An outcome that is there does not change. -/
theorem Move.outcome? (move : contest.Move standing after) {promise : Nat} {outcome : Outcome α}
    (settled : standing.outcome? promise = some outcome) :
    after.outcome? promise = some outcome := by
  -- Only a promise that waits takes an outcome.
  have keeps {thread place : Nat} {told : Outcome α} {rest : List (Part α)}
      (waits : standing.outcome? place = none) :
      (standing.settle thread place told rest).outcome? promise = some outcome := by
    have other : promise ≠ place := fun same => by
      rw [same, waits] at settled
      cases settled
    simpa [Standing.settle, Function.update_of_ne other] using settled
  -- Two moves give a promise an outcome, and the others leave the outcomes alone.
  cases move with
  | settles _ _ waits => exact keeps waits
  | pays _ waits => exact keeps waits
  | lodges | finds | wins | loses | refuses => exact settled

/-- What is told of an input is told of it ever after. -/
theorem Tells.move (tells : contest.Tells standing index outcome)
    (move : contest.Move standing after) : contest.Tells after index outcome :=
  let ⟨promise, input, settled⟩ := tells
  ⟨promise, input, move.outcome? settled⟩

/-- Whoever registers inputs is about to do nothing else. -/
theorem mem_registeringFrom {part : Part α} {first : Nat} :
    part ∈ contest.registeringFrom first ↔
      part = .registering first ∧ first < contest.inputs.length := by
  unfold registeringFrom
  split <;> simp [*]

/-- An entry comes to a thread from the promise that it waited for, or that had its outcome. -/
theorem Move.has_entry (move : contest.Move standing after)
    (has : after.Has (.entry index outcome)) :
    standing.Has (.entry index outcome) ∨ ∃ promise, after.outcome? promise = some outcome ∧
      (index ∈ standing.lodged promise ∨ contest.inputs[index]? = some promise) := by
  -- What comes when a promise is settled has waited for it.
  have lodged {thread promise : Nat} {told : Outcome α} {done rest : List (Part α)}
      (top : standing.parts thread = done ++ rest)
      (has : (standing.settle thread promise told rest).Has (.entry index outcome)) :
      standing.Has (.entry index outcome) ∨ ∃ place,
        (standing.settle thread promise told rest).outcome? place = some outcome ∧
        (index ∈ standing.lodged place ∨ contest.inputs[index]? = some place) := by
    refine (Standing.Has.of_goOn top has).symm.imp_right fun fresh => ?_
    obtain ⟨_, member, equal⟩ := List.mem_map.1 fresh
    cases equal
    exact ⟨promise, by simp [Standing.settle], .inl member⟩
  cases move with
  | settles => exact lodged (List.nil_append _).symm has
  | pays top => exact lodged top has
  | lodges top =>
    exact .inl ((Standing.Has.of_goOn top has).resolve_left (by simp [mem_registeringFrom]))
  | @finds _ _ promise _ _ top input settled =>
    -- An entry with an outcome that was found is that of an input which has this outcome.
    refine (Standing.Has.of_goOn top has).symm.imp_right fun fresh => ?_
    rcases List.mem_cons.1 fresh with same | more
    · cases same
      exact ⟨promise, settled, .inr input⟩
    · simp [mem_registeringFrom] at more
  | wins top => exact .inl ((Standing.Has.of_goOn top has).resolve_left (by simp))
  | loses top => exact .inl ((Standing.Has.of_goOn top has).resolve_left (by simp))
  | refuses top => exact .inl ((Standing.Has.of_goOn top has).resolve_left (by simp))

/-- Only the first entry leads to a prize. -/
theorem Move.has_prize (move : contest.Move standing after)
    (has : after.Has (.prize index outcome)) :
    standing.Has (.prize index outcome) ∨
      standing.won = false ∧ after.won = true ∧ standing.Has (.entry index outcome) := by
  -- Only the entry that wins brings a prize.
  cases move with
  | settles =>
    exact .inl ((Standing.Has.of_goOn (List.nil_append _).symm has).resolve_left (by simp))
  | lodges top =>
    exact .inl ((Standing.Has.of_goOn top has).resolve_left (by simp [mem_registeringFrom]))
  | finds top =>
    exact .inl ((Standing.Has.of_goOn top has).resolve_left (by simp [mem_registeringFrom]))
  | @wins thread _ _ _ top first =>
    refine (Standing.Has.of_goOn top has).symm.imp_right fun fresh => ?_
    cases List.mem_singleton.1 fresh
    exact ⟨first, rfl, thread, by simp [top]⟩
  | loses top => exact .inl ((Standing.Has.of_goOn top has).resolve_left (by simp))
  | pays top => exact .inl ((Standing.Has.of_goOn top has).resolve_left (by simp))
  | refuses top => exact .inl ((Standing.Has.of_goOn top has).resolve_left (by simp))

/-- The aggregate is paid one of the prizes, or goes on waiting, and no prize is lost. -/
theorem Move.unpaid (move : contest.Move standing after)
    (waits : standing.outcome? contest.aggregate = none) :
    (∃ index outcome, standing.Has (.prize index outcome) ∧
      after.outcome? contest.aggregate = some (outcome.map (contest.pack index))) ∨
    after.outcome? contest.aggregate = none ∧
      ∀ index outcome, standing.Has (.prize index outcome) → after.Has (.prize index outcome) := by
  cases move with
  | settles thread _ _ other =>
    -- Whoever settles another promise leaves the aggregate alone.
    refine .inr ⟨?_, fun index outcome has => ?_⟩
    · simpa [Standing.settle, Function.update_of_ne (Ne.symm other)] using waits
    · exact (has.goOn (List.nil_append (standing.parts thread)).symm _).resolve_left (by simp)
  | lodges top => exact .inr ⟨waits, fun _ _ has => (has.goOn top _).resolve_left (by simp)⟩
  | finds top => exact .inr ⟨waits, fun _ _ has => (has.goOn top _).resolve_left (by simp)⟩
  | wins top => exact .inr ⟨waits, fun _ _ has => (has.goOn top _).resolve_left (by simp)⟩
  | loses top => exact .inr ⟨waits, fun _ _ has => (has.goOn top _).resolve_left (by simp)⟩
  | @pays thread index outcome _ top =>
    -- This is the move that pays.
    exact .inl ⟨index, outcome, ⟨thread, by simp [top]⟩, by simp [Standing.settle]⟩
  | refuses top settled =>
    -- There is nothing to refuse while the aggregate waits.
    rw [waits] at settled
    cases settled

/-- A race that is won is not lost again. -/
theorem Move.won (move : contest.Move standing after) (won : standing.won = true) :
    after.won = true := by
  cases move with
  | wins => rfl
  | settles | lodges | finds | loses | pays | refuses => exact won

/-- Entries wait for their promises as long as these have no outcomes, and tell them then. -/
structure Fair (contest : Contest α) (standing : Standing α) : Prop where
  lodged : ∀ promise, ∀ index ∈ standing.lodged promise,
    contest.inputs[index]? = some promise ∧ standing.outcome? promise = none
  entries : ∀ index outcome, standing.Has (.entry index outcome) →
    contest.Tells standing index outcome

/-- Every move is fair. -/
theorem Fair.move (fair : contest.Fair standing) (move : contest.Move standing after) :
    contest.Fair after where
  lodged := by
    -- A promise that is settled gives up all its entries.
    have settles {thread promise : Nat} {told : Outcome α} {rest : List (Part α)} (other : Nat) :
        ∀ index ∈ (standing.settle thread promise told rest).lodged other,
          contest.inputs[index]? = some other ∧
            (standing.settle thread promise told rest).outcome? other = none := by
      intro index member
      by_cases same : other = promise
      · subst same
        simp [Standing.settle] at member
      · simp only [Standing.settle, Function.update_of_ne same] at member ⊢
        exact fair.lodged other index member
    cases move with
    | settles => exact settles
    | pays => exact settles
    | @lodges _ index promise _ _ input waits =>
      -- The entry is stored with the input that it is for, which waits.
      intro other position member
      by_cases same : other = promise
      · subst same
        simp only [Function.update_self, List.mem_append, List.mem_singleton] at member
        rcases member with before | rfl
        · exact fair.lodged other position before
        · exact ⟨input, waits⟩
      · simp only [Function.update_of_ne same] at member
        exact fair.lodged other position member
    | finds | wins | loses | refuses => exact fair.lodged
  entries index outcome has := by
    -- An entry that is about to be made was so before, or comes from a promise with an outcome.
    rcases move.has_entry has with before | ⟨promise, told, waited | input⟩
    · exact (fair.entries index outcome before).move move
    · exact ⟨promise, (fair.lodged promise index waited).1, told⟩
    · exact ⟨promise, input, told⟩

/-- A race that the input at a position has won, with its outcome. -/
structure Won (contest : Contest α) (standing : Standing α) (index : Nat) (outcome : Outcome α) :
    Prop where
  won : standing.won = true
  tells : contest.Tells standing index outcome
  prizes : ∀ other told, standing.Has (.prize other told) → other = index ∧ told = outcome
  /-- The winner is still to be paid, or has been paid. -/
  paid : standing.outcome? contest.aggregate = none ∧ standing.Has (.prize index outcome) ∨
    standing.outcome? contest.aggregate = some (outcome.map (contest.pack index))

/-- Whoever has won a race has won it for good. -/
theorem Won.move (winner : contest.Won standing index outcome)
    (move : contest.Move standing after) : contest.Won after index outcome where
  won := move.won winner.won
  tells := winner.tells.move move
  prizes other told has := by
    -- A second prize would need a race that nobody had won.
    rcases move.has_prize has with before | ⟨first, _⟩
    · exact winner.prizes other told before
    · rw [winner.won] at first
      cases first
  paid := by
    rcases winner.paid with ⟨waits, has⟩ | paid
    · rcases move.unpaid waits with ⟨other, told, before, paid⟩ | ⟨waits, stays⟩
      · -- Only the winner is paid.
        obtain ⟨rfl, rfl⟩ := winner.prizes other told before
        exact .inr paid
      · exact .inl ⟨waits, stays index outcome has⟩
    · exact .inr (move.outcome? paid)

/-- The entry of an input waits, is about to be made, or is still to be registered. -/
def Entered (standing : Standing α) (index : Nat) : Prop :=
  (∃ promise, index ∈ standing.lodged promise) ∨ (∃ outcome, standing.Has (.entry index outcome)) ∨
    ∃ first ≤ index, standing.Has (.registering first)

/-- A race that nobody has won. No entry is lost, and the aggregate waits. -/
structure Open (contest : Contest α) (standing : Standing α) : Prop where
  won : standing.won = false
  waits : standing.outcome? contest.aggregate = none
  unpaid : ∀ index outcome, ¬standing.Has (.prize index outcome)
  entered : ∀ index < contest.inputs.length, Entered standing index

/-- As long as nobody has won, no entry is lost. -/
theorem Entered.move (entered : Entered standing index) (inside : index < contest.inputs.length)
    (move : contest.Move standing after) (open_ : after.won = false) : Entered after index := by
  -- Entries that wait for a promise come to the thread that settles it.
  have settles {thread promise : Nat} {told : Outcome α} {done rest : List (Part α)}
      (top : standing.parts thread = done ++ rest)
      (others : ∀ part ∈ done, ∃ position outcome, part = .prize position outcome) :
      Entered (standing.settle thread promise told rest) index := by
    have stays {part : Part α} (has : standing.Has part)
        (other : ∀ position outcome, part ≠ .prize position outcome) :
        (standing.settle thread promise told rest).Has part :=
      (has.goOn top _).resolve_left fun member =>
        let ⟨position, outcome, same⟩ := others part member
        other position outcome same
    rcases entered with ⟨place, member⟩ | ⟨outcome, has⟩ | ⟨first, below, has⟩
    · by_cases same : place = promise
      · subst same
        exact .inr (.inl ⟨told, thread, by simp [Standing.settle, Standing.goOn, member]⟩)
      · exact .inl ⟨place, by simpa [Standing.settle, Function.update_of_ne same] using member⟩
    · exact .inr (.inl ⟨outcome, stays has (by simp)⟩)
    · exact .inr (.inr ⟨first, below, stays has (by simp)⟩)
  cases move with
  | settles thread => exact settles (List.nil_append _).symm (by simp)
  | pays top => exact settles top (by simp)
  | @lodges thread position promise rest top =>
    -- The registration moves on by one, so that its own entry is stored now.
    rcases entered with ⟨place, member⟩ | ⟨outcome, has⟩ | ⟨first, below, has⟩
    · refine .inl ⟨place, ?_⟩
      by_cases same : place = promise
      · subst same
        simp [member]
      · simpa [Function.update_of_ne same] using member
    · exact .inr (.inl ⟨outcome, (has.goOn top _).resolve_left (by simp)⟩)
    · rcases has.goOn top (contest.registeringFrom (position + 1)) with here | still
      · cases List.mem_singleton.1 here
        rcases Nat.eq_or_lt_of_le below with rfl | later
        · exact .inl ⟨promise, by simp⟩
        · refine .inr (.inr ⟨position + 1, later, thread, ?_⟩)
          simp [Standing.goOn, mem_registeringFrom, Nat.lt_of_le_of_lt later inside]
      · exact .inr (.inr ⟨first, below, still⟩)
  | @finds thread position promise told rest top =>
    -- Here its own entry is about to be made.
    rcases entered with lodged | ⟨outcome, has⟩ | ⟨first, below, has⟩
    · exact .inl lodged
    · exact .inr (.inl ⟨outcome, (has.goOn top _).resolve_left (by simp)⟩)
    · rcases has.goOn top (.entry position told :: contest.registeringFrom (position + 1)) with
        here | still
      · cases List.mem_singleton.1 here
        rcases Nat.eq_or_lt_of_le below with rfl | later
        · exact .inr (.inl ⟨told, thread, by simp [Standing.goOn]⟩)
        · refine .inr (.inr ⟨position + 1, later, thread, ?_⟩)
          simp [Standing.goOn, mem_registeringFrom, Nat.lt_of_le_of_lt later inside]
      · exact .inr (.inr ⟨first, below, still⟩)
  | wins =>
    -- A race that is won is not open any more.
    cases open_
  | loses _ late => cases late.symm.trans open_
  | refuses top =>
    refine entered.imp_right fun on => on.imp (fun ⟨outcome, has⟩ => ⟨outcome, ?_⟩)
      fun ⟨first, below, has⟩ => ⟨first, below, ?_⟩
    · exact (has.goOn top _).resolve_left (by simp)
    · exact (has.goOn top _).resolve_left (by simp)

/-- An open race goes on, or somebody wins it, by making the entry of an input. -/
theorem Open.move (open_ : contest.Open standing) (fair : contest.Fair standing)
    (move : contest.Move standing after) :
    contest.Open after ∨ ∃ index outcome, contest.Won after index outcome ∧
      ∃ thread rest, standing.parts thread = [.entry index outcome] ++ rest := by
  obtain ⟨waits, _⟩ := (move.unpaid open_.waits).resolve_left fun ⟨index, outcome, has, _⟩ =>
    open_.unpaid index outcome has
  -- While nobody has won, every input is still stored, about to be entered or not yet registered.
  cases still : after.won with
  | false =>
    refine .inl ⟨still, waits, fun index outcome has => ?_, fun index inside => ?_⟩
    · rcases move.has_prize has with before | ⟨_, won, _⟩
      · exact open_.unpaid index outcome before
      · cases won.symm.trans still
    · exact (open_.entered index inside).move inside move still
  | true =>
    -- Only the entry that is made first changes who has won.
    have tells (index : Nat) (outcome : Outcome α) (has : standing.Has (.entry index outcome)) :
        contest.Tells after index outcome := (fair.entries index outcome has).move move
    cases move with
    | @wins thread index outcome rest top first =>
      have has : standing.Has (.entry index outcome) := ⟨thread, by simp [top]⟩
      refine .inr ⟨index, outcome, ⟨rfl, tells index outcome has, fun other told prize => ?_, ?_⟩,
        thread, rest, top⟩
      · rcases Standing.Has.of_goOn top prize with fresh | before
        · cases List.mem_singleton.1 fresh
          exact ⟨rfl, rfl⟩
        · exact absurd before (open_.unpaid other told)
      · exact .inl ⟨waits, thread, by simp [Standing.goOn]⟩
    | settles | lodges | finds | loses | pays | refuses =>
      cases open_.won.symm.trans still

/-- The positions of a promise among the inputs before some position, in their order. -/
def positionsOf (contest : Contest α) (promise first : Nat) : List Nat :=
  (List.range first).filter fun index => contest.inputs[index]? == some promise

/-- The position of an input that is to be registered. -/
def registration? : Part α → Option Nat
  | .registering first => some first
  | _ => none

/-- The position of an input that is a promise, if its entry is to be made. -/
def entryOf? (contest : Contest α) (promise : Nat) : Part α → Option Nat
  | .entry index _ => if contest.inputs[index]? = some promise then some index else none
  | _ => none

/--
The inputs are being registered, by one thread that has come to a position. Each promise that waits
has the entries of the inputs before that position.
-/
structure Filling (contest : Contest α) (standing : Standing α) (caller first : Nat) : Prop where
  inside : first ≤ contest.inputs.length
  registers : ∀ thread, (standing.parts thread).filterMap registration? =
    if thread = caller ∧ first < contest.inputs.length then [first] else []
  lodged : ∀ promise, standing.outcome? promise = none →
    standing.lodged promise = contest.positionsOf promise first

/-- Entries are not registered again when their promise is settled. -/
theorem registration_lodged (indices : List Nat) (told : Outcome α) :
    (indices.map (Part.entry · told)).filterMap registration? = [] := by
  simp [List.filterMap_map, Function.comp_def, registration?]

/-- Whoever is about to register an input is the caller, and has come to that input. -/
theorem Filling.of_top {caller first thread index : Nat} {rest : List (Part α)}
    (filling : contest.Filling standing caller first)
    (top : standing.parts thread = [.registering index] ++ rest) :
    thread = caller ∧ index = first ∧ first < contest.inputs.length ∧
      rest.filterMap registration? = [] := by
  have registers := filling.registers thread
  rw [top, List.filterMap_append] at registers
  split at registers
  · rename_i caller
    obtain ⟨same, others⟩ := List.cons.inj registers
    exact ⟨caller.1, same, caller.2, others⟩
  · cases registers

/-- What comes after an input is registered next. -/
theorem Filling.next {caller first thread index : Nat} {rest : List (Part α)}
    (filling : contest.Filling standing caller first)
    (top : standing.parts thread = [.registering index] ++ rest) (fresh : List (Part α))
    (unregistered : fresh.filterMap registration? = []) (other : Nat) :
    ((standing.goOn thread (fresh ++ contest.registeringFrom (index + 1) ++ rest)).parts
      other).filterMap registration? =
        if other = caller ∧ index + 1 < contest.inputs.length then [index + 1] else [] := by
  obtain ⟨rfl, rfl, _, behind⟩ := filling.of_top top
  by_cases same : other = thread
  · subst same
    simp only [Standing.goOn, Function.update_self, List.filterMap_append, unregistered, behind]
    unfold registeringFrom
    split <;> simp_all [registration?]
  · simpa [Standing.goOn, Function.update_of_ne same, same] using filling.registers other

/-- The positions before the next one are those before a position, and perhaps that one. -/
theorem positionsOf_succ (promise first : Nat) :
    contest.positionsOf promise (first + 1) = contest.positionsOf promise first ++
      if contest.inputs[first]? = some promise then [first] else [] := by
  unfold positionsOf
  rw [List.range_succ, List.filter_append]
  split <;> simp [*]

/-- The inputs have been registered as far as the caller has come. -/
theorem Filling.move {caller first : Nat} (filling : contest.Filling standing caller first)
    (move : contest.Move standing after) : ∃ first, contest.Filling after caller first := by
  -- A promise that is settled does not wait, and the others are not concerned.
  have settles {thread promise : Nat} {told : Outcome α} {done rest : List (Part α)}
      (top : standing.parts thread = done ++ rest) (past : done.filterMap registration? = []) :
      contest.Filling (standing.settle thread promise told rest) caller first := by
    refine ⟨filling.inside, fun other => ?_, fun other waits => ?_⟩
    · rw [Standing.settle, Standing.filterMap_goOn top past, registration_lodged, ite_self]
      exact filling.registers other
    · by_cases same : other = promise
      · subst same
        simp [Standing.settle] at waits
      · simp only [Standing.settle, Function.update_of_ne same] at waits ⊢
        exact filling.lodged other waits
  -- The moves of entries and prizes leave the registrations as they are.
  have others {thread : Nat} {done rest : List (Part α)}
      (top : standing.parts thread = done ++ rest) (past : done.filterMap registration? = [])
      (fresh : List (Part α)) (future : fresh.filterMap registration? = []) (other : Nat) :
      ((standing.goOn thread (fresh ++ rest)).parts other).filterMap registration? =
        if other = caller ∧ first < contest.inputs.length then [first] else [] := by
    rw [Standing.filterMap_goOn top past, future, ite_self, List.nil_append]
    exact filling.registers other
  cases move with
  | settles thread => exact ⟨first, settles (List.nil_append _).symm rfl⟩
  | pays top => exact ⟨first, settles top rfl⟩
  | @lodges thread index promise rest top input waits =>
    -- The next input is registered with, and its entry stands behind those of the same promise.
    obtain ⟨_, rfl, inside, _⟩ := filling.of_top top
    refine ⟨index + 1, inside, filling.next top [] rfl, fun other pending => ?_⟩
    rw [positionsOf_succ, ← filling.lodged other pending, input]
    by_cases same : other = promise
    · subst same
      simp
    · simp [Function.update_of_ne same, Ne.symm same]
  | @finds thread index promise told rest top input settled =>
    obtain ⟨_, rfl, inside, _⟩ := filling.of_top top
    refine ⟨index + 1, inside, filling.next top [.entry index told] rfl,
      fun other pending => ?_⟩
    -- The promise of this input does not wait.
    have differs : promise ≠ other := fun same => by
      rw [← same] at pending
      cases settled.symm.trans pending
    rw [positionsOf_succ, if_neg (by simpa [input] using differs), List.append_nil]
    exact filling.lodged other pending
  | wins top =>
    exact ⟨first, filling.inside, others top rfl [.prize _ _] rfl, filling.lodged⟩
  | loses top => exact ⟨first, filling.inside, others top rfl [] rfl, filling.lodged⟩
  | refuses top => exact ⟨first, filling.inside, others top rfl [] rfl, filling.lodged⟩

/--
All inputs have been registered. The entries of a promise stand in line until somebody has won:
they wait for it, or they are to be made in their order by one thread.
-/
structure Lined (contest : Contest α) (standing : Standing α) (promise : Nat) : Prop where
  registered : ∀ thread, (standing.parts thread).filterMap registration? = []
  line : standing.won = false → ∃ owner,
    (∀ other, other ≠ owner → (standing.parts other).filterMap (contest.entryOf? promise) = []) ∧
    (standing.parts owner).filterMap (contest.entryOf? promise) ++ standing.lodged promise =
      contest.positionsOf promise contest.inputs.length

/-- No entry of a promise that waits is to be made. -/
theorem Fair.entryOf_of_waits (fair : contest.Fair standing) {promise : Nat}
    (waits : standing.outcome? promise = none) (thread : Nat) :
    (standing.parts thread).filterMap (contest.entryOf? promise) = [] := by
  refine List.filterMap_eq_nil_iff.2 fun part member => ?_
  -- An entry for the promise would know its outcome already.
  cases part with
  | entry index outcome =>
    -- The promise of the input has an outcome, and is another one.
    obtain ⟨place, input, settled⟩ := fair.entries index outcome ⟨thread, member⟩
    have differs : place ≠ promise := fun same => by
      rw [same, waits] at settled
      cases settled
    simp [entryOf?, input, differs]
  | registering | prize => rfl

/-- Once all inputs are registered, the entries of a promise that waits are in line. -/
theorem Filling.lined {caller first promise : Nat} (filling : contest.Filling standing caller first)
    (fair : contest.Fair standing) (returned : standing.parts caller = [])
    (waits : standing.outcome? promise = none) : contest.Lined standing promise := by
  -- The caller has come to the end.
  have stop : ¬first < contest.inputs.length := fun inside => by
    have registers := filling.registers caller
    rw [returned, if_pos ⟨rfl, inside⟩] at registers
    cases registers
  have all : first = contest.inputs.length :=
    Nat.le_antisymm filling.inside (Nat.le_of_not_lt stop)
  refine ⟨fun thread => by rw [filling.registers, if_neg fun both => stop both.2], fun _ =>
    ⟨caller, fun other _ => fair.entryOf_of_waits waits other, ?_⟩⟩
  rw [returned, filling.lodged promise waits, all]
  rfl

/-- Entries that have been registered stay in line. -/
theorem Lined.move {promise : Nat} (lined : contest.Lined standing promise)
    (fair : contest.Fair standing) (move : contest.Move standing after) :
    contest.Lined after promise := by
  -- When a promise is settled, its entries come to the thread in the order in which they were
  -- stored.
  have settles {thread place : Nat} {told : Outcome α} {done rest : List (Part α)}
      (top : standing.parts thread = done ++ rest) (waits : standing.outcome? place = none)
      (past : done.filterMap registration? = [])
      (apart : done.filterMap (contest.entryOf? promise) = []) :
      contest.Lined (standing.settle thread place told rest) promise := by
    refine ⟨fun other => ?_, fun nobody => ?_⟩
    · -- What comes is an entry, so that nothing is registered.
      rw [Standing.settle, Standing.filterMap_goOn top past, registration_lodged, ite_self]
      exact lined.registered other
    · obtain ⟨owner, others, order⟩ := lined.line nobody
      have moved := Standing.filterMap_goOn top apart
        ((standing.lodged place).map (.entry · told))
      by_cases same : place = promise
      · -- The entries of the promise have all waited, and come to this thread.
        subst same
        have all : ((standing.lodged place).map (Part.entry · told)).filterMap
            (contest.entryOf? place) = standing.lodged place := by
          have each (index : Nat) (member : index ∈ standing.lodged place) :
              contest.entryOf? place (.entry index told) = some index :=
            if_pos (fair.lodged place index member).1
          exact List.filterMap_map.trans
            ((List.filterMap_congr each).trans List.filterMap_some)
        refine ⟨thread, fun other differs => ?_, ?_⟩
        · refine (moved other).trans ?_
          rw [if_neg differs, fair.entryOf_of_waits waits other]
          rfl
        · rw [fair.entryOf_of_waits waits owner, List.nil_append] at order
          rw [← order]
          simpa [Standing.settle, all, fair.entryOf_of_waits waits thread] using moved thread
      · -- The entries that come to this thread are those of another promise.
        have unentered : ((standing.lodged place).map (Part.entry · told)).filterMap
            (contest.entryOf? promise) = [] := by
          rw [List.filterMap_map]
          refine List.filterMap_eq_nil_iff.2 fun index member => ?_
          simp [entryOf?, (fair.lodged place index member).1, same]
        have still (other : Nat) :
            ((standing.settle thread place told rest).parts other).filterMap
              (contest.entryOf? promise) =
            (standing.parts other).filterMap (contest.entryOf? promise) := by
          refine (moved other).trans ?_
          rw [unentered, ite_self, List.nil_append]
        refine ⟨owner, fun other differs => (still other).trans (others other differs), ?_⟩
        rw [still, ← order]
        simp [Standing.settle, Function.update_of_ne (Ne.symm same)]
  -- Nobody is about to register an input.
  have never {thread index : Nat} {rest : List (Part α)}
      (top : standing.parts thread = [.registering index] ++ rest) : False := by
    have registered := lined.registered thread
    rw [top] at registered
    cases registered
  have registered {thread : Nat} {done rest : List (Part α)}
      (top : standing.parts thread = done ++ rest) (past : done.filterMap registration? = [])
      (fresh : List (Part α)) (future : fresh.filterMap registration? = []) (other : Nat) :
      ((standing.goOn thread (fresh ++ rest)).parts other).filterMap registration? = [] := by
    rw [Standing.filterMap_goOn top past, future, ite_self, lined.registered other]
    rfl
  cases move with
  | settles thread _ waits => exact settles (List.nil_append _).symm waits rfl rfl
  | pays top waits => exact settles top waits rfl rfl
  | lodges top => exact (never top).elim
  | finds top => exact (never top).elim
  | wins top => exact ⟨registered top rfl [.prize _ _] rfl, nofun⟩
  | loses top late =>
    -- A race that was lost here was won before.
    refine ⟨registered top rfl [] rfl, fun nobody => ?_⟩
    cases late.symm.trans nobody
  | @refuses thread _ _ _ rest top =>
    -- The prize that is refused was no entry.
    refine ⟨registered top rfl [] rfl, fun nobody => ?_⟩
    obtain ⟨owner, others, order⟩ := lined.line nobody
    have still (other : Nat) :
        ((standing.goOn thread ([] ++ rest)).parts other).filterMap (contest.entryOf? promise) =
          (standing.parts other).filterMap (contest.entryOf? promise) := by
      rw [Standing.filterMap_goOn top rfl, List.filterMap_nil, ite_self, List.nil_append]
    refine ⟨owner, fun other differs => (still other).trans (others other differs), ?_⟩
    rw [still, ← order]
    rfl

/-- The first entry of a promise to be made is that of its first position. -/
theorem Lined.first {promise thread : Nat} {rest : List (Part α)}
    (lined : contest.Lined standing promise) (nobody : standing.won = false)
    (top : standing.parts thread = [.entry index outcome] ++ rest)
    (input : contest.inputs[index]? = some promise) :
    ∀ earlier < index, contest.inputs[earlier]? ≠ some promise := by
  intro earlier before also
  obtain ⟨owner, others, order⟩ := lined.line nobody
  have here : (standing.parts thread).filterMap (contest.entryOf? promise) =
      index :: rest.filterMap (contest.entryOf? promise) := by
    simp [top, entryOf?, input]
  have same : thread = owner := by
    by_contra differs
    cases here.symm.trans (others thread differs)
  subst same
  rw [here, List.cons_append] at order
  -- The positions are in their order, and the first one of them is the position of the entry.
  have sorted : (contest.positionsOf promise contest.inputs.length).Pairwise (· < ·) :=
    List.pairwise_lt_range.filter _
  obtain ⟨inside, _⟩ := List.getElem?_eq_some_iff.1 also
  have member : earlier ∈ contest.positionsOf promise contest.inputs.length :=
    List.mem_filter.2 ⟨List.mem_range.2 inside, beq_iff_eq.2 also⟩
  rw [← order] at sorted member
  rcases List.mem_cons.1 member with rfl | behind
  · exact Nat.lt_irrefl _ before
  · exact Nat.lt_asymm before (List.rel_of_pairwise_cons sorted behind)

section Moves

variable (course : Relation.ReflTransGen contest.Move standing after)

include course

/-- All moves of a race are fair. -/
theorem Fair.moves (fair : contest.Fair standing) : contest.Fair after := by
  induction course with
  | refl => exact fair
  | tail _ move ih => exact ih.move move

/-- Whoever has won a race has won it for good, whatever moves follow. -/
theorem Won.moves (winner : contest.Won standing index outcome) :
    contest.Won after index outcome := by
  induction course with
  | refl => exact winner
  | tail _ move ih => exact ih.move move

/-- The inputs have been registered as far as the caller has come, after any moves. -/
theorem Filling.moves {caller first : Nat} (filling : contest.Filling standing caller first) :
    ∃ first, contest.Filling after caller first := by
  induction course with
  | refl => exact ⟨first, filling⟩
  | tail _ move ih =>
    obtain ⟨first, filling⟩ := ih
    exact filling.move move

/--
A race stays open until somebody wins it, and then it stays won.

If the winner is one of the promises whose entries are in line, it has won at its first position.
-/
theorem Open.moves (open_ : contest.Open standing) (fair : contest.Fair standing)
    {held : Nat → Prop} (lined : ∀ promise, held promise → contest.Lined standing promise) :
    contest.Open after ∧ (∀ promise, held promise → contest.Lined after promise) ∨
      ∃ index outcome, contest.Won after index outcome ∧
        ∀ promise, held promise → contest.inputs[index]? = some promise →
          ∀ earlier < index, contest.inputs[earlier]? ≠ some promise := by
  induction course with
  | refl => exact .inl ⟨open_, lined⟩
  | tail before move ih =>
    have fair := fair.moves before
    rcases ih with ⟨open_, lined⟩ | ⟨index, outcome, winner, least⟩
    · rcases open_.move fair move with still | ⟨index, outcome, winner, thread, rest, top⟩
      · exact .inl ⟨still, fun promise holds => (lined promise holds).move fair move⟩
      · exact .inr ⟨index, outcome, winner, fun promise holds input =>
          (lined promise holds).first open_.won top input⟩
    · exact .inr ⟨index, outcome, winner.move move, least⟩

end Moves

/-- A race is open, or the input at some position has won it. -/
def Runs (contest : Contest α) (standing : Standing α) : Prop :=
  contest.Open standing ∨ ∃ index outcome, contest.Won standing index outcome

/-- The aggregate waits as long as all inputs do. -/
theorem Runs.waits (runs : contest.Runs standing)
    (pending : ∀ promise ∈ contest.inputs, standing.outcome? promise = none) :
    standing.outcome? contest.aggregate = none := by
  rcases runs with open_ | ⟨index, outcome, winner⟩
  · exact open_.waits
  · -- The winner does not wait.
    obtain ⟨promise, input, settled⟩ := winner.tells
    cases (pending promise (List.mem_of_getElem? input)).symm.trans settled

/-- The aggregate does not wait when some input does not and no thread has anything to do. -/
theorem Runs.settled (runs : contest.Runs standing) (fair : contest.Fair standing)
    (idle : ∀ thread, standing.parts thread = []) {promise : Nat}
    (member : promise ∈ contest.inputs) (settled : standing.outcome? promise ≠ none) :
    standing.outcome? contest.aggregate ≠ none := by
  have nothing {part : Part α} : ¬standing.Has part := fun ⟨thread, member⟩ => by
    rw [idle] at member
    cases member
  rcases runs with open_ | ⟨index, outcome, winner⟩
  · -- Nobody is about to make the entry of the input, so that it waits for the input.
    obtain ⟨index, inside, here⟩ := List.getElem_of_mem member
    rcases open_.entered index inside with ⟨place, lodged⟩ | ⟨_, has⟩ | ⟨_, _, has⟩
    · obtain ⟨input, waits⟩ := fair.lodged place index lodged
      rw [List.getElem?_eq_getElem inside, here] at input
      cases input
      exact absurd waits settled
    · exact absurd has nothing
    · exact absurd has nothing
  · rcases winner.paid with ⟨_, has⟩ | paid
    · exact absurd has nothing
    · simp [paid]

/-- Moves of a race leave it open, or somebody has won it. -/
theorem Runs.moves (runs : contest.Runs standing) (fair : contest.Fair standing)
    (course : Relation.ReflTransGen contest.Move standing after) : contest.Runs after := by
  rcases runs with open_ | ⟨index, outcome, winner⟩
  · exact (open_.moves course fair fun _ (never : False) => never.elim).imp And.left
      fun ⟨index, outcome, winner, _⟩ => ⟨index, outcome, winner⟩
  · exact .inr ⟨index, outcome, winner.moves course⟩

/--
The aggregate is paid the outcome of an input, with the position of the input.

If somebody has won at some time, the input had its outcome at that time. If the entries of the
promise are in line at that time, the position is the first one of the promise.
-/
theorem Runs.paid (runs : contest.Runs standing) (fair : contest.Fair standing)
    (course : Relation.ReflTransGen contest.Move standing after) {held : Nat → Prop}
    (lined : ∀ promise, held promise →
      standing.outcome? promise = none ∧ contest.Lined standing promise)
    (paid : after.outcome? contest.aggregate = some outcome) :
    ∃ index promise told, contest.inputs[index]? = some promise ∧
      after.outcome? promise = some told ∧ outcome = told.map (contest.pack index) ∧
      (standing.won = true → standing.outcome? promise = some told) ∧
      (held promise → ∀ earlier < index, contest.inputs[earlier]? ≠ some promise) := by
  -- Only the winner is paid.
  have equal {index : Nat} {told : Outcome α} (winner : contest.Won after index told) :
      outcome = told.map (contest.pack index) := by
    rcases winner.paid with ⟨waits, _⟩ | same
    · cases waits.symm.trans paid
    · exact Option.some.inj (paid.symm.trans same)
  rcases runs with open_ | ⟨index, told, winner⟩
  · rcases open_.moves course fair fun promise holds => (lined promise holds).2 with
      ⟨still, _⟩ | ⟨index, told, winner, least⟩
    · cases still.waits.symm.trans paid
    · obtain ⟨promise, input, settled⟩ := winner.tells
      exact ⟨index, promise, told, input, settled, equal winner,
        fun won => absurd won (by simp [open_.won]), fun holds => least promise holds input⟩
  · obtain ⟨promise, input, already⟩ := winner.tells
    have later := winner.moves course
    obtain ⟨place, same, settled⟩ := later.tells
    cases input.symm.trans same
    refine ⟨index, promise, told, input, settled, equal later, fun _ => already, fun holds => ?_⟩
    cases (lined promise holds).1.symm.trans already

/-- How a race stands when the first input is about to be registered. -/
def opening (contest : Contest α) (caller : Nat) (outcome? : Nat → Option (Outcome α)) :
    Standing α where
  parts thread := if thread = caller then contest.registeringFrom 0 else []
  lodged _ := []
  outcome? := outcome?
  won := false

section Opening

variable {caller : Nat} {outcome? : Nat → Option (Outcome α)}

/-- Nobody is about to do anything but to register the first input. -/
theorem has_opening {part : Part α} (has : (contest.opening caller outcome?).Has part) :
    part = .registering 0 := by
  obtain ⟨thread, member⟩ := has
  simp only [opening] at member
  split at member
  · exact (mem_registeringFrom.1 member).1
  · cases member

/-- A race is fair before any entry is registered. -/
theorem fair_opening : contest.Fair (contest.opening caller outcome?) where
  lodged _ _ member := nomatch member
  entries _ _ has := nomatch has_opening has

/-- A race is open before any entry is registered. -/
theorem open_opening (waits : outcome? contest.aggregate = none) :
    contest.Open (contest.opening caller outcome?) where
  won := rfl
  waits := waits
  unpaid _ _ has := nomatch has_opening has
  entered index inside := .inr <| .inr ⟨0, Nat.zero_le _, caller, by
    simp [opening, registeringFrom, Nat.zero_lt_of_lt inside]⟩

/-- The first input is the next one to be registered. -/
theorem filling_opening : contest.Filling (contest.opening caller outcome?) caller 0 where
  inside := Nat.zero_le _
  registers thread := by
    simp only [opening, registeringFrom]
    split <;> rename_i here <;> simp only [here, true_and, false_and, if_false]
    split <;> rfl
    rfl
  lodged _ _ := rfl

end Opening

end Contest

end HttpEngine
