import HttpEngine.Proofs.Promise.Outsider
import HttpEngine.Proofs.Promise.Tally
import Mathlib.Data.List.Perm.Basic

/-!
The slots that are filled for the promise of all outcomes. Whatever the order in which the inputs
are settled, and whoever settles them, one deposit is the last, finds all slots filled, and settles
the promise.
-/

namespace HttpEngine

variable {α σ β : Type}

namespace Task

/-- What follows upon a deposit: whoever made the last one settles the promise. -/
def handOver (collection : Collection α) : Option (List (Option (Outcome α))) → Task α σ
  | some slots => .settle collection.aggregate (collection.outcomeOf slots) fun _ => .done
  | none => .done

/-- The deposit of an input of a collection. -/
def contribution (collection : Collection α) (gather index : Nat) (outcome : Outcome α) :
    Task α σ :=
  .deposit gather index outcome (handOver collection)

/-- The deposits of several inputs are registered one after the other. -/
theorem depositAll_cons (collection : Collection α) (gather index promise : Nat)
    (rest : List Nat) (next : Task α σ) :
    depositAll gather collection.aggregate collection.pack index (promise :: rest) next =
      .subscribe promise (contribution collection gather index)
        (depositAll gather collection.aggregate collection.pack (index + 1) rest next) := rfl

/-- The promise of all outcomes of some inputs is made before the slots for them. -/
theorem whenAll_of_ne_nil {inputs : List Nat} (nonempty : inputs ≠ []) (pack : List α → α)
    (next : Nat → Task α σ) :
    whenAll inputs pack next = .create fun aggregate => .gather inputs.length fun gather =>
      depositAll gather aggregate pack 0 inputs (next aggregate) := by
  unfold whenAll
  rw [if_neg (by simpa using nonempty)]

end Task

/-- The deposit in some slots that a frame is about to make. -/
def Frame.deposit? (gather : Nat) (heap : Heap α σ) : Frame α σ → Option (Deposit α)
  | .task (.deposit place index outcome _) =>
    if place = gather then heap.gathers[gather]?.map (⟨·, index, outcome⟩) else none
  | _ => none

/-- The attempt to settle some promise that a frame is about to make. -/
def Frame.payment? (aggregate : Nat) (heap : Heap α σ) : Frame α σ → Option (Payment α)
  | .task (.settle place outcome _) =>
    if place = aggregate then some ⟨outcome, (heap.settle place outcome).2.isSome⟩ else none
  | _ => none

namespace Machine

/-- The frame whose step an act is, if it is one. -/
def mover? (machine : Machine α σ) : MachineAct α σ → Option (Frame α σ)
  | .call _ => none
  | .step thread => (machine.stack thread).head?

/-- What the steps among acts are, as far as somebody looks at them. -/
def watch (look : Heap α σ → Frame α σ → Option β) (machine : Machine α σ) :
    List (MachineAct α σ) → List β
  | [] => []
  | act :: acts =>
    ((machine.mover? act).bind (look machine.heap)).toList ++ (machine.act act).watch look acts

/-- The deposits in some slots that are made by acts, in their order. -/
def depositsIn (gather : Nat) (machine : Machine α σ) (acts : List (MachineAct α σ)) :
    List (Deposit α) :=
  machine.watch (Frame.deposit? gather) acts

/-- The attempts to settle some promise that are made by acts, in their order. -/
def paymentsTo (aggregate : Nat) (machine : Machine α σ) (acts : List (MachineAct α σ)) :
    List (Payment α) :=
  machine.watch (Frame.payment? aggregate) acts

/--
An act of a thread does nothing, or it is the step of one frame.

What the frame leads to takes its place, and nothing else about the frames changes but their order.
-/
theorem mover_cases (machine : Machine α σ) (thread : Nat) :
    (machine.step thread = machine ∧ machine.mover? (.step thread) = none) ∨
      ∃ frame others, machine.frames.Perm (frame :: others) ∧
        (machine.step thread).frames.Perm ((machine.heap.step frame).2 ++ others) ∧
        (machine.step thread).heap = (machine.heap.step frame).1 ∧
        machine.mover? (.step thread) = some frame := by
  -- A thread that is not there does nothing, and neither does one without frames.
  cases there : machine.threads[thread]? with
  | none => exact .inl (by simp [step, mover?, stack, there])
  | some frames =>
    cases frames with
    | nil => exact .inl (by simp [step, mover?, stack, there])
    | cons frame rest =>
      -- The stack is one of several, and the others are not touched.
      obtain ⟨others, before, after⟩ := flatten_set_perm there
      refine .inr ⟨frame, rest ++ others, before, ?_, ?_, ?_⟩
      · rw [step, there, ← List.append_assoc]
        exact after _
      · rw [step, there]
      · simp [mover?, stack, there]

end Machine

/-- A list, with what some of its entries stand for. The other entries are strangers. -/
inductive Enlists {ι κ : Type} (stranger : ι → Prop) (stands : ι → κ → Prop) :
    List ι → List κ → Prop where
  | nil : Enlists stranger stands [] []
  | other {entry : ι} {entries : List ι} {items : List κ} (is : stranger entry)
      (rest : Enlists stranger stands entries items) :
      Enlists stranger stands (entry :: entries) items
  | one {entry : ι} {item : κ} {entries : List ι} {items : List κ} (is : stands entry item)
      (rest : Enlists stranger stands entries items) :
      Enlists stranger stands (entry :: entries) (item :: items)

namespace Enlists

variable {ι κ : Type} {stranger : ι → Prop} {stands : ι → κ → Prop} {entries others : List ι}
  {items more : List κ}

/-- What comes behind stands for what comes behind. -/
theorem append (first : Enlists stranger stands entries items)
    (second : Enlists stranger stands others more) :
    Enlists stranger stands (entries ++ others) (items ++ more) := by
  induction first with
  | nil => exact second
  | other is _ ih => exact .other is ih
  | one is _ ih => exact .one is ih

/-- Strangers stand for nothing. -/
theorem of_strangers (all : ∀ entry ∈ entries, stranger entry) :
    Enlists stranger stands entries [] := by
  induction entries with
  | nil => exact .nil
  | cons entry rest ih =>
    obtain ⟨first, others⟩ := List.forall_mem_cons.1 all
    exact .other first (ih others)

/-- In another order the entries stand for the same items, in some order. -/
theorem perm (enlists : Enlists stranger stands entries items) (same : entries.Perm others) :
    ∃ more, Enlists stranger stands others more ∧ items.Perm more := by
  -- Two neighbours change places together with their items, as far as they have any.
  induction same generalizing items with
  | nil => exact ⟨items, enlists, .refl _⟩
  | cons entry _ ih =>
    cases enlists with
    | other is rest =>
      obtain ⟨more, rest, same⟩ := ih rest
      exact ⟨more, .other is rest, same⟩
    | one is rest =>
      -- What counts keeps its item, whatever the order is.
      obtain ⟨more, rest, same⟩ := ih rest
      exact ⟨_, .one is rest, same.cons _⟩
  | swap =>
    cases enlists with
    | other first rest =>
      cases rest with
      | other second rest => exact ⟨_, .other second (.other first rest), .refl _⟩
      | one second rest => exact ⟨_, .one second (.other first rest), .refl _⟩
    | one first rest =>
      cases rest with
      | other second rest => exact ⟨_, .other second (.one first rest), .refl _⟩
      | one second rest => exact ⟨_, .one second (.one first rest), .swap _ _ _⟩
  | trans _ _ ih ih' =>
    obtain ⟨middle, enlists, first⟩ := ih enlists
    obtain ⟨more, enlists, second⟩ := ih' enlists
    exact ⟨more, enlists, first.trans second⟩

end Enlists

namespace Collection

variable {collection : Collection α} {gather : Nat} {next : Task α σ}
  {frames others : List (Frame α σ)} {chores more : List (Chore α)}
  {callbacks : List (Callback α σ)} {indices : List Nat}

/-- A frame that is about to do a chore. -/
inductive Does (collection : Collection α) (gather : Nat) (next : Task α σ) :
    Frame α σ → Chore α → Prop where
  | registering {first : Nat} (inside : first < collection.inputs.length) :
      Does collection gather next
        (.task (.depositAll gather collection.aggregate collection.pack first
          (collection.inputs.drop first) next))
        (.registering first)
  /-- The callback of a deposit is due. -/
  | due (promise ticket index : Nat) (outcome : Outcome α) :
      Does collection gather next
        (.call promise outcome ⟨ticket, .contribution collection gather index⟩)
        (.deposit index outcome)
  /-- The callback of a deposit has started. -/
  | deposit (index : Nat) (outcome : Outcome α) :
      Does collection gather next (.task (.contribution collection gather index outcome))
        (.deposit index outcome)
  | payment (slots : List (Option (Outcome α))) :
      Does collection gather next (.task (.handOver collection (some slots))) (.payment slots)

/-- A callback that makes the deposit of an input. -/
def Contributes (collection : Collection α) (gather : Nat) (callback : Callback α σ)
    (index : Nat) : Prop :=
  ∃ ticket, callback = ⟨ticket, .contribution collection gather index⟩

/--
Frames with the chores that they are about to do, in whatever order.

The other frames have no part in the collection.
-/
def Team (collection : Collection α) (gather : Nat) (next : Task α σ)
    (frames : List (Frame α σ)) (chores : List (Chore α)) : Prop :=
  ∃ items, Enlists (Frame.Refrains collection.aggregate gather) (collection.Does gather next)
    frames items ∧ items.Perm chores

/-- The callbacks that a promise stores, with the positions of those that make deposits. -/
def Stores (collection : Collection α) (gather : Nat) :
    List (Callback α σ) → List Nat → Prop :=
  Enlists (Callback.Refrains collection.aggregate gather) (collection.Contributes gather)

/-- The order of the frames and of the chores does not matter. -/
theorem Team.perm (team : collection.Team gather next frames chores)
    (same : frames.Perm others) (also : chores.Perm more) :
    collection.Team gather next others more := by
  obtain ⟨items, enlists, order⟩ := team
  obtain ⟨ordered, enlists, reorder⟩ := enlists.perm same
  exact ⟨ordered, enlists, reorder.symm.trans (order.trans also)⟩

/-- Frames that come together do the chores of both. -/
theorem Team.append (team : collection.Team gather next frames chores)
    (below : collection.Team gather next others more) :
    collection.Team gather next (frames ++ others) (chores ++ more) := by
  obtain ⟨items, enlists, order⟩ := team
  obtain ⟨rest, below, reorder⟩ := below
  exact ⟨items ++ rest, enlists.append below, order.append reorder⟩

/-- Frames that have no part in a collection do no chores. -/
theorem Team.of_refrains (refrains : ∀ frame ∈ frames, frame.Refrains collection.aggregate gather) :
    collection.Team gather next frames [] :=
  ⟨[], .of_strangers refrains, .refl _⟩

/-- One frame may have no part in a collection. -/
theorem Team.other {frame : Frame α σ} (refrains : frame.Refrains collection.aggregate gather) :
    collection.Team gather next [frame] [] :=
  .of_refrains fun _ member => List.mem_singleton.1 member ▸ refrains

/-- One frame may do one chore. -/
theorem Team.one {frame : Frame α σ} {chore : Chore α}
    (does : collection.Does gather next frame chore) :
    collection.Team gather next [frame] [chore] :=
  ⟨[chore], .one does .nil, .refl _⟩

/-- A frame among others has no part in a collection, or does one of the chores. -/
theorem Team.cases {frame : Frame α σ}
    (team : collection.Team gather next (frame :: others) chores) :
    (frame.Refrains collection.aggregate gather ∧ collection.Team gather next others chores) ∨
      ∃ chore rest, collection.Does gather next frame chore ∧ chores.Perm (chore :: rest) ∧
        collection.Team gather next others rest := by
  obtain ⟨items, enlists, order⟩ := team
  cases enlists with
  | other refrains rest => exact .inl ⟨refrains, items, rest, order⟩
  | one does rest => exact .inr ⟨_, _, does, order.symm, _, rest, .refl _⟩

/-- Where there are no frames, there are no chores. -/
theorem Team.eq_nil (team : collection.Team gather next [] chores) : chores = [] := by
  obtain ⟨items, enlists, order⟩ := team
  cases enlists
  exact List.nil_perm.1 order

/-- The deposits that a promise has stored come to whoever settles it. -/
theorem Stores.team (stores : collection.Stores gather callbacks indices) (promise : Nat)
    (outcome : Outcome α) :
    collection.Team gather next (callbacks.map (.call promise outcome))
      (indices.map (.deposit · outcome)) := by
  refine ⟨_, ?_, .refl _⟩
  -- Exactly the contributions have an item, in the order in which they are stored.
  induction stores with
  | nil => exact .nil
  | other is _ ih => exact .other is ih
  | one is _ ih =>
    obtain ⟨ticket, rfl⟩ := is
    exact .one (.due promise ticket _ outcome) ih

/-- Whoever registers inputs is about to go on with the others. -/
theorem team_registeringFrom (refrains : next.Refrains collection.aggregate gather)
    (first : Nat) :
    collection.Team gather next
      [.task (.depositAll gather collection.aggregate collection.pack first
        (collection.inputs.drop first) next)]
      (collection.registeringFrom first) := by
  unfold registeringFrom
  split
  · -- Either the next deposit is to be registered, or all of them have been.
    rename_i inside
    exact .one (.registering inside)
  · rename_i outside
    rw [List.drop_eq_nil_of_le (Nat.le_of_not_lt outside)]
    exact .other refrains

/-- A machine gathers outcomes, which stand like this. -/
structure Agrees (collection : Collection α) (gather : Nat) (next : Task α σ)
    (machine : Machine α σ) (tally : Tally α) : Prop where
  frames : collection.Team gather next machine.frames tally.chores
  cells : ∀ promise, collection.Stores gather (machine.heap.storedOn promise)
    (tally.lodged.filter (collection.isInput promise))
  outcomes : ∀ promise, machine.heap.outcome? promise = tally.outcome? promise
  slots : machine.heap.gathers[gather]? = some tally.gather
  created : collection.aggregate < machine.heap.cells.length
  inputs : ∀ promise ∈ collection.inputs, promise < machine.heap.cells.length

/-- How a collection stands after some deposits and some attempts to settle the promise. -/
structure Reaches (collection : Collection α) (gather : Nat) (next : Task α σ)
    (machine : Machine α σ) (tally : Tally α) (deposits : List (Deposit α))
    (payments : List (Payment α)) (after : Tally α) : Prop where
  agrees : collection.Agrees gather next machine after
  course : Relation.ReflTransGen collection.Move tally after
  deposits : after.deposits = tally.deposits ++ deposits
  payments : after.payments = tally.payments ++ payments

variable {machine : Machine α σ} {tally after : Tally α} {thread : Nat} {frame : Frame α σ}

/-- A collection may stand as before, with nothing to be seen. -/
theorem Agrees.stays (agrees : collection.Agrees gather next machine tally) :
    collection.Reaches gather next machine tally [] [] tally :=
  ⟨agrees, .refl, (List.append_nil _).symm, (List.append_nil _).symm⟩

/-- A move may be no deposit and no attempt to settle the promise. -/
theorem Agrees.unseen (agrees : collection.Agrees gather next machine after)
    (move : collection.Move tally after) (deposits : after.deposits = tally.deposits)
    (payments : after.payments = tally.payments) :
    collection.Reaches gather next machine tally [] [] after :=
  ⟨agrees, .single move, by rw [deposits, List.append_nil], by rw [payments, List.append_nil]⟩

/-- What a settled promise leaves waiting waits for another promise. -/
theorem filter_settle (collection : Collection α) (indices : List Nat) (place promise : Nat) :
    (indices.filter fun index => !collection.isInput place index).filter
        (collection.isInput promise) =
      if place = promise then [] else indices.filter (collection.isInput promise) := by
  rw [List.filter_filter]
  split
  · rename_i same
    subst same
    exact List.filter_eq_nil_iff.2 fun _ _ => by simp
  · rename_i differs
    refine List.filter_congr fun index _ => ?_
    unfold isInput
    -- An input is one promise only.
    cases collection.inputs[index]? with
    | none => rfl
    | some input => by_cases here : input = promise <;> simp [here, Ne.symm differs]

/-- What can be seen of a step of a thread: the frame, and what is left after its step. -/
structure Steps (machine : Machine α σ) (thread : Nat) (frame : Frame α σ)
    (others : List (Frame α σ)) : Prop where
  frames : (machine.step thread).frames.Perm ((machine.heap.step frame).2 ++ others)
  heap : (machine.step thread).heap = (machine.heap.step frame).1

/-- The step of a frame has to do with what is shared, and the other frames stay as they are. -/
theorem Agrees.of_step (agrees : collection.Agrees gather next machine tally)
    (steps : Steps machine thread frame others)
    (team : collection.Team gather next ((machine.heap.step frame).2 ++ others) after.chores)
    (cells : ∀ promise, collection.Stores gather ((machine.heap.step frame).1.storedOn promise)
      (after.lodged.filter (collection.isInput promise)))
    (outcomes : ∀ promise, (machine.heap.step frame).1.outcome? promise = after.outcome? promise)
    (slots : (machine.heap.step frame).1.gathers[gather]? = some after.gather) :
    collection.Agrees gather next (machine.step thread) after := by
  have grows := machine.heap.cells_le_step frame
  obtain ⟨frames, heap⟩ := steps
  -- The frames may come in any order, since the team counts them only.
  refine ⟨team.perm frames.symm (.refl _), fun promise => heap ▸ cells promise,
    fun promise => heap ▸ outcomes promise, heap ▸ slots, ?_, fun promise member => ?_⟩
  · rw [heap]
    exact Nat.lt_of_lt_of_le agrees.created grows
  · rw [heap]
    exact Nat.lt_of_lt_of_le (agrees.inputs promise member) grows

/-- The deposits that wait for a promise come to the thread that settles it. -/
theorem Agrees.of_settle (agrees : collection.Agrees gather next machine tally) {promise : Nat}
    {outcome : Outcome α} {goesOn : Bool → Task α σ}
    (steps : Steps machine thread (.task (.settle promise outcome goesOn)) others)
    (waits : machine.heap.outcome? promise = none) (inside : promise < machine.heap.cells.length)
    (refrains : (goesOn true).Refrains collection.aggregate gather)
    (below : collection.Team gather next others chores) :
    collection.Agrees gather next (machine.step thread)
      (collection.settle tally promise outcome chores) := by
  have found : machine.heap.cells[promise]? = some machine.heap.cells[promise] :=
    List.getElem?_eq_getElem inside
  have empty : machine.heap.cells[promise].outcome? = none := by
    simpa [Heap.outcome?, found] using waits
  refine agrees.of_step steps ?_ (fun other => ?_) (fun other => ?_) ?_
  · -- The callbacks that were stored come before whoever settles goes on.
    have stored := agrees.cells promise
    rw [Heap.storedOn, found] at stored
    have onward : collection.Team gather next [.task (goesOn true)] [] := .other refrains
    have here := ((stored.team promise outcome).append onward).append below
    simpa [Heap.step_settle, Heap.settle_of_pending found empty, settle] using here
  · -- Whoever waited for the promise is told, and nobody waits for it any more.
    have kept := agrees.cells other
    rw [Heap.step_settle, Heap.storedOn_settle found empty]
    dsimp only [settle]
    rw [filter_settle]
    split
    · exact .nil
    · exact kept
  · rw [Heap.step_settle, Heap.outcome?_settle_of_pending found empty]
    by_cases same : promise = other
    · subst same
      simp [settle]
    · simpa [settle, same, Function.update_of_ne (Ne.symm same)] using agrees.outcomes other
  · rw [Heap.step_settle, Heap.gathers_settle]
    exact agrees.slots

/-- Nobody sees a deposit or an attempt to settle the promise in what has no part in them. -/
theorem unseen_of_refrains (refrains : frame.Refrains collection.aggregate gather)
    (heap : Heap α σ) :
    frame.deposit? gather heap = none ∧ frame.payment? collection.aggregate heap = none := by
  cases frame with
  | call => exact ⟨rfl, rfl⟩
  | task code =>
    cases refrains with
    | settle other =>
      -- A stranger may settle, but not the aggregate, and deposit, but not into this gather.
      exact ⟨rfl, if_neg other⟩
    | deposit other => exact ⟨if_neg other, rfl⟩
    | _ => exact ⟨rfl, rfl⟩

/-- A frame that has no part in a collection settles another promise, or changes nothing. -/
theorem Agrees.step_of_refrains (agrees : collection.Agrees gather next machine tally)
    (steps : Steps machine thread frame others)
    (refrains : frame.Refrains collection.aggregate gather)
    (below : collection.Team gather next others tally.chores) :
    ∃ after, collection.Reaches gather next (machine.step thread) tally
      (frame.deposit? gather machine.heap).toList
      (frame.payment? collection.aggregate machine.heap).toList after := by
  obtain ⟨deposits, payments⟩ := unseen_of_refrains refrains machine.heap
  rw [deposits, payments]
  obtain ⟨inside, _⟩ := List.getElem?_eq_some_iff.1 agrees.slots
  rcases Heap.step_of_refrains refrains agrees.created (.inl inside) with
    ⟨place, outcome, goesOn, cell, rfl, other, found, empty, goesOnRefrains⟩ | passes
  · -- A stranger settles another promise, or does nothing that the slots would notice.
    have waits : machine.heap.outcome? place = none := by simp [Heap.outcome?, found, empty]
    obtain ⟨inside, _⟩ := List.getElem?_eq_some_iff.1 found
    have settled := agrees.of_settle steps waits inside goesOnRefrains below
    exact ⟨_, settled.unseen (.settles outcome other) rfl rfl⟩
  · refine ⟨tally, Agrees.stays ?_⟩
    refine agrees.of_step steps ?_ (fun promise => ?_) (fun promise => ?_) ?_
    · exact (Team.of_refrains passes.frames).append below
    · obtain ⟨newcomers, stored, strangers⟩ := passes.stored promise
      rw [stored, ← List.append_nil (tally.lodged.filter _)]
      exact (agrees.cells promise).append (.of_strangers strangers)
    · rw [passes.outcomes, agrees.outcomes]
    · rw [passes.slots, agrees.slots]

/-- Whoever registers the next deposit goes on with the others, and the deposit may be due. -/
theorem Agrees.step_of_registering (agrees : collection.Agrees gather next machine tally)
    (nextRefrains : next.Refrains collection.aggregate gather) {first promise : Nat}
    {rest : List (Chore α)} (input : collection.inputs[first]? = some promise)
    (steps : Steps machine thread (.task (.subscribe promise
      (.contribution collection gather first) (.depositAll gather collection.aggregate
        collection.pack (first + 1) (collection.inputs.drop (first + 1)) next))) others)
    (chore : tally.chores.Perm (.registering first :: rest))
    (below : collection.Team gather next others rest) :
    ∃ after, collection.Reaches gather next (machine.step thread) tally [] [] after := by
  obtain ⟨inside, _⟩ := List.getElem?_eq_some_iff.1 input
  have there := agrees.inputs promise (List.mem_of_getElem? input)
  -- Other threads may settle the promise at any time, but the registration itself is one step.
  have onward := (team_registeringFrom nextRefrains (first + 1)).append below
  cases told : machine.heap.outcome? promise with
  | none =>
    -- The input waits, so that the deposit is stored behind those that are there.
    have waits := told
    rw [agrees.outcomes] at waits
    refine ⟨_, Agrees.unseen ?_ (.lodges chore input waits) rfl rfl⟩
    refine agrees.of_step steps ?_ (fun other => ?_) (fun other => ?_) ?_
    · simpa [Heap.step_subscribe, Heap.subscribe_of_waits told] using onward
    · -- The callback is stored behind the others that wait for the promise.
      have before := agrees.cells other
      rw [Heap.step_subscribe, Heap.storedOn_subscribe, List.filter_append]
      refine before.append ?_
      by_cases same : promise = other
      · subst same
        have contributes : collection.Contributes gather
            (⟨machine.heap.tickets, .contribution collection gather first⟩ : Callback α σ)
            first := ⟨machine.heap.tickets, rfl⟩
        simpa [there, told, isInput, input] using Enlists.one contributes .nil
      · simpa [same, isInput, input] using Enlists.nil
    · rw [Heap.step_subscribe, Heap.outcome?_subscribe, agrees.outcomes]
    · rw [Heap.step_subscribe, Heap.gathers_subscribe]
      exact agrees.slots
  | some outcome =>
    -- The input has its outcome, so that nothing is stored and the deposit is due.
    refine ⟨_, Agrees.unseen ?_ (.finds outcome chore inside) rfl rfl⟩
    refine agrees.of_step steps ?_ (fun other => ?_) (fun other => ?_) ?_
    · have due : collection.Team gather next
          [.call promise outcome ⟨machine.heap.tickets, .contribution collection gather first⟩]
          [.deposit first outcome] := .one (.due promise machine.heap.tickets first outcome)
      simpa [Heap.step_subscribe, Heap.subscribe_of_settled told] using due.append onward
    · have kept : ¬(promise = other ∧ other < machine.heap.cells.length ∧
          machine.heap.outcome? other = none) := by
        rintro ⟨rfl, _, waits⟩
        cases told.symm.trans waits
      rw [Heap.step_subscribe, Heap.storedOn_subscribe, if_neg kept, List.append_nil]
      exact agrees.cells other
    · rw [Heap.step_subscribe, Heap.outcome?_subscribe, agrees.outcomes]
    · rw [Heap.step_subscribe, Heap.gathers_subscribe]
      exact agrees.slots

/-- A frame that does a chore makes a move, or is still about to make it. -/
theorem Agrees.step_of_does (agrees : collection.Agrees gather next machine tally)
    (kept : collection.Kept tally) (nextRefrains : next.Refrains collection.aggregate gather)
    {chore : Chore α} {rest : List (Chore α)} (does : collection.Does gather next frame chore)
    (steps : Steps machine thread frame others) (there : tally.chores.Perm (chore :: rest))
    (below : collection.Team gather next others rest) :
    ∃ after, collection.Reaches gather next (machine.step thread) tally
      (frame.deposit? gather machine.heap).toList
      (frame.payment? collection.aggregate machine.heap).toList after := by
  -- The step is one of the four chores, and each of them is one move of the tally.
  cases does with
  | @registering first inside =>
    rw [List.drop_eq_getElem_cons inside, Task.depositAll_cons] at steps ⊢
    exact agrees.step_of_registering nextRefrains (List.getElem?_eq_getElem inside) steps there
      below
  | due promise ticket index outcome =>
    -- The callback has started, and the deposit is still to be made.
    refine ⟨tally, Agrees.stays ?_⟩
    refine agrees.of_step steps ?_ agrees.cells agrees.outcomes agrees.slots
    exact ((Team.one (.deposit index outcome)).append below).perm (.refl _) there.symm
  | deposit index outcome =>
    obtain ⟨inside, _⟩ := List.getElem?_eq_some_iff.1 agrees.slots
    have step : machine.heap.step (.task (.contribution collection gather index outcome)) =
        ({ machine.heap with
            gathers := machine.heap.gathers.set gather (tally.gather.deposit index outcome).1 },
          [.task (.handOver collection (tally.gather.deposit index outcome).2)]) := by
      rw [Task.contribution, Heap.step_deposit, agrees.slots]
    refine ⟨_, ?_, .single (.deposits there), ?_, (List.append_nil _).symm⟩
    · refine agrees.of_step steps ?_ (fun promise => ?_) (fun promise => ?_) ?_
      · -- Whoever made the last deposit has the promise to settle, and nobody else goes on.
        rw [step]
        refine Team.append ?_ below
        cases (tally.gather.deposit index outcome).2 with
        | none => exact .other Task.Refrains.done
        | some slots => exact .one (.payment slots)
      · rw [step]
        exact agrees.cells promise
      · rw [step]
        exact agrees.outcomes promise
      · rw [step]
        exact List.getElem?_set_self inside
    · simp [Frame.deposit?, Task.contribution, agrees.slots]
  | payment slots =>
    -- Nobody has settled the promise before.
    have waits := (kept.stage_of there).waits
    rw [← agrees.outcomes] at waits
    obtain ⟨cell, found⟩ : ∃ cell, machine.heap.cells[collection.aggregate]? = some cell :=
      ⟨_, List.getElem?_eq_getElem agrees.created⟩
    have empty : cell.outcome? = none := by simpa [Heap.outcome?, found] using waits
    have settled := agrees.of_settle steps waits agrees.created .done below
    refine ⟨_, ?_, .single (.pays there), (List.append_nil _).symm, ?_⟩
    · exact { settled with }
    · simp [Frame.payment?, Task.handOver, Heap.settle_of_pending found empty]

/-- Whatever happens on the machine, the collection has made moves, or stands as before. -/
theorem Agrees.act (agrees : collection.Agrees gather next machine tally)
    (kept : collection.Kept tally) (nextRefrains : next.Refrains collection.aggregate gather)
    {act : MachineAct α σ} (refrains : act.Refrains collection.aggregate gather) :
    ∃ after, collection.Reaches gather next (machine.act act) tally
      ((machine.mover? act).bind (Frame.deposit? gather machine.heap)).toList
      ((machine.mover? act).bind (Frame.payment? collection.aggregate machine.heap)).toList
      after := by
  cases act with
  | call code =>
    refine ⟨tally, Agrees.stays { agrees with frames := ?_ }⟩
    rw [Machine.frames_call, ← List.append_nil tally.chores]
    exact agrees.frames.append (.other refrains)
  | step thread =>
    -- The frame on top of the stack is a stranger's, or it has a chore.
    rcases machine.mover_cases thread with
      ⟨same, nobody⟩ | ⟨frame, others, before, frames, heap, mover⟩
    · rw [nobody, Machine.act, same]
      exact ⟨tally, agrees.stays⟩
    · rw [mover]
      rcases (agrees.frames.perm before (.refl _)).cases with
        ⟨refrains, below⟩ | ⟨chore, rest, does, there, below⟩
      · exact agrees.step_of_refrains ⟨frames, heap⟩ refrains below
      · exact agrees.step_of_does kept nextRefrains does ⟨frames, heap⟩ there below

/-- Whatever a run does, the collection has made moves, or stands as before. -/
theorem Agrees.run (agrees : collection.Agrees gather next machine tally)
    (kept : collection.Kept tally) (nextRefrains : next.Refrains collection.aggregate gather)
    {acts : List (MachineAct α σ)}
    (refrains : ∀ act ∈ acts, act.Refrains collection.aggregate gather) :
    ∃ after, collection.Reaches gather next (machine.run acts) tally
      (machine.depositsIn gather acts) (machine.paymentsTo collection.aggregate acts) after := by
  induction acts generalizing machine tally with
  | nil => exact ⟨tally, agrees.stays⟩
  | cons act rest ih =>
    -- The books are kept in the middle of the run too, so that the rest can go on from there.
    obtain ⟨first, others⟩ := List.forall_mem_cons.1 refrains
    obtain ⟨middle, reaches⟩ := agrees.act kept nextRefrains first
    obtain ⟨after, further⟩ := ih reaches.agrees (kept.moves reaches.course) others
    refine ⟨after, further.agrees, reaches.course.trans further.course, ?_, ?_⟩
    · rw [further.deposits, reaches.deposits, List.append_assoc]
      rfl
    · rw [further.payments, reaches.payments, List.append_assoc]
      rfl

end Collection

namespace Machine

variable {machine : Machine α σ} {thread : Nat} {inputs : List Nat} {pack : List α → α}
  {next : Nat → Task α σ} {stack : List (Frame α σ)} {before acts : List (MachineAct α σ)}

/-- The frames of a machine are those of one thread and those of the others. -/
theorem frames_split (busy : machine.stack thread ≠ []) :
    ∃ others, machine.frames.Perm (machine.stack thread ++ others) ∧
      ∀ frame ∈ others, ∃ other, other ≠ thread ∧ frame ∈ machine.stack other := by
  unfold Machine.stack at busy ⊢
  cases there : machine.threads[thread]? with
  | none => exact absurd (by rw [there]; rfl) busy
  | some frames =>
    obtain ⟨inside, rfl⟩ := List.getElem?_eq_some_iff.1 there
    -- What is on no other place of the list is on the stack of another thread.
    refine ⟨(machine.threads.eraseIdx thread).flatten, ?_, fun frame member => ?_⟩
    · exact (List.getElem_cons_eraseIdx_perm inside).symm.flatten
    · obtain ⟨elsewhere, there, member⟩ := List.mem_flatten.1 member
      obtain ⟨other, differs, found⟩ := List.mem_eraseIdx_iff_getElem?.1 there
      exact ⟨other, differs, by rwa [found]⟩

/-- The first step makes the promise, which waits, and nothing else changes. -/
theorem step_whenAll {gather : Nat}
    (called : machine.stack thread = .task (.whenAll inputs pack next) :: stack)
    (nonempty : inputs ≠ [])
    (withheld : machine.Withheld thread machine.heap.cells.length gather) :
    let aggregate := machine.heap.cells.length
    let made := machine.step thread
    made.stack thread = .task (.gather inputs.length fun gather =>
        .depositAll gather aggregate pack 0 inputs (next aggregate)) :: stack ∧
      made.Withheld thread aggregate gather ∧ aggregate < made.heap.cells.length ∧
      made.heap.outcome? aggregate = none := by
  intro aggregate made
  rw [Task.whenAll_of_ne_nil nonempty] at called
  obtain ⟨here, untouched, heap, _⟩ := step_of_stack called
  have same : made.heap = { machine.heap with cells := machine.heap.cells ++ [.pending] } := heap
  refine ⟨here, ⟨fun other differs => ?_, ?_, fun promise => ?_⟩, ?_, ?_⟩
  · -- The other threads have nothing to do with the gather, and did not step.
    rw [untouched other differs]
    exact withheld.others other differs
  · have below := withheld.below
    rw [called] at below
    rw [here]
    exact below
  · rw [same, Heap.storedOn_create]
    exact withheld.stored promise
  · simp [same, aggregate]
  · -- There is no such promise before.
    rw [same, Heap.outcome?_create, Heap.outcome?, List.getElem?_eq_none (Nat.le_refl _)]
    rfl

/-- A collection whose slots have just been made is about to have its deposits registered. -/
theorem agrees_opening {collection : Collection α} {next : Task α σ}
    (top : machine.stack thread = .task (.gather collection.inputs.length fun gather =>
      .depositAll gather collection.aggregate collection.pack 0 collection.inputs next) :: stack)
    (withheld : machine.Withheld thread collection.aggregate machine.heap.gathers.length)
    (nextRefrains : next.Refrains collection.aggregate machine.heap.gathers.length)
    (created : collection.aggregate < machine.heap.cells.length)
    (inputs : ∀ promise ∈ collection.inputs, promise < machine.heap.cells.length) :
    collection.Agrees machine.heap.gathers.length next (machine.step thread)
      (collection.opening machine.heap.outcome?) := by
  obtain ⟨here, untouched, heap, _⟩ := step_of_stack top
  have same : (machine.step thread).heap = { machine.heap with
      gathers := machine.heap.gathers ++ [.ofSize collection.inputs.length] } := heap
  refine ⟨?_, fun promise => ?_, fun promise => by rw [same]; rfl, ?_, ?_, ?_⟩
  · -- Only the caller has a chore, and it is to register the first deposit.
    have busy : (machine.step thread).stack thread ≠ [] := here ▸ List.cons_ne_nil _ _
    obtain ⟨others, frames, elsewhere⟩ := frames_split busy
    have below := withheld.below
    rw [top] at below
    have strangers : ∀ frame ∈ stack ++ others,
        frame.Refrains collection.aggregate machine.heap.gathers.length := by
      intro frame member
      rcases List.mem_append.1 member with under | other
      · exact below frame under
      · obtain ⟨place, differs, member⟩ := elsewhere frame other
        exact withheld.others place differs frame (untouched place differs ▸ member)
    rw [here, List.append_assoc] at frames
    have team := (Collection.team_registeringFrom nextRefrains 0).append
      (Collection.Team.of_refrains strangers)
    exact team.perm frames.symm (by rw [List.append_nil]; exact .refl _)
  · -- What was stored before the slots were made contributes nothing to them.
    rw [same]
    exact .of_strangers (withheld.stored promise)
  · rw [same]
    exact List.getElem?_concat_length
  · rw [same]
    exact created
  · rw [same]
    exact inputs

/--
One deposit is the last for the promise of all outcomes, and it settles the promise.

The acts `before` come between the making of the promise and that of the slots, and nobody but the
deposits of the inputs has the resolver of the promise and the slots. At any time what is left to
count down is the number of empty slots, and with the deposits that were made it adds up to the
number of inputs. Every deposit is that of another input, has a slot of its own that is empty, and
has something to count down. Once there is one for every input, exactly one of them has seen itself
as the last, and it has taken the slots, all filled. The promise is settled at most once, with what
these come to, and it is settled when no input waits and all threads have nothing left to do.
-/
theorem one_deposit_is_last
    (called : machine.stack thread = .task (.whenAll inputs pack next) :: stack)
    (nonempty : inputs ≠ [])
    (known : ∀ promise ∈ inputs, promise < machine.heap.cells.length)
    (others : .step thread ∉ before) :
    let aggregate := machine.heap.cells.length
    let created := (machine.step thread).run before
    let gather := created.heap.gathers.length
    let opened := created.step thread
    let now := opened.run acts
    let deposits := opened.depositsIn gather acts
    let payments := opened.paymentsTo aggregate acts
    machine.Withheld thread aggregate gather → (next aggregate).Refrains aggregate gather →
    (∀ act ∈ before ++ acts, act.Refrains aggregate gather) →
    (∃ found, now.heap.gathers[gather]? = some found ∧
      found.remaining = found.slots.countP Option.isNone ∧
      found.remaining + deposits.length = inputs.length) ∧
    (deposits.map Deposit.index).Nodup ∧
    deposits.countP (·.taken?.isSome) = (if deposits.length = inputs.length then 1 else 0) ∧
    (∀ position deposit, deposits[position]? = some deposit →
      deposit.index < inputs.length ∧ deposit.before.slots.length = inputs.length ∧
      deposit.before.slots[deposit.index]? = some none ∧ 0 < deposit.before.remaining ∧
      (deposit.taken?.isSome ↔ position + 1 = inputs.length) ∧
      ∀ slots, deposit.taken? = some slots → none ∉ slots ∧
        (slots.filterMap id).length = inputs.length ∧
        ∀ values, Gather.collect slots = .ok values → values.length = inputs.length) ∧
    (payments = [] ∧ now.heap.outcome? aggregate = none ∨
      ∃ deposit slots, deposits.getLast? = some deposit ∧ deposit.taken? = some slots ∧
        payments = [⟨(Gather.collect slots).map pack, true⟩] ∧
        now.heap.outcome? aggregate = some ((Gather.collect slots).map pack)) ∧
    (now.Quiet → (∀ promise ∈ inputs, now.heap.outcome? promise ≠ none) →
      deposits.length = inputs.length ∧ payments.length = 1) := by
  intro aggregate created gather opened now deposits payments withheld nextRefrains refrains
  obtain ⟨beforeRefrains, actsRefrain⟩ := List.forall_mem_append.1 refrains
  let collection : Collection α := ⟨inputs, pack, aggregate⟩
  -- The promise is made, and others may do something before the slots are.
  obtain ⟨made, madeWithheld, madeCreated, madeWaits⟩ := step_whenAll called nonempty withheld
  have busy : (machine.step thread).stack thread ≠ [] := made ▸ List.cons_ne_nil _ _
  obtain ⟨withheld, there, same⟩ :=
    madeWithheld.run madeCreated busy beforeRefrains others (Nat.le_refl gather)
  have waits : created.heap.outcome? aggregate = none := same.trans madeWaits
  have top := (stack_run others busy).trans made
  have agrees : collection.Agrees gather (next aggregate) opened
      (collection.opening created.heap.outcome?) :=
    agrees_opening top withheld nextRefrains there fun promise member =>
      Nat.lt_trans (known promise member) there
  -- From then on the collection makes its moves.
  have opening : collection.Kept (collection.opening created.heap.outcome?) :=
    collection.kept_opening nonempty waits
  obtain ⟨tally, reaches⟩ := agrees.run opening nextRefrains actsRefrain
  have kept := opening.moves reaches.course
  have made : tally.deposits = deposits := reaches.deposits
  have paid : tally.payments = payments := reaches.payments
  rw [← made, ← paid]
  refine ⟨⟨tally.gather, reaches.agrees.slots, kept.stage.counts⟩, kept.nodup,
    kept.countP_taken nonempty, fun position deposit there => ?_, ?_, fun quiet settled => ?_⟩
  · have fits := kept.fits position deposit there
    refine ⟨fits.inside.1, fits.length, fits.empty, fits.inside.2, fits.isLast_iff,
      fun slots taken => ?_⟩
    obtain ⟨outcomes, rfl, length⟩ := fits.filled taken
    refine ⟨by simp, by simpa using length, fun values ok => ?_⟩
    rw [Gather.collect_map_some] at ok
    exact (Gather.length_valuesOf ok).trans length
  · rw [reaches.agrees.outcomes]
    rcases kept.stage.once with waiting | ⟨deposit, member, slots, taken, once, settled⟩
    · exact .inl waiting
    · exact .inr ⟨deposit, slots, kept.getLast? member (by rw [taken]; rfl), taken, once, settled⟩
  · have idle := reaches.agrees.frames
    rw [frames_of_quiet quiet] at idle
    obtain ⟨all, isPaid⟩ := kept.finished idle.eq_nil fun promise member waits =>
      settled promise member ((reaches.agrees.outcomes promise).trans waits)
    refine ⟨all, ?_⟩
    rcases kept.stage.once with ⟨unpaid, _⟩ | ⟨_, _, _, _, once, _⟩
    · exact absurd unpaid isPaid
    · rw [once]
      rfl

/-- The number of three values: one promise, taken twice, and one that has its value already. -/
def threefold : Task Nat Unit :=
  .create fun first =>
  .create fun second =>
  .settle second (.ok 2) fun _ =>
  .whenAll [first, second, first] List.length fun _ => .done

/-- The first promise is settled on another thread, after two inputs have been registered. -/
def interleaved : List (MachineAct Nat Unit) :=
  List.replicate 4 (.step 0) ++ .call (.settle 0 (.ok 1) fun _ => .done) ::
    (List.replicate 10 [.step 1, .step 0]).flatten

/-- The second input comes first, and the last deposit is that of the third one. -/
theorem one_deposit_is_last_threefold :
    let machine : Machine Nat Unit := (fresh ()).run (.call threefold :: List.replicate 3 (.step 0))
    let opened := ((machine.step 0).run []).step 0
    let deposits := opened.depositsIn 0 interleaved
    (opened.run interleaved).Quiet ∧ deposits.map Deposit.index = [1, 0, 2] ∧
      deposits.countP (·.taken?.isSome) = 1 ∧ (opened.paymentsTo 2 interleaved).length = 1 ∧
      (opened.run interleaved).heap.outcome? 2 = some (.ok 3) := by
  intro machine opened deposits
  have called : machine.stack 0 = [.task (.whenAll [0, 1, 0] List.length fun _ => .done)] := rfl
  have withheld : machine.Withheld 0 2 0 :=
    { others := fun other differs frame member => by
        obtain ⟨place, rfl⟩ := Nat.exists_eq_succ_of_ne_zero differs
        exact absurd member List.not_mem_nil
      below := nofun
      stored := fun promise callback member => by
        match promise, member with
        | 0, member => exact absurd member List.not_mem_nil
        | 1, member => exact absurd member List.not_mem_nil
        | _ + 2, member => exact absurd member List.not_mem_nil }
  have refrains : ∀ act ∈ [] ++ interleaved, act.Refrains 2 0 := by
    intro act member
    rw [List.nil_append, interleaved] at member
    rcases List.mem_append.1 member with early | later
    · rw [List.eq_of_mem_replicate early]
      trivial
    · rcases List.mem_cons.1 later with rfl | late
      · exact .settle (by decide) fun _ => .done
      · obtain ⟨pair, there, member⟩ := List.mem_flatten.1 late
        rw [List.eq_of_mem_replicate there] at member
        simp only [List.mem_cons, List.not_mem_nil, or_false] at member
        rcases member with rfl | rfl <;> trivial
  have one := one_deposit_is_last called (by simp) (by decide +kernel) List.not_mem_nil withheld
    .done refrains
  obtain ⟨_, _, last, _, _, ends⟩ := one
  have quiet : (opened.run interleaved).Quiet := by decide +kernel
  obtain ⟨all, once⟩ := ends quiet (by decide +kernel)
  exact ⟨quiet, by decide +kernel, last.trans (if_pos all), once, by decide +kernel⟩

end Machine

end HttpEngine
