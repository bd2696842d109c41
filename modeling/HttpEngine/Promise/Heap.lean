import HttpEngine.Promise.Gather

/-!
Running code over promises. A task is code cut at the points where it touches what threads share,
and each touch happens at once. Callbacks run outside the cells, on the stack of the thread that
settled the promise, or that subscribed to a promise already settled.
-/

namespace HttpEngine

/--
Code that touches promises, up to its next touch.

`α` is the type of the values, and `σ` that of whatever else the code keeps and shares.
-/
inductive Task (α σ : Type) where
  /-- Nothing more to do. -/
  | done
  /-- A new pending promise. -/
  | create (next : Nat → Task α σ)
  /-- The settling of a promise. The code goes on after the callbacks, and is told of a refusal. -/
  | settle (promise : Nat) (outcome : Except Error α) (next : Bool → Task α σ)
  /-- A callback for the outcome of a promise. -/
  | subscribe (promise : Nat) (callback : Except Error α → Task α σ) (next : Task α σ)
  /-- A look at a promise. -/
  | peek (promise : Nat) (next : Option (Except Error α) → Task α σ)
  /-- New slots for a number of outcomes. -/
  | gather (size : Nat) (next : Nat → Task α σ)
  /-- A deposit in gathered slots, with the slots if it was the last. -/
  | deposit (gather index : Nat) (outcome : Except Error α)
      (next : Option (List (Option (Except Error α))) → Task α σ)
  /-- A new race, which nobody has won. -/
  | race (next : Nat → Task α σ)
  /-- The entry into a race, won by whoever is first. -/
  | enter (race : Nat) (next : Bool → Task α σ)
  /-- A change of what else is shared, and a look at it as it was before. -/
  | update (change : σ → σ) (next : σ → Task α σ)

/-- What waits in a cell: the number of its registration, and the code for the outcome. -/
structure Callback (α σ : Type) where
  ticket : Nat
  code : Outcome α → Task α σ

/-- One entry on the stack of a thread. -/
inductive Frame (α σ : Type) where
  | task (code : Task α σ)
  /-- A callback that is due, for the outcome of its promise. -/
  | call (promise : Nat) (outcome : Outcome α) (callback : Callback α σ)

/-- What happened to promises, in the order in which it did. -/
inductive Occurrence (α : Type) where
  | registered (promise ticket : Nat)
  | settled (promise : Nat) (outcome : Outcome α)
  | refused (promise : Nat)
  | started (promise ticket : Nat) (outcome : Outcome α)

/-- What threads share. Promises, slots and races are known by their positions. -/
structure Heap (α σ : Type) where
  cells : List (Cell α (Callback α σ)) := []
  gathers : List (Gather α) := []
  /-- Whether a race has been won. -/
  races : List Bool := []
  shared : σ
  /-- The number that the next registration gets. -/
  tickets : Nat := 0
  journal : List (Occurrence α) := []

namespace Heap

variable {α σ : Type}

/-- The outcome of a promise, if it has one. -/
def outcome? (heap : Heap α σ) (promise : Nat) : Option (Outcome α) :=
  heap.cells[promise]?.bind Cell.outcome?

/-- One more entry in the journal. -/
def record (heap : Heap α σ) (occurrence : Occurrence α) : Heap α σ :=
  { heap with journal := heap.journal ++ [occurrence] }

/-- The settling of a promise: the callbacks that become due, unless it is refused. -/
def settle (heap : Heap α σ) (promise : Nat) (outcome : Outcome α) :
    Heap α σ × Option (List (Callback α σ)) :=
  match heap.cells[promise]?.bind (·.settle? outcome) with
  | some (cell, due) =>
    ({ heap with cells := heap.cells.set promise cell }.record (.settled promise outcome), some due)
  | none => (heap.record (.refused promise), none)

/-- The registration of a callback: the outcome that it is due for, if the promise has one. -/
def subscribe (heap : Heap α σ) (promise : Nat) (callback : Callback α σ) :
    Heap α σ × Option (Outcome α) :=
  match heap.cells[promise]? with
  | some cell =>
    -- A callback gets its number whether it waits or is due at once.
    let (cell, ready) := cell.subscribe callback
    ({ heap with cells := heap.cells.set promise cell, tickets := heap.tickets + 1 }.record
      (.registered promise callback.ticket), ready)
  | none => (heap, none)

/-- One touch of what is shared, and the frames that take the place of the code that did it. -/
def perform (heap : Heap α σ) : Task α σ → Heap α σ × List (Frame α σ)
  | .done => (heap, [])
  | .create next =>
    ({ heap with cells := heap.cells ++ [.pending] }, [.task (next heap.cells.length)])
  | .settle promise outcome next =>
    match heap.settle promise outcome with
    -- The callbacks come before whatever the settling code does next.
    | (heap, some due) => (heap, due.map (.call promise outcome) ++ [.task (next true)])
    | (heap, none) => (heap, [.task (next false)])
  | .subscribe promise code next =>
    let callback := ⟨heap.tickets, code⟩
    match heap.subscribe promise callback with
    | (heap, some outcome) => (heap, [.call promise outcome callback, .task next])
    | (heap, none) => (heap, [.task next])
  | .peek promise next => (heap, [.task (next (heap.outcome? promise))])
  | .gather size next =>
    ({ heap with gathers := heap.gathers ++ [.ofSize size] }, [.task (next heap.gathers.length)])
  | .deposit gather index outcome next =>
    match heap.gathers[gather]? with
    | some found =>
      let (found, slots) := found.deposit index outcome
      ({ heap with gathers := heap.gathers.set gather found }, [.task (next slots)])
    | none => (heap, [.task (next none)])
  | .race next =>
    ({ heap with races := heap.races ++ [false] }, [.task (next heap.races.length)])
  | .enter race next =>
    -- Looking who was first and taking the place is one touch.
    let first := heap.races[race]? == some false
    ({ heap with races := heap.races.set race true }, [.task (next first)])
  | .update change next =>
    ({ heap with shared := change heap.shared }, [.task (next heap.shared)])

/-- One step of one frame. A callback that is due starts by being taken note of. -/
def step (heap : Heap α σ) : Frame α σ → Heap α σ × List (Frame α σ)
  | .task code => heap.perform code
  | .call promise outcome callback =>
    (heap.record (.started promise callback.ticket outcome), [.task (callback.code outcome)])

/-- The steps of one thread, one after the other, as far as the fuel goes. -/
def run : Nat → Heap α σ → List (Frame α σ) → Heap α σ × List (Frame α σ)
  | 0, heap, stack => (heap, stack)
  | _ + 1, heap, [] => (heap, [])
  | fuel + 1, heap, frame :: stack =>
    -- What a step leads to is done before anything that waited below it.
    let (heap, frames) := heap.step frame
    run fuel heap (frames ++ stack)

end Heap

/-- Several threads over one heap, each with its stack. -/
structure Machine (α σ : Type) where
  heap : Heap α σ
  threads : List (List (Frame α σ)) := []

namespace Machine

variable {α σ : Type}

/-- One step of one thread, which the scheduler is free to choose. -/
def step (machine : Machine α σ) (thread : Nat) : Machine α σ :=
  match machine.threads[thread]? with
  | some (frame :: stack) =>
    let (heap, frames) := machine.heap.step frame
    ⟨heap, machine.threads.set thread (frames ++ stack)⟩
  | _ => machine

/-- No thread has anything left to do, so that no call is in progress. -/
def Quiet (machine : Machine α σ) : Prop :=
  ∀ stack ∈ machine.threads, stack = []

end Machine

end HttpEngine
