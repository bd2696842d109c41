import HttpEngine.Fault.Error

/-!
The cell behind a promise: no outcome and some callbacks, or an outcome and no callbacks. Its two
sections, settling and subscribing, each happen at once.
-/

namespace HttpEngine

/-- What a promise comes to: a value, or the error that it was rejected with. -/
abbrev Outcome (α : Type) := Except Error α

/-- What can be seen of a promise. -/
inductive PromiseState where
  | pending
  | fulfilled
  | rejected
  deriving DecidableEq, Repr

namespace PromiseState

/-- The name of a state. -/
def name : PromiseState → String
  | pending => "Pending"
  | fulfilled => "Fulfilled"
  | rejected => "Rejected"

/-- The state that an outcome, or the lack of one, is seen as. -/
def ofOutcome? {α : Type} : Option (Outcome α) → PromiseState
  | none => pending
  | some (.ok _) => fulfilled
  | some (.error _) => rejected

/-- The state as part of the description of the promise or its resolver. -/
def describe (state : PromiseState) (holder : String) : String :=
  holder ++ " \x7b state: " ++ state.name ++ " \x7d"

end PromiseState

/--
A single-assignment cell, with the callbacks that wait for its outcome in the order they came.
-/
structure Cell (α κ : Type) where
  outcome? : Option (Outcome α) := none
  callbacks : List κ := []

namespace Cell

variable {α κ : Type}

/-- A cell that waits for its outcome. -/
def pending : Cell α κ := {}

/--
The settling of a cell: it takes the outcome and gives up its callbacks.

A cell that has an outcome keeps it, and there is nothing to give up.
-/
def settle? (cell : Cell α κ) (outcome : Outcome α) : Option (Cell α κ × List κ) :=
  match cell.outcome? with
  | some _ => none
  | none => some (⟨some outcome, []⟩, cell.callbacks)

/-- The subscribing of a callback: it waits in the cell, or is told the outcome that is there. -/
def subscribe (cell : Cell α κ) (callback : κ) : Cell α κ × Option (Outcome α) :=
  match cell.outcome? with
  | some outcome => (cell, some outcome)
  | none => ({ cell with callbacks := cell.callbacks ++ [callback] }, none)

/-- A cell is settled at most once. -/
theorem settle?_eq_none_iff {cell : Cell α κ} {outcome : Outcome α} :
    cell.settle? outcome = none ↔ cell.outcome?.isSome := by
  -- Only the outcome decides whether there is another settling.
  unfold settle?
  split <;> simp_all

/-- Subscribing does not change the outcome. -/
@[simp] theorem outcome?_subscribe (cell : Cell α κ) (callback : κ) :
    (cell.subscribe callback).1.outcome? = cell.outcome? := by
  unfold subscribe
  split <;> simp_all

end Cell

end HttpEngine
