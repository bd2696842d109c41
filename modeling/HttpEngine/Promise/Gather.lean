import HttpEngine.Promise.Cell

/-!
The slots in which the outcomes of several promises are gathered. Every deposit fills a slot and
counts down, and the deposit that counts down to nothing takes the slots away.
-/

namespace HttpEngine

/-- The slots for the outcomes of some promises, and the number of outcomes still to come. -/
structure Gather (α : Type) where
  slots : List (Option (Outcome α))
  remaining : Nat

namespace Gather

variable {α : Type}

/-- Empty slots for a number of outcomes. -/
def ofSize (size : Nat) : Gather α :=
  ⟨List.replicate size none, size⟩

/-- One deposit, which happens at once. The last one takes all slots. -/
def deposit (gather : Gather α) (index : Nat) (outcome : Outcome α) :
    Gather α × Option (List (Option (Outcome α))) :=
  let slots := gather.slots.set index (some outcome)
  if gather.remaining = 1 then (⟨[], 0⟩, some slots)
  else (⟨slots, gather.remaining - 1⟩, none)

/-- The values of outcomes in their order, or the error of the first outcome that is one. -/
def valuesOf : List (Outcome α) → Outcome (List α)
  | [] => .ok []
  | .error error :: _ => .error error
  | .ok value :: rest =>
    match valuesOf rest with
    | .ok values => .ok (value :: values)
    | .error error => .error error

/-- What gathered slots come to. -/
def collect (slots : List (Option (Outcome α))) : Outcome (List α) :=
  valuesOf (slots.filterMap id)

end Gather

end HttpEngine
