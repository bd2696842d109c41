import HttpEngine.Promise.Cell

/-! What a wait with a limit comes to. -/

namespace HttpEngine

/-- How a wait ends: with the promise settled, or with the limit. -/
inductive WaitResult (α : Type) where
  | resolved (value : α)
  | rejected (error : Error)
  | timedOut

namespace WaitResult

variable {α : Type}

/-- The end of a wait after which the promise is seen like this. -/
def ofOutcome? : Option (Outcome α) → WaitResult α
  | some (.ok value) => resolved value
  | some (.error error) => rejected error
  | none => timedOut

/-- Whether the wait ended with the limit. -/
def isTimedOut : WaitResult α → Bool
  | timedOut => true
  | _ => false

/-- The end of a wait of some length as an outcome: the limit is a time-out. -/
def toOutcome (result : WaitResult α) (waited : Duration) : Outcome α :=
  match result with
  | resolved value => .ok value
  | rejected error => .error error
  | timedOut => .error (.timeout waited)

end WaitResult

end HttpEngine
