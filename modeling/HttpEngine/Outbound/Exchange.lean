import HttpEngine.Message.Request
import HttpEngine.Time.Instant

/-! Requests on their way to an answer. -/

namespace HttpEngine

/-- A request that waits for a connection, or travels over one. -/
structure Exchange where
  /-- The promise of the response. -/
  promise : Nat
  request : Request
  authority : String
  timeout : Duration
  deadline : Instant
  /-- Whether a connection was lost under it once already. -/
  retried : Bool := false
  deriving DecidableEq, Repr

namespace Exchange

/-- Whether the deadline has come. -/
def isExpired (exchange : Exchange) (now : Instant) : Bool :=
  exchange.deadline.notAfter now

/--
How often an exchange can be handed to a connection: once, and once more if it was not retried.
-/
def chances (exchange : Exchange) : Nat :=
  if exchange.retried then 1 else 2

/-- How often exchanges can be handed to connections, all together. -/
def totalChances : List Exchange → Nat
  | [] => 0
  | exchange :: rest => exchange.chances + totalChances rest

/-- The exchange on its second way. -/
def again (exchange : Exchange) : Exchange := { exchange with retried := true }

/-- Every exchange has a chance. -/
theorem chances_pos (exchange : Exchange) : 0 < exchange.chances := by
  unfold chances
  split <;> decide

/-- The second way takes one chance away. -/
theorem chances_again {exchange : Exchange} (fresh : exchange.retried = false) :
    exchange.again.chances < exchange.chances := by
  simp [chances, again, fresh]

end Exchange

end HttpEngine
