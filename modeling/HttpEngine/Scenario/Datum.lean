/-! Plain data: what scripted promises hold, and the small functions that scripts apply to it. -/

namespace HttpEngine

/-- Plain data, as trees of lists and named members over scalars. -/
inductive Datum where
  | null
  | bool (value : Bool)
  | int (value : Int)
  | text (value : String)
  | list (items : List Datum)
  | object (members : List (String × Datum))
  deriving Inhabited

/-- An integer that a signed word of sixty-four bits holds. -/
def isWordInt (n : Int) : Bool :=
  decide (-0x8000000000000000 ≤ n) && decide (n < 0x8000000000000000)

/-- The functions that scripts apply to data. -/
inductive Transform where
  | add (amount : Int)
  | multiply (factor : Int)
  | concat (suffix : String)
  | wrap
  | const (value : Datum)
  | keep
  deriving Inhabited

namespace Transform

/-- Arithmetic on integers of one word, which wraps around, and nothing for other data. -/
def arithmetic (f : Int → Int) : Datum → Datum
  | .int n => if isWordInt n then .int (Int.bmod (f n) 0x10000000000000000) else .null
  | _ => .null

/-- What a function makes of data. -/
def apply : Transform → Datum → Datum
  | add amount, value => arithmetic (· + amount) value
  | multiply factor, value => arithmetic (· * factor) value
  | concat suffix, .text text => .text (text ++ suffix)
  | concat suffix, _ => .text suffix
  | wrap, value => .list [value]
  | const constant, _ => constant
  | keep, value => value

example : (add 1).apply (.int 0x7fffffffffffffff) = .int (-0x8000000000000000) := rfl

end Transform

end HttpEngine
