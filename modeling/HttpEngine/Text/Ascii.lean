/-! ASCII letters, digits and the comparison of names that ignores the case of ASCII letters. -/

namespace HttpEngine

/--
The characters of a text with every ASCII capital letter made small, and nothing else changed.
-/
def foldCase (text : String) : List Char :=
  text.toList.map Char.toLower

/-- Two names are the same when they differ at most in the case of ASCII letters. -/
def sameName (left right : String) : Bool :=
  foldCase left == foldCase right

/-- Sameness of names is equality of their folded characters. -/
theorem sameName_iff {left right : String} :
    sameName left right = true ↔ foldCase left = foldCase right := by
  simp [sameName]

/-- Every name is the same as itself. -/
@[simp] theorem sameName_self (name : String) : sameName name name = true := by
  simp [sameName]

/-- Two names are the same in either order. -/
theorem sameName_comm (left right : String) : sameName left right = sameName right left := by
  rw [sameName, sameName, BEq.comm]

/-- Names that are the same are the same as the same other names. -/
theorem sameName_congr {left right : String} (same : sameName left right = true) (name : String) :
    sameName name left = sameName name right := by
  rw [sameName, sameName, sameName_iff.1 same]

/-- The ASCII digits are the ten characters from zero to nine. -/
def isAsciiDigit (c : Char) : Bool :=
  decide ('0' ≤ c) && decide (c ≤ '9')

end HttpEngine
