import HttpEngine.Text.Ascii

/-! Unsigned decimal numbers: the digits of a number, and the reading of a number below a limit. -/

namespace HttpEngine

/-- The decimal digits of a number, without leading zeros. -/
def decimal (n : Nat) : String :=
  n.repr

/-- The value of a nonempty run of ASCII digits, and nothing for any other text. -/
def digitsValue? (digits : List Char) : Option Nat :=
  if digits.isEmpty then none
  else if digits.all isAsciiDigit then some (Nat.ofDigitChars 10 digits 0)
  else none

/--
The number that a text denotes, when it is below the limit.

One plus sign may stand before the digits, and zeros may stand in front of the others.
-/
def readUnsigned? (limit : Nat) (text : String) : Option Nat :=
  let digits := match text.toList with
    | '+' :: rest => rest
    | whole => whole
  (digitsValue? digits).filter (· < limit)

/-- One more than the greatest number that a machine word of sixty-four bits holds. -/
def wordLimit : Nat := 0x10000000000000000

/-- What is written for a number is read as that number. -/
theorem digitsValue?_toList_decimal (n : Nat) : digitsValue? (decimal n).toList = some n := by
  have nonempty : Nat.toDigits 10 n ≠ [] := Nat.toDigits_ne_nil
  have allDigits : (Nat.toDigits 10 n).all isAsciiDigit = true := by
    simp only [List.all_eq_true]
    intro c member
    have digit := Nat.isDigit_of_mem_toDigits (b := 10) (by decide) (by decide) member
    simpa [isAsciiDigit, Char.isDigit, Char.le_def] using digit
  simp [digitsValue?, decimal, nonempty, allDigits, Nat.ofDigitChars_toDigits]

end HttpEngine
