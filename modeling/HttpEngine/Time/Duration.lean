import HttpEngine.Text.Decimal

/-! Lengths of time in whole nanoseconds, and their text. -/

namespace HttpEngine

/-- A length of time, in nanoseconds. -/
structure Duration where
  nanos : Nat
  deriving DecidableEq, Repr, Inhabited

namespace Duration

/-- The length of a number of seconds. -/
def ofSecs (secs : Nat) : Duration := ⟨secs * 1000000000⟩

/-- The length of a number of milliseconds. -/
def ofMillis (millis : Nat) : Duration := ⟨millis * 1000000⟩

/--
The greatest length: all seconds that a machine word counts, and one nanosecond less than one more.
-/
def longest : Duration := ⟨0xffffffffffffffff * 1000000000 + 999999999⟩

/-- No time at all. -/
def isZero (d : Duration) : Bool := d.nanos == 0

/-- The shorter of two lengths. -/
def shorter (a b : Duration) : Duration := if a.nanos ≤ b.nanos then a else b

/--
A unit that lengths are written in: its nanoseconds, the decimals that they take, and its sign.
-/
structure TextUnit where
  nanos : Nat
  decimals : Nat
  sign : String
  deriving DecidableEq, Repr

/-- The units above the nanosecond, the largest first. -/
def textUnits : List TextUnit :=
  [⟨1000000000, 9, "s"⟩, ⟨1000000, 6, "ms"⟩, ⟨1000, 3, "µs"⟩]

/-- The digits of a fraction in a given number of places, without the zeros at their end. -/
def fractionDigits (places value : Nat) : List Char :=
  -- Zeros in front belong to the fraction, and zeros behind do not.
  let digits := Nat.toDigits 10 value
  let padded := List.replicate (places - digits.length) '0' ++ digits
  (padded.reverse.dropWhile (· == '0')).reverse

/-- A length is written in the largest unit that it holds at least once, and else in nanoseconds. -/
def text (d : Duration) : String :=
  match textUnits.find? (fun unit => unit.nanos ≤ d.nanos) with
  | none => decimal d.nanos ++ "ns"
  | some unit =>
    let whole := decimal (d.nanos / unit.nanos)
    -- The part below the unit is written only if there is one.
    let fraction := fractionDigits unit.decimals (d.nanos % unit.nanos)
    if fraction.isEmpty then whole ++ unit.sign
    else whole ++ "." ++ String.ofList fraction ++ unit.sign

example : (⟨90000000050⟩ : Duration).text = "90.00000005s" := by decide +kernel
example : (⟨1001⟩ : Duration).text = "1.001µs" := by decide +kernel
example : (⟨0⟩ : Duration).text = "0ns" := by decide +kernel

end Duration

end HttpEngine
