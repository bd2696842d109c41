/-! The white space characters of Unicode, and the cutting of white space from both ends of a text. -/

namespace HttpEngine

/-- The code points with the White_Space property, as ranges with both ends included. -/
def blankRanges : List (Nat × Nat) :=
  [(0x09, 0x0D), (0x20, 0x20), (0x85, 0x85), (0xA0, 0xA0), (0x1680, 0x1680), (0x2000, 0x200A),
   (0x2028, 0x2029), (0x202F, 0x202F), (0x205F, 0x205F), (0x3000, 0x3000)]

/-- A character is blank when its code point lies in one of the white space ranges. -/
def isBlank (c : Char) : Bool :=
  blankRanges.any fun range => decide (range.1 ≤ c.toNat) && decide (c.toNat ≤ range.2)

/-- The characters left when the blank ones at both ends are gone. -/
def trimBlanks (text : List Char) : List Char :=
  -- The back is cut by cutting the front of the reversed text.
  ((text.dropWhile isBlank).reverse.dropWhile isBlank).reverse

/-- A text without the white space at its two ends. -/
def trimText (text : String) : String :=
  String.ofList (trimBlanks text.toList)

/-- There are twenty-five blank characters. -/
example : (blankRanges.map fun range => range.2 + 1 - range.1).sum = 25 := by decide

end HttpEngine
