import HttpEngine.Fault.Wire
import HttpEngine.Text.Utf8

/-! Reading at the front of bytes that may not all be there yet, and the classes of bytes. -/

namespace HttpEngine

/--
What comes of reading something at the front of some bytes.

`more` means that the bytes so far may still grow into it, and `wrong` that they never can.
-/
inductive Scan (α : Type) where
  | found (value : α) (rest : Bytes)
  | more
  | wrong (fault : HeadError)
  deriving DecidableEq, Repr

namespace Scan

/-- One reading after another. -/
def andThen {α β : Type} (scan : Scan α) (next : α → Bytes → Scan β) : Scan β :=
  match scan with
  | found value rest => next value rest
  | more => more
  | wrong fault => wrong fault

/-- A reading whose value is made into another. -/
def map {α β : Type} (f : α → β) (scan : Scan α) : Scan β :=
  scan.andThen fun value rest => found (f value) rest

end Scan

/-- The bytes of a token: letters, digits, and fifteen other signs. -/
def isTokenByte (b : UInt8) : Bool :=
  (0x30 ≤ b && b ≤ 0x39) || (0x41 ≤ b && b ≤ 0x5A) || (0x61 ≤ b && b ≤ 0x7A)
    || [0x21, 0x23, 0x24, 0x25, 0x26, 0x27, 0x2A, 0x2B, 0x2D, 0x2E, 0x5E, 0x5F, 0x60, 0x7C,
        0x7E].contains b

/-- The bytes of a request target: everything visible, and everything beyond ASCII. -/
def isTargetByte (b : UInt8) : Bool :=
  (0x21 ≤ b && b ≤ 0x7E) || 0x80 ≤ b

/-- The bytes of a header value or a reason phrase: those of a target, the space and the tab. -/
def isTextByte (b : UInt8) : Bool :=
  b == 0x09 || (0x20 ≤ b && b ≤ 0x7E) || 0x80 ≤ b

/-- The space and the tab. -/
def isPadByte (b : UInt8) : Bool :=
  b == 0x20 || b == 0x09

/-- The characters of bytes that are ASCII. -/
def asciiText (bytes : Bytes) : String :=
  String.ofList (bytes.map fun b => Char.ofNat b.toNat)

/-- The end of a line: a line feed, or a carriage return and a line feed. -/
def scanLineEnd (fault : HeadError) : Bytes → Scan Unit
  | [] => .more
  | first :: rest =>
    if first = 0x0A then .found () rest
    else if first = 0x0D then
      match rest with
      | [] => .more
      | second :: rest => if second = 0x0A then .found () rest else .wrong fault
    else .wrong fault

end HttpEngine
