import HttpEngine.Text.Unprintable

/-! Quoted text: a text between double quotes, with every character that would mislead escaped. -/

namespace HttpEngine

/-- The digits of a code point in lowercase hexadecimal, without leading zeros. -/
def hexDigits (n : Nat) : List Char :=
  Nat.toDigits 16 n

/-- The characters that stand for one character inside a quotation. -/
def quoteChar (c : Char) : List Char :=
  match c with
  | '\t' => ['\\', 't']
  | '\r' => ['\\', 'r']
  | '\n' => ['\\', 'n']
  | '\x00' => ['\\', '0']
  | '\\' => ['\\', '\\']
  | '\x22' => ['\\', '\x22']
  -- Anything else is shown as it is, or by the number of its code point.
  | c => if isPrintable c then [c] else ['\\', 'u', '\x7b'] ++ hexDigits c.toNat ++ ['\x7d']

/-- A text between double quotes, one character after the other. -/
def quoted (text : String) : String :=
  String.ofList (['\x22'] ++ text.toList.flatMap quoteChar ++ ['\x22'])

example : quoted "a\t'é" = "\x22a\\t'é\x22" := by decide +kernel

end HttpEngine
