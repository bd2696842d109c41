/-! UTF-8: the bytes of a text, and the text of bytes, with or without a mark for what is broken. -/

namespace HttpEngine

/-- Bytes, as they arrive and leave. -/
abbrev Bytes := List UInt8

/-- The bytes of a text, one character after the other. -/
def utf8Bytes (text : String) : Bytes :=
  text.toList.flatMap String.utf8EncodeChar

/-- What a run of bytes holds at one place: a character, or bytes that make none. -/
inductive Utf8Piece where
  | char (c : Char)
  | broken
  deriving DecidableEq, Repr

/-- A character that has begun: its bits so far, and what its next byte may be. -/
structure Utf8Partial where
  /-- How many bytes it still needs. -/
  owed : Nat
  /-- The bits collected so far. -/
  bits : Nat
  /-- The least byte that may come next. -/
  low : Nat
  /-- The greatest byte that may come next. -/
  high : Nat
  deriving DecidableEq, Repr

/-- What a first byte starts. -/
inductive Utf8Start where
  | whole (c : Char)
  | begun (state : Utf8Partial)
  | stray
  deriving DecidableEq, Repr

/--
What a byte starts when no character is pending.

The bounds on the second byte leave out every longer spelling of a short character, the surrogates,
and the numbers past the last code point.
-/
def utf8Start (byte : UInt8) : Utf8Start :=
  let n := byte.toNat
  if n < 0x80 then .whole (Char.ofNat n)
  -- A byte that goes on with a character cannot start one.
  else if n < 0xC2 then .stray
  else if n < 0xE0 then .begun ⟨1, n - 0xC0, 0x80, 0xBF⟩
  else if n < 0xF0 then
    .begun ⟨2, n - 0xE0, if n = 0xE0 then 0xA0 else 0x80, if n = 0xED then 0x9F else 0xBF⟩
  else if n < 0xF5 then
    .begun ⟨3, n - 0xF0, if n = 0xF0 then 0x90 else 0x80, if n = 0xF4 then 0x8F else 0xBF⟩
  else .stray

/--
The pieces of a run of bytes, with a character possibly pending from before.

A byte that does not fit ends the pending character as one broken piece, and is looked at again as
a first byte, so that every broken piece is as long as it can be.
-/
def utf8Scan : Option Utf8Partial → Bytes → List Utf8Piece
  | none, [] => []
  | some _, [] => [.broken]
  | none, byte :: rest =>
    match utf8Start byte with
    | .whole c => .char c :: utf8Scan none rest
    | .begun state => utf8Scan (some state) rest
    | .stray => .broken :: utf8Scan none rest
  | some state, byte :: rest =>
    let n := byte.toNat
    if state.low ≤ n ∧ n ≤ state.high then
      -- Each further byte brings six bits.
      let bits := state.bits * 64 + (n - 0x80)
      if state.owed ≤ 1 then .char (Char.ofNat bits) :: utf8Scan none rest
      else utf8Scan (some ⟨state.owed - 1, bits, 0x80, 0xBF⟩) rest
    else
      -- The pending character is given up, and the byte may start the next one.
      match utf8Start byte with
      | .whole c => .broken :: .char c :: utf8Scan none rest
      | .begun next => .broken :: utf8Scan (some next) rest
      | .stray => .broken :: .broken :: utf8Scan none rest

/-- The pieces of a run of bytes. -/
def utf8Pieces (bytes : Bytes) : List Utf8Piece :=
  utf8Scan none bytes

/-- The character of a piece that is one. -/
def Utf8Piece.char? : Utf8Piece → Option Char
  | .char c => some c
  | .broken => none

/-- A piece as a character, with the replacement character where there is none. -/
def Utf8Piece.shown : Utf8Piece → Char
  | .char c => c
  | .broken => '\uFFFD'

/-- The text that bytes spell, if every one of them belongs to a character. -/
def utf8Text? (bytes : Bytes) : Option String :=
  ((utf8Pieces bytes).mapM Utf8Piece.char?).map String.ofList

/-- The text that bytes spell, with one replacement character for each broken piece. -/
def utf8TextLossy (bytes : Bytes) : String :=
  String.ofList ((utf8Pieces bytes).map Utf8Piece.shown)

example : utf8Text? [0xE2, 0x82, 0xAC] = some "€" := by decide +kernel
example : utf8TextLossy [0xE2, 0x82, 0x41, 0xFF] = "\uFFFDA\uFFFD" := by decide +kernel

end HttpEngine
