import HttpEngine.Text.Blank
import HttpEngine.Text.Decimal
import HttpEngine.Text.Utf8
import HttpEngine.Wire.Scan

/-!
Texts are read back from their bytes, and the bytes of a text are those of its characters. Bytes
that spell a text are the bytes of that text, so that nothing else is read as it.
-/

namespace HttpEngine

/-- Texts that follow upon each other are spelled one behind the other. -/
@[simp] theorem utf8Bytes_append (text other : String) :
    utf8Bytes (text ++ other) = utf8Bytes text ++ utf8Bytes other := by
  simp [utf8Bytes, String.toList_append]

/-- A text without characters is spelled by no bytes. -/
@[simp] theorem utf8Bytes_empty : utf8Bytes "" = [] := rfl

/-- A number that a byte holds is what the byte stands for. -/
theorem toNat_byte {n : Nat} (small : n < 256) : (UInt8.ofNat n).toNat = n :=
  UInt8.toNat_ofNat_of_lt' small

/-- A byte that fits ends a character that needs just one more. -/
theorem utf8Scan_last {bits low high n : Nat} (fits : low ≤ n ∧ n ≤ high) (small : n < 256)
    (rest : Bytes) :
    utf8Scan (some ⟨1, bits, low, high⟩) (.ofNat n :: rest) =
      .char (Char.ofNat (bits * 64 + (n - 0x80))) :: utf8Scan none rest := by
  simp only [utf8Scan, toNat_byte small]
  rw [if_pos fits, if_pos (Nat.le_refl 1)]

/-- A byte that fits brings six bits to a character that needs others after it. -/
theorem utf8Scan_further {owed bits low high n : Nat} (more : 1 < owed) (fits : low ≤ n ∧ n ≤ high)
    (small : n < 256) (rest : Bytes) :
    utf8Scan (some ⟨owed, bits, low, high⟩) (.ofNat n :: rest) =
      utf8Scan (some ⟨owed - 1, bits * 64 + (n - 0x80), 0x80, 0xBF⟩) rest := by
  simp only [utf8Scan, toNat_byte small]
  rw [if_pos fits, if_neg (by omega)]

/-- A byte that is a character on its own is that character. -/
theorem utf8Scan_whole {byte : UInt8} {c : Char} (start : utf8Start byte = .whole c)
    (rest : Bytes) : utf8Scan none (byte :: rest) = .char c :: utf8Scan none rest := by
  simp only [utf8Scan, start]

/-- A first byte begins a character. -/
theorem utf8Scan_begun {byte : UInt8} {state : Utf8Partial}
    (start : utf8Start byte = .begun state) (rest : Bytes) :
    utf8Scan none (byte :: rest) = utf8Scan (some state) rest := by
  simp only [utf8Scan, start]

/-- A character is read from the front of bytes that begin with its own. -/
theorem utf8Scan_encodeChar (c : Char) (rest : Bytes) :
    utf8Scan none (String.utf8EncodeChar c ++ rest) = .char c :: utf8Scan none rest := by
  -- There are four lengths, and the bounds on the second byte let in all that is a character.
  have whole : Char.ofNat c.val.toNat = c := Char.ofNat_toNat c
  have valid : c.val.toNat < 0xD800 ∨ 0xDFFF < c.val.toNat ∧ c.val.toNat < 0x110000 := c.valid
  unfold String.utf8EncodeChar
  generalize c.val.toNat = v at whole valid
  dsimp only
  split
  · have start : utf8Start (.ofNat v) = .whole c := by
      simp only [utf8Start, toNat_byte (show v < 256 by omega), whole]
      rw [if_pos (by omega)]
    exact utf8Scan_whole start rest
  · split
    · have start : utf8Start (.ofNat (v / 64 % 0x20 + 0xC0)) =
          .begun ⟨1, v / 64 % 0x20, 0x80, 0xBF⟩ := by
        simp only [utf8Start, toNat_byte (show v / 64 % 0x20 + 0xC0 < 256 by omega)]
        rw [if_neg (by omega), if_neg (by omega), if_pos (by omega)]
        simp
      -- The first byte holds five bits, and the second one the six behind them.
      have bits : v / 64 % 0x20 * 64 + (v % 64 + 128 - 0x80) = v := by omega
      rw [List.cons_append, utf8Scan_begun start, List.singleton_append,
        utf8Scan_last (by omega) (by omega), bits, whole]
    · split
      · -- The first byte may raise the least second byte, or lower the greatest one.
        have start : utf8Start (.ofNat (v / 4096 % 16 + 0xE0)) =
            .begun ⟨2, v / 4096 % 16, if v / 4096 % 16 + 0xE0 = 0xE0 then 0xA0 else 0x80,
              if v / 4096 % 16 + 0xE0 = 0xED then 0x9F else 0xBF⟩ := by
          simp only [utf8Start, toNat_byte (show v / 4096 % 16 + 0xE0 < 256 by omega)]
          rw [if_neg (by omega), if_neg (by omega), if_neg (by omega), if_pos (by omega)]
          simp
        have second : (if v / 4096 % 16 + 0xE0 = 0xE0 then 0xA0 else 0x80) ≤ v / 64 % 64 + 128 ∧
            v / 64 % 64 + 128 ≤ if v / 4096 % 16 + 0xE0 = 0xED then 0x9F else 0xBF := by
          split <;> split <;> omega
        -- Four bits and twice six are all bits of the character.
        have bits : (v / 4096 % 16 * 64 + (v / 64 % 64 + 128 - 0x80)) * 64 +
            (v % 64 + 128 - 0x80) = v := by omega
        rw [List.cons_append, utf8Scan_begun start, List.cons_append,
          utf8Scan_further (by omega) second (by omega), List.singleton_append,
          utf8Scan_last (by omega) (by omega), bits, whole]
      · -- The greatest characters need four bytes.
        have start : utf8Start (.ofNat (v / 262144 % 8 + 0xF0)) =
            .begun ⟨3, v / 262144 % 8, if v / 262144 % 8 + 0xF0 = 0xF0 then 0x90 else 0x80,
              if v / 262144 % 8 + 0xF0 = 0xF4 then 0x8F else 0xBF⟩ := by
          simp only [utf8Start, toNat_byte (show v / 262144 % 8 + 0xF0 < 256 by omega)]
          rw [if_neg (by omega), if_neg (by omega), if_neg (by omega), if_neg (by omega),
            if_pos (by omega)]
          simp
        have second : (if v / 262144 % 8 + 0xF0 = 0xF0 then 0x90 else 0x80) ≤
              v / 4096 % 64 + 128 ∧
            v / 4096 % 64 + 128 ≤ if v / 262144 % 8 + 0xF0 = 0xF4 then 0x8F else 0xBF := by
          split <;> split <;> omega
        have bits : ((v / 262144 % 8 * 64 + (v / 4096 % 64 + 128 - 0x80)) * 64 +
            (v / 64 % 64 + 128 - 0x80)) * 64 + (v % 64 + 128 - 0x80) = v := by omega
        rw [List.cons_append, utf8Scan_begun start, List.cons_append,
          utf8Scan_further (by omega) second (by omega), List.cons_append,
          utf8Scan_further (by omega) (by omega) (by omega), List.singleton_append,
          utf8Scan_last (by omega) (by omega), bits, whole]

/-- The pieces of the bytes of characters are the characters. -/
theorem utf8Scan_flatMap (text : List Char) :
    utf8Scan none (text.flatMap String.utf8EncodeChar) = text.map .char := by
  -- One character after the other is read from the front.
  induction text with
  | nil => rfl
  | cons c rest ih => rw [List.flatMap_cons, utf8Scan_encodeChar, ih, List.map_cons]

/-- A text is read back from its bytes. -/
theorem utf8Text?_utf8Bytes (text : String) : utf8Text? (utf8Bytes text) = some text := by
  -- None of the pieces is invalid, so that all of them are characters.
  have chars (list : List Char) :
      (list.map Utf8Piece.char).mapM Utf8Piece.char? = some list := by
    induction list with
    | nil => rfl
    | cons c rest ih => simp [List.mapM_cons, ih, Utf8Piece.char?]
  rw [utf8Text?, utf8Pieces, utf8Bytes, utf8Scan_flatMap, chars, Option.map_some,
    String.ofList_toList]

/-- An ASCII character is one byte. -/
theorem utf8EncodeChar_ascii {c : Char} (ascii : c.toNat < 0x80) :
    String.utf8EncodeChar c = [.ofNat c.toNat] := by
  have small : c.val.toNat ≤ 0x7F := Nat.le_of_lt_succ ascii
  unfold String.utf8EncodeChar
  exact if_pos small

/-- A character is ASCII, or all its bytes are beyond ASCII. -/
theorem utf8EncodeChar_cases (c : Char) :
    c.toNat < 0x80 ∨ ∀ byte ∈ String.utf8EncodeChar c, 0x80 ≤ byte.toNat := by
  show c.val.toNat < 0x80 ∨ _
  unfold String.utf8EncodeChar
  generalize c.val.toNat = v
  dsimp only
  split
  · exact .inl (by omega)
  · -- Each byte of a longer character has its first bit set.
    refine .inr fun byte member => ?_
    split at member
    · simp only [List.mem_cons, List.not_mem_nil, or_false] at member
      rcases member with rfl | rfl <;> rw [toNat_byte (by omega)] <;> omega
    · split at member
      · simp only [List.mem_cons, List.not_mem_nil, or_false] at member
        rcases member with rfl | rfl | rfl <;> rw [toNat_byte (by omega)] <;> omega
      · simp only [List.mem_cons, List.not_mem_nil, or_false] at member
        rcases member with rfl | rfl | rfl | rfl <;> rw [toNat_byte (by omega)] <;> omega

/-- A text whose bytes are ASCII is the text of its bytes. -/
theorem asciiText_utf8Bytes {text : String}
    (ascii : ∀ byte ∈ utf8Bytes text, byte.toNat < 0x80) : asciiText (utf8Bytes text) = text := by
  -- Each character is one byte, and stands for itself.
  have chars (list : List Char)
      (small : ∀ byte ∈ list.flatMap String.utf8EncodeChar, byte.toNat < 0x80) :
      (list.flatMap String.utf8EncodeChar).map (fun byte => Char.ofNat byte.toNat) = list := by
    induction list with
    | nil => rfl
    | cons c rest ih =>
      rw [List.flatMap_cons] at small ⊢
      have others := ih fun byte member => small byte (List.mem_append_right _ member)
      rcases utf8EncodeChar_cases c with below | beyond
      · rw [List.map_append, others, utf8EncodeChar_ascii below, List.map_singleton,
          toNat_byte (by omega), List.singleton_append, Char.ofNat_toNat]
      · -- A longer character would have brought bytes that are not ASCII.
        obtain ⟨byte, member⟩ := List.exists_mem_of_ne_nil (String.utf8EncodeChar c)
          String.utf8EncodeChar_ne_nil
        have := beyond byte member
        have := small byte (List.mem_append_left _ member)
        omega
  rw [asciiText, utf8Bytes, chars text.toList ascii, String.ofList_toList]

section Ascii

variable {pending : Option Utf8Partial} {byte : UInt8}

/-- An ASCII byte is a character on its own. -/
theorem utf8Start_ascii (ascii : byte.toNat < 0x80) :
    utf8Start byte = .whole (Char.ofNat byte.toNat) :=
  if_pos ascii

/-- A character that has begun goes on with a byte beyond ASCII. -/
theorem low_of_utf8Start {state : Utf8Partial} (start : utf8Start byte = .begun state) :
    0x80 ≤ state.low := by
  unfold utf8Start at start
  dsimp only at start
  -- Three kinds of first bytes begin a character, and the bounds behind them start there at least.
  repeat' split at start
  all_goals cases start
  all_goals exact Nat.le_of_ble_eq_true rfl

/-- Each byte brings some pieces, and may leave a character that goes on beyond ASCII. -/
theorem utf8Scan_cons (low : ∀ state ∈ pending, 0x80 ≤ state.low) (byte : UInt8) (rest : Bytes) :
    ∃ front next, (∀ state ∈ next, 0x80 ≤ state.low) ∧
      utf8Scan pending (byte :: rest) = front ++ utf8Scan next rest := by
  have fresh : ∀ state ∈ (none : Option Utf8Partial), 0x80 ≤ state.low := by simp
  have begun {state : Utf8Partial} (start : utf8Start byte = .begun state) :
      ∀ other ∈ some state, 0x80 ≤ other.low := by
    simpa using low_of_utf8Start start
  cases pending with
  | none =>
    cases start : utf8Start byte with
    | whole c => exact ⟨[.char c], none, fresh, by simp [utf8Scan, start]⟩
    | begun state => exact ⟨[], some state, begun start, by simp [utf8Scan, start]⟩
    | stray => exact ⟨[.broken], none, fresh, by simp [utf8Scan, start]⟩
  | some state =>
    by_cases fits : state.low ≤ byte.toNat ∧ byte.toNat ≤ state.high
    · -- The byte goes on with the pending character, and may end it.
      by_cases last : state.owed ≤ 1
      · exact ⟨[_], none, fresh, by simp only [utf8Scan, if_pos fits, if_pos last]; rfl⟩
      · refine ⟨[], some ⟨state.owed - 1, state.bits * 64 + (byte.toNat - 0x80), 0x80, 0xBF⟩,
          by simp, ?_⟩
        simp only [utf8Scan, if_pos fits, if_neg last, List.nil_append]
    · cases start : utf8Start byte with
      | whole c => exact ⟨[.broken, .char c], none, fresh, by simp [utf8Scan, fits, start]⟩
      | begun next => exact ⟨[.broken], some next, begun start, by simp [utf8Scan, fits, start]⟩
      | stray => exact ⟨[.broken, .broken], none, fresh, by simp [utf8Scan, fits, start]⟩

/-- An ASCII byte is never a part of a longer character. -/
theorem char_mem_utf8Scan (ascii : byte.toNat < 0x80) {bytes : Bytes} (member : byte ∈ bytes)
    (low : ∀ state ∈ pending, 0x80 ≤ state.low) :
    .char (Char.ofNat byte.toNat) ∈ utf8Scan pending bytes := by
  -- The bytes in front of it are read one by one.
  induction bytes generalizing pending with
  | nil => cases member
  | cons first rest ih =>
    rcases List.mem_cons.1 member with rfl | behind
    · cases pending with
      | none => simp [utf8Scan, utf8Start_ascii ascii]
      | some state =>
        -- What is pending does not go on with it, and is given up.
        have outside : ¬ (state.low ≤ byte.toNat ∧ byte.toNat ≤ state.high) := by
          have := low state rfl
          omega
        simp [utf8Scan, outside, utf8Start_ascii ascii]
    · obtain ⟨front, next, still, pieces⟩ := utf8Scan_cons low first rest
      rw [pieces]
      exact List.mem_append_right _ (ih behind still)

/-- Pieces that are all characters are these characters. -/
theorem map_char_of_mapM {pieces : List Utf8Piece} {chars : List Char}
    (spelled : pieces.mapM Utf8Piece.char? = some chars) : pieces = chars.map .char := by
  induction pieces generalizing chars with
  | nil =>
    cases spelled
    rfl
  | cons piece rest ih =>
    cases piece with
    | broken => simp [Utf8Piece.char?] at spelled
    | char c =>
      cases behind : rest.mapM Utf8Piece.char? with
      | none => simp [Utf8Piece.char?, behind] at spelled
      | some others =>
        simp only [List.mapM_cons, Utf8Piece.char?, behind] at spelled
        cases spelled
        rw [ih behind, List.map_cons]

/-- An ASCII byte in the bytes of a text is a character of the text. -/
theorem mem_of_utf8Text? {bytes : Bytes} {text : String} (spelled : utf8Text? bytes = some text)
    (ascii : byte.toNat < 0x80) (member : byte ∈ bytes) :
    Char.ofNat byte.toNat ∈ text.toList := by
  obtain ⟨chars, pieces, rfl⟩ := Option.map_eq_some_iff.1 spelled
  have found : .char (Char.ofNat byte.toNat) ∈ utf8Pieces bytes :=
    char_mem_utf8Scan ascii member (by simp)
  rw [map_char_of_mapM pieces] at found
  simpa using found

end Ascii

section Spelled

variable {chars : List Char} {bytes : Bytes} {byte : UInt8}

/-- What is broken is no character. -/
theorem broken_cons_ne_map {pieces : List Utf8Piece} : .broken :: pieces ≠ chars.map .char := by
  cases chars <;> simp

/-- A character that has begun goes on within its bounds, if nothing is broken. -/
theorem fits_of_utf8Scan {state : Utf8Partial}
    (spelled : utf8Scan (some state) bytes = chars.map .char) :
    ∃ next rest, bytes = next :: rest ∧ state.low ≤ next.toNat ∧ next.toNat ≤ state.high := by
  cases bytes with
  | nil => exact absurd spelled broken_cons_ne_map
  | cons next rest =>
    by_cases fits : state.low ≤ next.toNat ∧ next.toNat ≤ state.high
    · exact ⟨next, rest, rfl, fits⟩
    · -- What was pending would have been given up as broken.
      simp only [utf8Scan, if_neg fits] at spelled
      split at spelled <;> exact absurd spelled broken_cons_ne_map

/-- A character that needs just one more byte ends with it. -/
theorem last_of_utf8Scan {bits low high : Nat}
    (spelled : utf8Scan (some ⟨1, bits, low, high⟩) bytes = chars.map .char) :
    ∃ next rest others, bytes = next :: rest ∧ (low ≤ next.toNat ∧ next.toNat ≤ high) ∧
      chars = Char.ofNat (bits * 64 + (next.toNat - 0x80)) :: others ∧
      utf8Scan none rest = others.map .char := by
  obtain ⟨next, rest, rfl, fits⟩ := fits_of_utf8Scan spelled
  simp only [utf8Scan, if_pos fits, if_pos (Nat.le_refl 1)] at spelled
  cases chars with
  | nil => cases spelled
  | cons c others =>
    simp only [List.map_cons, List.cons.injEq, Utf8Piece.char.injEq] at spelled
    exact ⟨next, rest, others, rfl, fits, by rw [spelled.1], spelled.2⟩

/-- A character that needs others goes on with six bits. -/
theorem further_of_utf8Scan {owed bits low high : Nat} (more : 1 < owed)
    (spelled : utf8Scan (some ⟨owed, bits, low, high⟩) bytes = chars.map .char) :
    ∃ next rest, bytes = next :: rest ∧ (low ≤ next.toNat ∧ next.toNat ≤ high) ∧
      utf8Scan (some ⟨owed - 1, bits * 64 + (next.toNat - 0x80), 0x80, 0xBF⟩) rest =
        chars.map .char := by
  obtain ⟨next, rest, rfl, fits⟩ := fits_of_utf8Scan spelled
  simp only [utf8Scan, if_pos fits, if_neg (Nat.not_le.2 more)] at spelled
  exact ⟨next, rest, rfl, fits, spelled⟩

/-- A byte is the one with its number. -/
theorem ofNat_eq_byte {n : Nat} (byte : UInt8) (same : n = byte.toNat) : UInt8.ofNat n = byte := by
  rw [same, UInt8.ofNat_toNat]

/-- A number that is no surrogate, and not too great, is that of a character. -/
theorem val_ofNat {v : Nat} (valid : v < 0xD800 ∨ 0xDFFF < v ∧ v < 0x110000) :
    (Char.ofNat v).val.toNat = v := by
  have known : Char.ofNat v = Char.ofNatAux v valid := dif_pos valid
  rw [known]
  rfl

/-- The first of some characters stands at the front of some bytes, and the others behind it. -/
def SpelledFrom (chars : List Char) (bytes : Bytes) : Prop :=
  ∃ c others rest, chars = c :: others ∧ bytes = String.utf8EncodeChar c ++ rest ∧
    utf8Scan none rest = others.map .char

/-- A character of two bytes is spelled by them. -/
theorem spelledFrom_two (lead : 0xC2 ≤ byte.toNat ∧ byte.toNat < 0xE0)
    (spelled : utf8Scan (some ⟨1, byte.toNat - 0xC0, 0x80, 0xBF⟩) bytes = chars.map .char) :
    SpelledFrom chars (byte :: bytes) := by
  obtain ⟨second, rest, others, rfl, fits, rfl, behind⟩ := last_of_utf8Scan spelled
  refine ⟨_, others, rest, rfl, ?_, behind⟩
  -- The first byte holds five bits, and the second one the six behind them.
  generalize number : (byte.toNat - 0xC0) * 64 + (second.toNat - 0x80) = v
  unfold String.utf8EncodeChar
  rw [val_ofNat (by omega)]
  dsimp only
  rw [if_neg (by omega), if_pos (by omega), ofNat_eq_byte byte (by omega),
    ofNat_eq_byte second (by omega)]
  rfl

/-- A character of three bytes is spelled by them. -/
theorem spelledFrom_three (lead : 0xE0 ≤ byte.toNat ∧ byte.toNat < 0xF0)
    (spelled : utf8Scan (some ⟨2, byte.toNat - 0xE0, if byte.toNat = 0xE0 then 0xA0 else 0x80,
      if byte.toNat = 0xED then 0x9F else 0xBF⟩) bytes = chars.map .char) :
    SpelledFrom chars (byte :: bytes) := by
  obtain ⟨second, rest, rfl, fits, further⟩ := further_of_utf8Scan (by decide) spelled
  obtain ⟨third, rest, others, rfl, within, rfl, behind⟩ := last_of_utf8Scan further
  refine ⟨_, others, rest, rfl, ?_, behind⟩
  -- The bounds on the second byte leave out what is too small, and the surrogates.
  have bounds : 0x80 ≤ second.toNat ∧ second.toNat ≤ 0xBF ∧
      (byte.toNat = 0xE0 → 0xA0 ≤ second.toNat) ∧
      (byte.toNat = 0xED → second.toNat ≤ 0x9F) := by
    split at fits <;> split at fits <;> omega
  generalize number : ((byte.toNat - 0xE0) * 64 + (second.toNat - 0x80)) * 64 +
    (third.toNat - 0x80) = v
  unfold String.utf8EncodeChar
  rw [val_ofNat (by omega)]
  dsimp only
  rw [if_neg (by omega), if_neg (by omega), if_pos (by omega),
    ofNat_eq_byte byte (by omega), ofNat_eq_byte second (by omega),
    ofNat_eq_byte third (by omega)]
  rfl

/-- A character of four bytes is spelled by them. -/
theorem spelledFrom_four (lead : 0xF0 ≤ byte.toNat ∧ byte.toNat < 0xF5)
    (spelled : utf8Scan (some ⟨3, byte.toNat - 0xF0, if byte.toNat = 0xF0 then 0x90 else 0x80,
      if byte.toNat = 0xF4 then 0x8F else 0xBF⟩) bytes = chars.map .char) :
    SpelledFrom chars (byte :: bytes) := by
  obtain ⟨second, rest, rfl, fits, further⟩ := further_of_utf8Scan (by decide) spelled
  obtain ⟨third, rest, rfl, within, further⟩ := further_of_utf8Scan (by decide) further
  obtain ⟨fourth, rest, others, rfl, inside, rfl, behind⟩ := last_of_utf8Scan further
  refine ⟨_, others, rest, rfl, ?_, behind⟩
  -- The bounds on the second byte leave out what is too small, and what is too great.
  have bounds : 0x80 ≤ second.toNat ∧ second.toNat ≤ 0xBF ∧
      (byte.toNat = 0xF0 → 0x90 ≤ second.toNat) ∧
      (byte.toNat = 0xF4 → second.toNat ≤ 0x8F) := by
    split at fits <;> split at fits <;> omega
  generalize number : (((byte.toNat - 0xF0) * 64 + (second.toNat - 0x80)) * 64 +
    (third.toNat - 0x80)) * 64 + (fourth.toNat - 0x80) = v
  unfold String.utf8EncodeChar
  rw [val_ofNat (by omega)]
  dsimp only
  rw [if_neg (by omega), if_neg (by omega), if_neg (by omega),
    ofNat_eq_byte byte (by omega), ofNat_eq_byte second (by omega),
    ofNat_eq_byte third (by omega), ofNat_eq_byte fourth (by omega)]
  rfl

/-- The first of some characters is spelled by the first bytes. -/
theorem spelledFrom_of_utf8Scan (spelled : utf8Scan none (byte :: bytes) = chars.map .char) :
    SpelledFrom chars (byte :: bytes) := by
  -- The first byte tells how many there are.
  simp only [utf8Scan] at spelled
  cases start : utf8Start byte with
  | stray =>
    rw [start] at spelled
    exact absurd spelled broken_cons_ne_map
  | whole c =>
    rw [start] at spelled
    unfold utf8Start at start
    dsimp only at start
    repeat' split at start
    all_goals cases start
    rename_i ascii
    cases chars with
    | nil => cases spelled
    | cons first others =>
      simp only [List.map_cons, List.cons.injEq, Utf8Piece.char.injEq] at spelled
      obtain ⟨rfl, behind⟩ := spelled
      have code : (Char.ofNat byte.toNat).toNat = byte.toNat := val_ofNat (by omega)
      refine ⟨_, others, bytes, rfl, ?_, behind⟩
      rw [utf8EncodeChar_ascii (by omega), code, UInt8.ofNat_toNat, List.singleton_append]
  | begun state =>
    rw [start] at spelled
    unfold utf8Start at start
    dsimp only at start
    split at start
    · cases start
    split at start
    · cases start
    split at start
    · cases start
      exact spelledFrom_two (by omega) spelled
    split at start
    · cases start
      exact spelledFrom_three (by omega) spelled
    split at start
    · cases start
      exact spelledFrom_four (by omega) spelled
    · cases start

/-- Bytes whose pieces are characters are the bytes of these characters. -/
theorem flatMap_of_utf8Scan (spelled : utf8Scan none bytes = chars.map .char) :
    chars.flatMap String.utf8EncodeChar = bytes := by
  -- One character after the other is taken off the front.
  induction chars generalizing bytes with
  | nil =>
    cases bytes with
    | nil => rfl
    | cons byte bytes =>
      obtain ⟨c, others, rest, chars, -⟩ := spelledFrom_of_utf8Scan spelled
      cases chars
  | cons c others ih =>
    cases bytes with
    | nil => cases spelled
    | cons byte bytes =>
      obtain ⟨first, behind, rest, chars, whole, left⟩ := spelledFrom_of_utf8Scan spelled
      cases chars
      rw [List.flatMap_cons, ih left, whole]

/-- Bytes that spell a text are the bytes of the text. -/
theorem utf8Bytes_of_utf8Text? {text : String} (spelled : utf8Text? bytes = some text) :
    utf8Bytes text = bytes := by
  obtain ⟨chars, pieces, rfl⟩ := Option.map_eq_some_iff.1 spelled
  rw [utf8Bytes, String.toList_ofList]
  exact flatMap_of_utf8Scan (map_char_of_mapM pieces)

/-- ASCII bytes are the bytes of the text that they are. -/
theorem utf8Bytes_asciiText (ascii : ∀ byte ∈ bytes, byte.toNat < 0x80) :
    utf8Bytes (asciiText bytes) = bytes := by
  rw [utf8Bytes, asciiText, String.toList_ofList]
  induction bytes with
  | nil => rfl
  | cons byte rest ih =>
    have small := ascii byte List.mem_cons_self
    have code : (Char.ofNat byte.toNat).toNat = byte.toNat := val_ofNat (by omega)
    rw [List.map_cons, List.flatMap_cons, utf8EncodeChar_ascii (by omega), code,
      UInt8.ofNat_toNat, List.singleton_append,
      ih fun other member => ascii other (List.mem_cons_of_mem _ member)]

end Spelled

end HttpEngine
