import HttpEngine.Proofs.Text.Spelling
import HttpEngine.Wire.Encoding
import HttpEngine.Wire.Head
import Mathlib.Data.List.DropRight

/-!
What may be written into a head: tokens, targets and header fields that a reader finds again as they
are. The fields that the engine adds are of this kind.
-/

namespace HttpEngine

/-- A nonempty text of token bytes. -/
def IsToken (text : String) : Prop :=
  text ≠ "" ∧ ∀ byte ∈ utf8Bytes text, isTokenByte byte = true

instance (text : String) : Decidable (IsToken text) :=
  inferInstanceAs (Decidable (text ≠ "" ∧ ∀ byte ∈ utf8Bytes text, isTokenByte byte = true))

/-- A nonempty text of target bytes. -/
def IsTarget (text : String) : Prop :=
  text ≠ "" ∧ ∀ byte ∈ utf8Bytes text, isTargetByte byte = true

instance (text : String) : Decidable (IsTarget text) :=
  inferInstanceAs (Decidable (text ≠ "" ∧ ∀ byte ∈ utf8Bytes text, isTargetByte byte = true))

/-- A text without control bytes other than the tab, and without white space at its ends. -/
def IsValue (text : String) : Prop :=
  (∀ byte ∈ utf8Bytes text, isTextByte byte = true) ∧ trimText text = text

instance (text : String) : Decidable (IsValue text) :=
  inferInstanceAs (Decidable ((∀ byte ∈ utf8Bytes text, isTextByte byte = true) ∧
    trimText text = text))

/-- A header line that is read back as it is: a token, and a value without white space around it. -/
structure Field.IsLegal (field : Field) : Prop where
  name : IsToken field.name
  value : IsValue field.value

instance (field : Field) : Decidable field.IsLegal :=
  decidable_of_iff (IsToken field.name ∧ IsValue field.value)
    ⟨fun ⟨name, value⟩ => ⟨name, value⟩, fun legal => ⟨legal.name, legal.value⟩⟩

/-- Only a text without characters has no bytes. -/
theorem utf8Bytes_ne_nil {text : String} (nonempty : text ≠ "") : utf8Bytes text ≠ [] := by
  intro empty
  refine nonempty (String.toList_inj.1 ?_)
  cases chars : text.toList with
  | nil => rfl
  | cons c rest =>
    -- Its first character would have brought bytes.
    rw [utf8Bytes, chars, List.flatMap_cons] at empty
    exact absurd (List.append_eq_nil_iff.1 empty).1 String.utf8EncodeChar_ne_nil

/-- Token bytes are ASCII. -/
theorem toNat_lt_of_isTokenByte {byte : UInt8} (token : isTokenByte byte = true) :
    byte.toNat < 0x80 := by
  simp only [isTokenByte, Bool.or_eq_true, Bool.and_eq_true, decide_eq_true_eq,
    List.contains_iff_mem, UInt8.le_iff_toNat_le] at token
  rcases token with ((⟨_, below⟩ | ⟨_, below⟩) | ⟨_, below⟩) | member
  · exact Nat.lt_of_le_of_lt below (by decide)
  · exact Nat.lt_of_le_of_lt below (by decide)
  · exact Nat.lt_of_le_of_lt below (by decide)
  · have ascii : ∀ sign ∈ ([0x21, 0x23, 0x24, 0x25, 0x26, 0x27, 0x2A, 0x2B, 0x2D, 0x2E, 0x5E, 0x5F,
        0x60, 0x7C, 0x7E] : Bytes), sign.toNat < 0x80 := by decide +kernel
    exact ascii byte member

/-- A token is the text of its bytes. -/
theorem IsToken.asciiText_eq {text : String} (token : IsToken text) :
    asciiText (utf8Bytes text) = text :=
  asciiText_utf8Bytes fun byte member => toNat_lt_of_isTokenByte (token.2 byte member)

/-- The text of token bytes is a token, if there are any. -/
theorem isToken_asciiText {bytes : Bytes} (nonempty : bytes ≠ [])
    (token : ∀ byte ∈ bytes, isTokenByte byte = true) : IsToken (asciiText bytes) := by
  have spelled : utf8Bytes (asciiText bytes) = bytes :=
    utf8Bytes_asciiText fun byte member => toNat_lt_of_isTokenByte (token byte member)
  refine ⟨fun empty => nonempty ?_, by rwa [spelled]⟩
  rw [← spelled, empty]
  rfl

section Blanks

variable {p : Char → Bool} {list : List Char}

/-- What drops nothing does not begin with what is dropped. -/
theorem head_of_dropWhile_eq {c : Char} {rest : List Char}
    (same : (c :: rest).dropWhile p = c :: rest) : p c = false := by
  cases dropped : p c with
  | false => rfl
  | true =>
    -- Otherwise at least one character would be gone.
    rw [List.dropWhile_cons_of_pos dropped] at same
    have lengths := congrArg List.length same
    have bound := (List.dropWhile_sublist p (l := rest)).length_le
    rw [List.length_cons] at lengths
    omega

/-- A text that is not cut at its ends has no white space at its beginning, and none at its end. -/
theorem dropWhile_of_trimBlanks_eq (same : trimBlanks list = list) :
    list.dropWhile isBlank = list ∧ list.reverse.dropWhile isBlank = list.reverse := by
  -- Neither of the two cuts leaves more than there was, and nothing is missing after both.
  have front : (list.dropWhile isBlank).length ≤ list.length := (List.dropWhile_sublist _).length_le
  have back := (List.dropWhile_sublist isBlank (l := (list.dropWhile isBlank).reverse)).length_le
  have lengths := congrArg List.length same
  rw [trimBlanks, List.length_reverse] at lengths
  rw [List.length_reverse] at back
  have first : list.dropWhile isBlank = list :=
    (List.dropWhile_sublist _).eq_of_length_le (by omega)
  rw [first] at lengths
  have same : list.reverse.length = (list.reverse.dropWhile isBlank).length := by
    rw [lengths, List.length_reverse]
  exact ⟨first, (List.dropWhile_sublist _).eq_of_length_le (Nat.le_of_eq same)⟩

/-- What has been cut at its ends is not cut again. -/
theorem trimBlanks_trimBlanks (list : List Char) : trimBlanks (trimBlanks list) = trimBlanks list := by
  have front : (trimBlanks list).dropWhile isBlank = trimBlanks list := by
    cases cut : trimBlanks list with
    | nil => rfl
    | cons c rest =>
      -- What is left of the front stays there when the back is cut.
      have before : trimBlanks list <+: list.dropWhile isBlank := List.rdropWhile_prefix _ _
      rw [cut] at before
      obtain ⟨behind, whole⟩ := before
      have again : (list.dropWhile isBlank).dropWhile isBlank = list.dropWhile isBlank :=
        List.dropWhile_idempotent _ _
      rw [← whole, List.cons_append] at again
      rw [List.dropWhile_cons_of_neg]
      simp [head_of_dropWhile_eq again]
  rw [trimBlanks, front]
  exact List.rdropWhile_idempotent _ _

/-- A text that was cut at its ends is made of characters that it had before. -/
theorem mem_of_mem_trimText {text : String} {c : Char} (member : c ∈ (trimText text).toList) :
    c ∈ text.toList := by
  rw [trimText, String.toList_ofList, trimBlanks, List.mem_reverse] at member
  have inside := (List.dropWhile_sublist _).mem member
  exact (List.dropWhile_sublist _).mem (List.mem_reverse.1 inside)

/-- A text of text bytes may stand as a value when it has been cut at its ends. -/
theorem isValue_trimText {text : String} (all : ∀ byte ∈ utf8Bytes text, isTextByte byte = true) :
    IsValue (trimText text) := by
  constructor
  · intro byte member
    obtain ⟨c, inside, among⟩ := List.mem_flatMap.1 member
    exact all byte (List.mem_flatMap.2 ⟨c, mem_of_mem_trimText inside, among⟩)
  · rw [trimText, trimText, String.toList_ofList, trimBlanks_trimBlanks]

/-- A text without white space is not cut at its ends. -/
theorem trimText_of_not_blank {text : String} (unblank : ∀ c ∈ text.toList, isBlank c = false) :
    trimText text = text := by
  -- Neither of the two cuts finds anything at its end.
  have keeps (list : List Char) (unblank : ∀ c ∈ list, isBlank c = false) :
      list.dropWhile isBlank = list := by
    cases list with
    | nil => rfl
    | cons c rest =>
      rw [List.dropWhile_cons_of_neg]
      simp [unblank c List.mem_cons_self]
  rw [trimText, trimBlanks, keeps _ unblank, keeps _ (by simpa using unblank), List.reverse_reverse,
    String.ofList_toList]

end Blanks

/-- A character with a space or a tab among its bytes is that space or tab. -/
theorem isBlank_of_isPadByte {c : Char} {byte : UInt8} (member : byte ∈ String.utf8EncodeChar c)
    (pad : isPadByte byte = true) : isBlank c = true := by
  have small : byte = 0x20 ∨ byte = 0x09 := by simpa [isPadByte] using pad
  rcases utf8EncodeChar_cases c with below | beyond
  · -- The byte is the whole character.
    rw [utf8EncodeChar_ascii below, List.mem_singleton] at member
    have code := congrArg UInt8.toNat member
    rw [toNat_byte (by omega)] at code
    have same : c = Char.ofNat byte.toNat := by rw [code, Char.ofNat_toNat]
    rcases small with rfl | rfl <;> rw [same] <;> decide
  · -- Spaces and tabs are ASCII, and no part of a longer character is.
    have := beyond byte member
    rcases small with rfl | rfl <;> exact absurd this (by decide)

/-- Nothing is dropped where the first byte stays. -/
theorem dropWhile_append_of_stops {p : UInt8 → Bool} {bytes : Bytes} (nonempty : bytes ≠ [])
    (stops : ∀ byte ∈ bytes, p byte = false) (others : Bytes) :
    (bytes ++ others).dropWhile p = bytes ++ others := by
  cases bytes with
  | nil => exact absurd rfl nonempty
  | cons first rest =>
    rw [List.cons_append, List.dropWhile_cons_of_neg]
    simp [stops first List.mem_cons_self]

/-- Around a value there are no spaces and tabs to be cut off. -/
theorem IsValue.dropWhile_isPadByte {text : String} (value : IsValue text) :
    (utf8Bytes text).dropWhile isPadByte = utf8Bytes text ∧
      (utf8Bytes text).reverse.dropWhile isPadByte = (utf8Bytes text).reverse := by
  -- The value is cut as a text, and so at its characters.
  have same : trimBlanks text.toList = text.toList := by
    rw [← String.ofList_inj, String.ofList_toList]
    exact value.2
  obtain ⟨front, back⟩ := dropWhile_of_trimBlanks_eq same
  -- A character that is no white space brings no padding.
  have stays {c : Char} (kept : isBlank c = false) :
      ∀ byte ∈ String.utf8EncodeChar c, isPadByte byte = false := by
    intro byte member
    cases pad : isPadByte byte with
    | false => rfl
    | true => rw [isBlank_of_isPadByte member pad] at kept; cases kept
  constructor
  · cases chars : text.toList with
    | nil => rw [utf8Bytes, chars]; rfl
    | cons c rest =>
      rw [chars] at front
      rw [utf8Bytes, chars, List.flatMap_cons]
      exact dropWhile_append_of_stops String.utf8EncodeChar_ne_nil
        (stays (head_of_dropWhile_eq front)) _
  · -- The last character is the first one of the reversed text.
    cases chars : text.toList.reverse with
    | nil => rw [utf8Bytes, List.reverse_eq_nil_iff.1 chars]; rfl
    | cons c rest =>
      rw [chars] at back
      have split : text.toList = rest.reverse ++ [c] := by
        rw [← List.reverse_reverse text.toList, chars, List.reverse_cons]
      rw [utf8Bytes, split, List.flatMap_append, List.flatMap_singleton, List.reverse_append]
      refine dropWhile_append_of_stops (by simp) ?_ _
      intro byte member
      exact stays (head_of_dropWhile_eq back) byte (List.mem_reverse.1 member)

/-- The characters of a decimal number are digits. -/
theorem isDigit_of_mem_decimal {n : Nat} {c : Char} (member : c ∈ (decimal n).toList) :
    c.isDigit = true := by
  refine Nat.isDigit_of_mem_toDigits (b := 10) (n := n) (by decide) (by decide) ?_
  simpa [decimal] using member

/-- No digit is white space. -/
theorem not_isBlank_of_digit {c : Char} (least : 48 ≤ c.toNat) (most : c.toNat ≤ 57) :
    isBlank c = false := by
  simp [isBlank, blankRanges]
  omega

/-- A decimal number may stand as the value of a header line. -/
theorem isValue_decimal (n : Nat) : IsValue (decimal n) := by
  -- All of its characters are digits.
  have digits {c : Char} (member : c ∈ (decimal n).toList) : 48 ≤ c.toNat ∧ c.toNat ≤ 57 := by
    have digit := isDigit_of_mem_decimal member
    simpa [Char.isDigit, Char.le_def, UInt32.le_iff_toNat_le] using digit
  constructor
  · intro byte member
    obtain ⟨c, inside, among⟩ := List.mem_flatMap.1 member
    obtain ⟨least, most⟩ := digits inside
    -- Digits are ASCII, and each of them is one visible byte.
    rw [utf8EncodeChar_ascii (by omega), List.mem_singleton] at among
    rw [among]
    simp only [isTextByte, Bool.or_eq_true, Bool.and_eq_true, decide_eq_true_eq,
      UInt8.le_iff_toNat_le, toNat_byte (show c.toNat < 256 by omega)]
    exact .inl (.inr ⟨Nat.le_trans (by decide) least, Nat.le_trans most (by decide)⟩)
  · refine trimText_of_not_blank fun c member => ?_
    obtain ⟨least, most⟩ := digits member
    exact not_isBlank_of_digit least most

end HttpEngine
