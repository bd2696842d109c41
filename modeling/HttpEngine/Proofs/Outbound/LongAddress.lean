import HttpEngine.Proofs.Outbound.Target

/-!
Targets whose host is a long address. Between brackets it never loses a part to the port. Without
brackets its last group is taken for the port wherever it is spelled with decimal digits alone.
-/

namespace HttpEngine

section Spelling

/-- The characters that addresses are spelled with. -/
def isAddressChar (c : Char) : Bool :=
  (digitIn? 16 c).isSome || c == ':' || c == '.'

/-- Characters of addresses, up to a rest. -/
def Spelled (chars rest : List Char) : Prop :=
  ∃ front, chars = front ++ rest ∧ ∀ c ∈ front, isAddressChar c = true

variable {chars middle rest : List Char}

/-- Nothing has to be spelled. -/
theorem Spelled.refl (chars : List Char) : Spelled chars chars := ⟨[], rfl, nofun⟩

/-- One spelling after the other. -/
theorem Spelled.trans (first : Spelled chars middle) (second : Spelled middle rest) :
    Spelled chars rest := by
  obtain ⟨front, rfl, all⟩ := first
  obtain ⟨behind, rfl, others⟩ := second
  refine ⟨front ++ behind, (List.append_assoc ..).symm, fun c member => ?_⟩
  exact (List.mem_append.1 member).elim (all c) (others c)

/-- One character of an address. -/
theorem Spelled.one {c : Char} (allowed : isAddressChar c = true) : Spelled (c :: rest) rest :=
  ⟨[c], rfl, fun _ member => List.mem_singleton.1 member ▸ allowed⟩

/-- A digit of a smaller radix is one of sixteen. -/
theorem isAddressChar_of_digit {radix digit : Nat} (small : radix ≤ 16) {c : Char}
    (found : digitIn? radix c = some digit) : isAddressChar c = true := by
  -- A digit of a smaller radix is a digit of the largest one.
  have sixteen : digitIn? 16 c = some digit := by
    unfold digitIn? at found ⊢
    obtain ⟨value, bounded⟩ := Option.filter_eq_some_iff.1 found
    refine Option.filter_eq_some_iff.2 ⟨value, ?_⟩
    exact decide_eq_true (Nat.lt_of_lt_of_le (of_decide_eq_true bounded) small)
  simp [isAddressChar, sixteen]

/-- Digits at the front are characters of an address. -/
theorem spelled_frontDigits {radix : Nat} (small : radix ≤ 16) (chars : List Char) :
    Spelled chars (frontDigits radix chars).2 := by
  -- The digits in front are taken off one by one.
  induction chars with
  | nil => exact .refl _
  | cons c rest ih =>
    unfold frontDigits
    split
    · rename_i digit found
      exact (Spelled.one (isAddressChar_of_digit small found)).trans ih
    · exact .refl _

/-- A number is spelled with digits. -/
theorem spelled_readNumber {radix limit value : Nat} {most : Option Nat} {paddable : Bool}
    (small : radix ≤ 16) (read : readNumber radix limit most paddable chars = some (value, rest)) :
    Spelled chars rest := by
  have digits := spelled_frontDigits small chars
  unfold readNumber at read
  dsimp only at read
  -- Whichever way the number is read, what is left is what is behind its digits.
  repeat' split at read
  all_goals cases read
  exact digits

/-- A sign is a character of an address. -/
theorem spelled_readSign {sign : Char} (allowed : isAddressChar sign = true) {found : Unit}
    (read : readSign sign chars = some (found, rest)) : Spelled chars rest := by
  unfold readSign at read
  split at read
  · cases read
  · split at read <;> cases read
    rename_i same
    exact .one (same ▸ allowed)

/-- A short address is spelled with digits and points. -/
theorem spelled_readV4 {octets : List Nat} (read : readV4 chars = some (octets, rest)) :
    Spelled chars rest := by
  -- Four numbers with three points between them.
  have octet {chars rest : List Char} {value : Nat}
      (read : readOctet chars = some (value, rest)) : Spelled chars rest :=
    spelled_readNumber (by decide) read
  have point {chars rest : List Char} {found : Unit}
      (read : readSign '.' chars = some (found, rest)) : Spelled chars rest :=
    spelled_readSign (by decide) read
  simp only [readV4, Option.bind_eq_bind, Option.bind_eq_some_iff, Prod.exists] at read
  obtain ⟨_, _, a, _, _, b, _, _, c, _, _, d, _, _, e, _, _, f, _, _, g, last⟩ := read
  cases last
  exact (octet a).trans <| (point b).trans <| (octet c).trans <| (point d).trans <|
    (octet e).trans <| (point f).trans (octet g)

/-- A reading after a colon is spelled as it is without one. -/
theorem spelled_afterColon {α : Type} {read : Reading α} {value : α}
    (spelled : ∀ {chars rest : List Char} {value : α}, read chars = some (value, rest) →
      Spelled chars rest)
    {first : Bool} (found : afterColon first read chars = some (value, rest)) :
    Spelled chars rest := by
  unfold afterColon at found
  split at found
  · exact spelled found
  · obtain ⟨⟨_, _⟩, colon, behind⟩ := Option.bind_eq_some_iff.1 found
    exact (spelled_readSign (by decide) colon).trans (spelled behind)

/-- Groups are spelled with digits, colons and points. -/
theorem spelled_readGroups (room : Nat) (first : Bool) (chars : List Char) :
    Spelled chars (readGroups room first chars).2 := by
  induction room generalizing first chars with
  | zero => exact .refl _
  | succ room ih =>
    unfold readGroups
    dsimp only
    split
    · -- A short address ends the groups.
      rename_i octets rest short
      split at short
      · exact spelled_afterColon spelled_readV4 short
      · cases short
    · split
      · rename_i group rest found
        -- A group was read, and the next one has one place less.
        exact (spelled_afterColon (spelled_readNumber (by decide)) found).trans (ih false rest)
      · exact .refl _

/-- A long address is spelled with digits, colons and points. -/
theorem spelled_readV6 {groups : List Nat} (read : readV6 chars = some (groups, rest)) :
    Spelled chars rest := by
  have head := spelled_readGroups 8 true chars
  unfold readV6 at read
  dsimp only at read
  split at read
  · cases read
    -- Eight groups may stand without a gap.
    exact head
  · split at read
    · cases read
    · -- Two colons come in the middle, and the groups behind them.
      simp only [Option.bind_eq_bind, Option.bind_eq_some_iff, Prod.exists] at read
      obtain ⟨_, _, one, _, _, two, last⟩ := read
      cases last
      exact head.trans <| (spelled_readSign (by decide) one).trans <|
        (spelled_readSign (by decide) two).trans (spelled_readGroups _ true _)

end Spelling

/-- A text of a long address. -/
def IsLongAddress (text : String) : Prop := (readWhole readV6 text).isSome = true

instance (text : String) : Decidable (IsLongAddress text) :=
  inferInstanceAs (Decidable (_ = _))

namespace IsLongAddress

variable {text : String}

/-- Some groups are read from it, and nothing is left. -/
theorem exists_groups (long : IsLongAddress text) :
    ∃ groups, readV6 text.toList = some (groups, []) := by
  unfold IsLongAddress readWhole at long
  split at long
  · rename_i groups read
    exact ⟨groups, read⟩
  · cases long

/-- It is spelled with digits, colons and points. -/
theorem isAddressChar (long : IsLongAddress text) :
    ∀ c ∈ text.toList, isAddressChar c = true := by
  obtain ⟨groups, read⟩ := long.exists_groups
  obtain ⟨front, whole, all⟩ := spelled_readV6 read
  rw [List.append_nil] at whole
  rwa [whole]

/-- It does not end behind a colon at its front and decimal digits. -/
theorem ne_of_digits (long : IsLongAddress text) {digits : String} (nonempty : digits ≠ "")
    (all : ∀ c ∈ digits.toList, isAsciiDigit c = true) : text ≠ ":" ++ digits := by
  rintro rfl
  obtain ⟨groups, read⟩ := long.exists_groups
  obtain ⟨digit, rest, split⟩ : ∃ digit rest, digits.toList = digit :: rest :=
    List.exists_cons_of_ne_nil (by simpa using nonempty)
  have other : digit ≠ ':' := by
    rintro rfl
    exact absurd (all ':' (split ▸ List.mem_cons_self)) (by decide)
  -- No group stands in front of the colon, which is the first of two then.
  have chars : (":" ++ digits).toList = ':' :: digit :: rest := by
    rw [String.toList_append, split]
    rfl
  have unread : readGroups 8 true (':' :: digit :: rest) =
      (([], false), ':' :: digit :: rest) := rfl
  simp [chars, readV6, unread, readSign, other] at read

end IsLongAddress

namespace Target

variable {text : String}

/-- Behind the last colon of a text stand decimal digits alone. -/
def EndsInDecimals (text : String) : Prop :=
  ∃ front digits, text = front ++ ":" ++ digits ∧ digits ≠ "" ∧
    ∀ c ∈ digits.toList, isAsciiDigit c = true

/-- A text without a slash is taken for a host, whatever else it is. -/
theorem ofText_host (nonempty : text ≠ "") (slashless : '/' ∉ text.toList) :
    ofText text = .ok ⟨withPort text, "/"⟩ := by
  -- A scheme has a slash in it.
  have schemeless (opening rest : String) (slash : '/' ∈ opening.toList) :
      text ≠ opening ++ rest := by
    rintro rfl
    exact slashless (by rw [String.toList_append]; exact List.mem_append_left _ slash)
  rw [ofText_bare (schemeless encryptedScheme · (by decide)) (schemeless scheme · (by decide)),
    ofBare, cutAtSlash_of_not_mem slashless, if_neg (by rwa [String.isEmpty_iff])]

/-- A text that ends with anything but a digit brings no port. -/
theorem not_hasPort_of_end {c : Char} (other : isAsciiDigit c = false) (text : String) :
    ¬HasPort (text ++ String.singleton c) := by
  rintro ⟨name, port, whole, -, digits, all⟩
  -- The last character is that of the port, which is not empty.
  have last : (text ++ String.singleton c).toList.getLast? = port.toList.getLast? := by
    have nonempty : port.toList ≠ [] := by simpa using digits
    rw [whole, String.toList_append, List.getLast?_append, List.getLast?_eq_some_getLast nonempty,
      Option.some_or]
  rw [String.toList_append, String.toList_singleton, List.getLast?_concat] at last
  rw [all c (List.mem_of_getLast? last.symm)] at other
  cases other

/-- The decimal digits behind the last colon of a long address are taken for a port. -/
theorem hasPort_iff_of_isLongAddress (long : IsLongAddress text) :
    HasPort text ↔ EndsInDecimals text := by
  constructor
  · -- A port is one at the end in any case.
    rintro ⟨name, port, whole, -, digits, all⟩
    exact ⟨name, port, whole, digits, all⟩
  · -- The name cannot be empty, since an address does not begin with a single colon.
    rintro ⟨front, digits, whole, nonempty, all⟩
    refine ⟨front, digits, whole, ?_, nonempty, all⟩
    rintro rfl
    exact long.ne_of_digits nonempty all (by rw [whole, String.empty_append])

/-- No slash is in a long address, nor behind it if none is in what follows. -/
theorem slash_not_mem_of_isLongAddress (long : IsLongAddress text) {back : String}
    (behind : '/' ∉ back.toList) : '/' ∉ text.toList ∧ '/' ∉ ("[" ++ text ++ back).toList := by
  have inside : '/' ∉ text.toList := fun member =>
    absurd (long.isAddressChar _ member) (by decide)
  refine ⟨inside, ?_⟩
  rw [String.toList_append, String.toList_append, List.mem_append, List.mem_append, not_or, not_or]
  exact ⟨⟨by decide, inside⟩, behind⟩

/--
The port of a long address is eighty, or the one behind its brackets, or its own last group.

Between brackets an address is kept as it is, and has the port that stands behind them, or eighty.
Without brackets it has the port eighty, unless decimal digits alone stand behind its last colon:
these are its last group, and are taken for the port.
-/
theorem ofText_long_address (long : IsLongAddress text) :
    (¬EndsInDecimals text → ofText text = .ok ⟨text ++ ":80", "/"⟩) ∧
    (EndsInDecimals text → ofText text = .ok ⟨text, "/"⟩) ∧
    ofText ("[" ++ text ++ "]") = .ok ⟨"[" ++ text ++ "]:80", "/"⟩ ∧
    ∀ port, port ≠ "" → (∀ c ∈ port.toList, isAsciiDigit c = true) →
      ofText ("[" ++ text ++ "]:" ++ port) = .ok ⟨"[" ++ text ++ "]:" ++ port, "/"⟩ := by
  obtain ⟨slashless, bracketed⟩ :=
    slash_not_mem_of_isLongAddress long (by decide : '/' ∉ "]".toList)
  have bare : ofText text = .ok ⟨withPort text, "/"⟩ := by
    refine ofText_host ?_ slashless
    rintro rfl
    exact absurd long (by decide)
  refine ⟨fun other => ?_, fun decimals => ?_, ?_, fun port nonempty digits => ?_⟩
  · -- Without a number at its end the address gets the standard port.
    rw [bare, withPort, if_neg]
    rwa [namesPort_iff, hasPort_iff_of_isLongAddress long]
  · rw [bare, withPort_of_hasPort ((hasPort_iff_of_isLongAddress long).2 decimals)]
  · -- The bracket at the end is no digit.
    have portless : ¬HasPort ("[" ++ text ++ "]") := not_hasPort_of_end (c := ']') (by decide) _
    rw [ofText_host (by simp) bracketed, withPort, if_neg (mt namesPort_iff.1 portless)]
    simp [String.append_assoc]
  · have ported : HasPort ("[" ++ text ++ "]:" ++ port) :=
      ⟨"[" ++ text ++ "]", port, by simp [String.append_assoc], by simp, nonempty, digits⟩
    -- The port consists of digits, so that it brings no slash in.
    have slashless : '/' ∉ ("[" ++ text ++ ("]:" ++ port)).toList := by
      refine (slash_not_mem_of_isLongAddress long ?_).2
      rw [String.toList_append, List.mem_append]
      rintro (sign | digit)
      · exact absurd sign (by decide)
      · exact absurd (digits _ digit) (by decide)
    have split : "[" ++ text ++ "]:" ++ port = "[" ++ text ++ ("]:" ++ port) := String.append_assoc
    rw [split] at ported ⊢
    rw [ofText_host (by simp) slashless, withPort_of_hasPort ported]

/-- A short address at the end of a long one is no port, and a port behind brackets is kept. -/
theorem ofText_long_address_mapped :
    IsLongAddress "::ffff:192.0.2.128" ∧
      ofText "::ffff:192.0.2.128" = .ok ⟨"::ffff:192.0.2.128:80", "/"⟩ ∧
      ofText "[::ffff:192.0.2.128]:8080" = .ok ⟨"[::ffff:192.0.2.128]:8080", "/"⟩ := by
  have long : IsLongAddress "::ffff:192.0.2.128" := by decide +kernel
  have portless : ¬EndsInDecimals "::ffff:192.0.2.128" := by
    rw [← hasPort_iff_of_isLongAddress long, ← namesPort_iff]
    decide +kernel
  obtain ⟨added, -, -, kept⟩ := ofText_long_address long
  exact ⟨long, added portless, kept "8080" (by decide) (List.all_eq_true.1 (by decide))⟩

/-- The last group of an address without brackets may be taken for its port. -/
theorem last_group_taken :
    IsLongAddress "::1" ∧ ofText "::1" = .ok ⟨"::1", "/"⟩ ∧
      ¬∀ text, IsLongAddress text → ofText text = .ok ⟨text ++ ":80", "/"⟩ := by
  have long : IsLongAddress "::1" := by decide +kernel
  have taken : ofText "::1" = .ok ⟨"::1", "/"⟩ := by decide +kernel
  refine ⟨long, taken, fun all => ?_⟩
  have added := taken.symm.trans (all "::1" long)
  exact absurd added (by decide)

end Target

end HttpEngine
