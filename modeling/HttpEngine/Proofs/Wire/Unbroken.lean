import HttpEngine.Proofs.Wire.RoundTrip
import Mathlib.Data.List.Forall2
import Mathlib.Data.List.TakeWhile

/-!
Header lines of any text without a line feed: whatever a reader finds in them, it finds one line for
each of them. A name that comes out otherwise has taken the colon behind it into the value, where no
length can be read any more.
-/

namespace HttpEngine

/-- A header line that no line feed breaks. -/
structure Field.IsUnbroken (field : Field) : Prop where
  name : '\n' ∉ field.name.toList
  value : '\n' ∉ field.value.toList

instance (field : Field) : Decidable field.IsUnbroken :=
  decidable_of_iff ('\n' ∉ field.name.toList ∧ '\n' ∉ field.value.toList)
    ⟨fun ⟨name, value⟩ => ⟨name, value⟩, fun unbroken => ⟨unbroken.name, unbroken.value⟩⟩

section Lines

variable {line later left : Bytes}

/-- A run that may go on to the end of some bytes ends at the byte behind them that stops it. -/
theorem dropWhile_before_stop {p : UInt8 → Bool} {stop : UInt8} (stops : p stop = false)
    (bytes rest : Bytes) :
    (bytes ++ stop :: rest).dropWhile p = bytes.dropWhile p ++ stop :: rest := by
  have stopped : ¬ p stop = true := by simp [stops]
  rw [List.dropWhile_append, List.dropWhile_cons_of_neg stopped]
  split
  · rename_i whole
    rw [List.isEmpty_iff.1 whole, List.nil_append]
  · rfl

/-- What does not belong to a run stays behind it. -/
theorem mem_dropWhile {α : Type} {p : α → Bool} {item : α} {list : List α} (member : item ∈ list)
    (other : p item = false) : item ∈ list.dropWhile p := by
  rw [← List.takeWhile_append_dropWhile (p := p) (l := list)] at member
  rcases List.mem_append.1 member with run | behind
  · rw [List.mem_takeWhile_imp run] at other
    cases other
  · exact behind

/-- Without a line feed there is no end of a line. -/
theorem scanLineEnd_unbroken {fault : HeadError} (unbroken : 0x0A ∉ line)
    (found : scanLineEnd fault (line ++ 0x0D :: 0x0A :: later) = .found () left) :
    line = [] ∧ left = later := by
  cases line with
  | nil =>
    cases found
    exact ⟨rfl, rfl⟩
  | cons first others =>
    rw [List.mem_cons, not_or] at unbroken
    simp only [List.cons_append, scanLineEnd, if_neg (Ne.symm unbroken.1)] at found
    split at found
    · -- A carriage return does not end a line alone.
      cases others with
      | nil => cases found
      | cons second rest =>
        rw [List.mem_cons, not_or] at unbroken
        simp only [List.cons_append, if_neg (Ne.symm unbroken.2.1)] at found
        cases found
    · cases found

/-- A value that is found in a line goes to its end, and keeps all of it but the padding. -/
theorem scanFieldValue_unbroken {value : Bytes} (unbroken : 0x0A ∉ line)
    (found : scanFieldValue (line ++ 0x0D :: 0x0A :: later) = .found value left) :
    left = later ∧ ∀ byte ∈ line, isPadByte byte = false → byte ∈ value := by
  have noPad : isPadByte 0x0D = false := by decide
  have noText : isTextByte 0x0D = false := by decide
  simp only [scanFieldValue, dropWhile_before_stop noPad, dropWhile_before_stop noText] at found
  generalize padded : line.dropWhile isPadByte = inner at found
  have inside : 0x0A ∉ inner.dropWhile isTextByte := by
    intro feed
    rw [← padded] at feed
    exact unbroken ((List.dropWhile_sublist _).mem ((List.dropWhile_sublist _).mem feed))
  obtain ⟨_, ends, rfl⟩ := Scan.found_of_map found
  obtain ⟨whole, same⟩ := scanLineEnd_unbroken inside ends
  refine ⟨same, fun byte member other => ?_⟩
  -- All of the line is text, so that the value is what the padding leaves of it.
  have text : ∀ byte ∈ inner, isTextByte byte = true := List.dropWhile_eq_nil_iff.1 whole
  rw [(run_before_stop text noText _).1, List.mem_reverse]
  refine mem_dropWhile (List.mem_reverse.2 ?_) other
  rw [← padded]
  exact mem_dropWhile member other

/-- A name that is found is the one that was written, or ends at a colon of its own. -/
theorem scanFieldName_unbroken {name token : String}
    (found : scanFieldName (utf8Bytes name ++ 0x3A :: later) = .found token left) :
    token = name ∧ left = later ∨
      ∃ others, others <:+ utf8Bytes name ∧ left = others ++ 0x3A :: later := by
  have noToken : isTokenByte 0x3A = false := by decide
  simp only [scanFieldName, dropWhile_before_stop noToken] at found
  cases stopped : (utf8Bytes name).dropWhile isTokenByte with
  | nil =>
    -- All of the name is a token.
    have all : ∀ byte ∈ utf8Bytes name, isTokenByte byte = true :=
      List.dropWhile_eq_nil_iff.1 stopped
    simp only [stopped, List.nil_append, (run_before_stop all noToken later).1] at found
    split at found
    · rename_i token
      cases found
      have nonempty : name ≠ "" := by
        rintro rfl
        exact token.2 rfl
      exact .inl ⟨IsToken.asciiText_eq ⟨nonempty, all⟩, rfl⟩
    · cases found
  | cons stop others =>
    simp only [stopped, List.cons_append] at found
    split at found
    · cases found
      refine .inr ⟨others, ?_, rfl⟩
      have behind := List.dropWhile_suffix isTokenByte (l := utf8Bytes name)
      rw [stopped] at behind
      exact (List.suffix_cons stop others).trans behind
    · cases found

end Lines

section Fields

variable {field : Field} {later left : Bytes}

/-- The bytes of a text without a line feed. -/
theorem feed_not_mem_utf8Bytes {text : String} (unbroken : '\n' ∉ text.toList) :
    0x0A ∉ utf8Bytes text :=
  fun feed => unbroken (mem_of_utf8Text? (utf8Text?_utf8Bytes text) (by decide) feed)

/-- The bytes of a header line in front of its end. -/
def Field.lineBytes (field : Field) : Bytes :=
  utf8Bytes field.name ++ 0x3A :: 0x20 :: utf8Bytes field.value

/-- Behind the bytes of a header line stands its end. -/
theorem Field.fieldBytes_append (field : Field) (rest : Bytes) :
    fieldBytes field ++ rest = field.lineBytes ++ 0x0D :: 0x0A :: rest := by
  simp [fieldBytes_eq, Field.lineBytes]

/-- No line feed stands in the bytes of a header line without one. -/
theorem Field.IsUnbroken.lineBytes (unbroken : field.IsUnbroken) : 0x0A ∉ field.lineBytes := by
  have name := feed_not_mem_utf8Bytes unbroken.name
  have value := feed_not_mem_utf8Bytes unbroken.value
  simp [Field.lineBytes, name, value]

/-- A header line as it may be found: its name is what it was, or a colon is in the value. -/
structure Field.FoundAs (field : Field) (raw : RawField) : Prop where
  legal : field.IsLegal → raw = field.raw
  named : raw.name = field.name ∨ 0x3A ∈ raw.value

/-- What is found in a header line without a line feed takes just this line. -/
theorem Field.IsUnbroken.foundAs (unbroken : field.IsUnbroken) {raw : RawField}
    (found : scanField (fieldBytes field ++ later) = .found raw left) :
    left = later ∧ field.FoundAs raw := by
  have legal : field.IsLegal → raw = field.raw := by
    intro legal
    rw [scanField_written legal] at found
    cases found
    rfl
  have shape : fieldBytes field ++ later =
      utf8Bytes field.name ++ 0x3A :: (0x20 :: utf8Bytes field.value ++ 0x0D :: 0x0A :: later) := by
    simp [fieldBytes_eq]
  have value := feed_not_mem_utf8Bytes unbroken.value
  rw [shape, scanField] at found
  obtain ⟨token, behind, named, found⟩ := Scan.found_of_andThen found
  obtain ⟨content, valued, rfl⟩ := Scan.found_of_map found
  rcases scanFieldName_unbroken named with ⟨same, rfl⟩ | ⟨others, inside, rfl⟩
  · obtain ⟨rest, _⟩ := scanFieldValue_unbroken (by simp [value]) valued
    exact ⟨rest, legal, .inl same⟩
  · -- The name was cut at a colon, and the one behind it is in the value now.
    have name : 0x0A ∉ others := fun feed =>
      feed_not_mem_utf8Bytes unbroken.name (inside.mem feed)
    have shape : others ++ 0x3A :: (0x20 :: utf8Bytes field.value ++ 0x0D :: 0x0A :: later) =
        (others ++ 0x3A :: 0x20 :: utf8Bytes field.value) ++ 0x0D :: 0x0A :: later := by simp
    rw [shape] at valued
    obtain ⟨rest, kept⟩ := scanFieldValue_unbroken (by simp [name, value]) valued
    exact ⟨rest, legal, .inr (kept 0x3A (by simp) (by decide))⟩

/-- As many header lines are found as were written, if no line feed is in them. -/
theorem scanFields_unbroken {fields : List Field} (unbroken : ∀ field ∈ fields, field.IsUnbroken)
    {room : Nat} {raws : List RawField}
    (found : scanFields room (fields.flatMap fieldBytes ++ (lineBytes "" ++ later)) =
      .found raws left) : left = later ∧ List.Forall₂ Field.FoundAs fields raws := by
  -- One line after the other.
  induction fields generalizing room raws with
  | nil =>
    rw [List.flatMap_nil, List.nil_append, scanFields.eq_def] at found
    cases found
    exact ⟨rfl, .nil⟩
  | cons field others ih =>
    have first := unbroken field List.mem_cons_self
    rw [List.flatMap_cons, List.append_assoc] at found
    generalize rest : others.flatMap fieldBytes ++ (lineBytes "" ++ later) = behind at found
    cases bytes : fieldBytes field ++ behind with
    | nil => simp [Field.fieldBytes_append] at bytes
    | cons byte tail =>
      rw [bytes, scanFields.eq_def] at found
      dsimp only at found
      rw [← bytes] at found
      split at found
      · -- The line is not empty, and so it is not read as the empty one.
        rw [Field.fieldBytes_append] at found
        obtain ⟨_, ends, _⟩ := Scan.found_of_map found
        have empty := (scanLineEnd_unbroken first.lineBytes ends).1
        simp [Field.lineBytes] at empty
      · obtain ⟨raw, _, line, next⟩ := Scan.found_of_andThen found
        obtain ⟨rfl, as⟩ := first.foundAs line
        cases room with
        | zero => cases next
        | succ room =>
          -- Behind the line there are the others.
          obtain ⟨raws, lines, rfl⟩ := Scan.found_of_map next
          rw [← rest] at lines
          obtain ⟨same, all⟩ :=
            ih (fun other member => unbroken other (List.mem_cons_of_mem _ member)) lines
          exact ⟨same, .cons as all⟩

/-- What is no white space is not cut off. -/
theorem mem_trimText {text : String} {c : Char} (member : c ∈ text.toList)
    (visible : isBlank c = false) : c ∈ (trimText text).toList := by
  rw [trimText, String.toList_ofList, trimBlanks, List.mem_reverse]
  exact mem_dropWhile (List.mem_reverse.2 (mem_dropWhile member visible)) visible

/-- A header line as it may arrive: its name is what it was, or a colon is in the value. -/
structure Field.ArrivesAs (field arrived : Field) : Prop where
  legal : field.IsLegal → arrived = field
  named : arrived.name = field.name ∨ ':' ∈ arrived.value.toList

/-- What was found in header lines arrives so, if it can be collected. -/
theorem collectFields_found {fields arrived : List Field} {raws : List RawField}
    (found : List.Forall₂ Field.FoundAs fields raws)
    (collected : collectFields raws = .ok arrived) :
    List.Forall₂ Field.ArrivesAs fields arrived := by
  induction found generalizing arrived with
  | nil =>
    cases collected
    exact .nil
  | cons as all ih =>
    rename_i field raw fields raws
    rw [collectFields] at collected
    cases spelled : utf8Text? raw.value with
    | none => rw [spelled] at collected; cases collected
    | some text =>
      rw [spelled] at collected
      cases others : collectFields raws with
      | error reason => simp only [others] at collected; cases collected
      | ok rest =>
        simp only [others] at collected
        cases collected
        refine .cons ⟨fun legal => ?_, ?_⟩ (ih others)
        · -- A legal line was found as it is, and its value is not cut.
          cases as.legal legal
          rw [Field.raw, utf8Text?_utf8Bytes] at spelled
          cases spelled
          rw [legal.value.2]
          rfl
        · refine as.named.imp id fun colon => ?_
          exact mem_trimText (mem_of_utf8Text? spelled (by decide) colon) (by decide)

/-- A name that no header line has arrives only with a colon in the value. -/
theorem colon_of_arrived {fields arrived : List Field} {name : String}
    (all : List.Forall₂ Field.ArrivesAs fields arrived)
    (others : ∀ field ∈ fields, sameName field.name name = false) :
    ∀ field ∈ arrived, sameName field.name name = true → ':' ∈ field.value.toList := by
  induction all with
  | nil => simp
  | cons as _ ih =>
    rw [List.forall_mem_cons] at others
    rw [List.forall_mem_cons]
    refine ⟨fun same => as.named.resolve_left fun kept => ?_, ih others.2⟩
    -- The name would be one that was written.
    rw [kept, others.1] at same
    cases same

/-- A legal header line has no line feed. -/
theorem Field.IsLegal.isUnbroken (legal : field.IsLegal) : field.IsUnbroken := by
  -- The line feed is one byte, which is neither a token byte nor a text byte.
  have feed {text : String} (member : '\n' ∈ text.toList) : 0x0A ∈ utf8Bytes text :=
    List.mem_flatMap.2 ⟨'\n', member, by decide⟩
  constructor
  · exact fun member => absurd (legal.name.2 _ (feed member)) (by decide)
  · exact fun member => absurd (legal.value.1 _ (feed member)) (by decide)

end Fields

end HttpEngine
