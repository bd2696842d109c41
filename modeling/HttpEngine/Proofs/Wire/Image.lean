import HttpEngine.Proofs.Wire.Forward
import HttpEngine.Proofs.Wire.Legal

/-!
What is found in a head may be written into one: every target and every header line that a reader
accepts is legal once the white space around its value is gone, however it was spelled.
-/

namespace HttpEngine

variable {bytes rest : Bytes}

/-- A target that is found is one. -/
theorem isTarget_of_scanTarget {target : String} (found : scanTarget bytes = .found target rest) :
    IsTarget target := by
  have all : ∀ byte ∈ bytes.takeWhile isTargetByte, isTargetByte byte = true :=
    fun byte member => List.mem_takeWhile_imp member
  simp only [scanTarget] at found
  split at found
  · cases found
  · split at found
    · rename_i stop behind cut nonempty
      split at found
      · rename_i text spelled
        cases found
        -- The bytes that were found are the bytes of the text.
        have same := utf8Bytes_of_utf8Text? spelled
        refine ⟨fun empty => nonempty.2 ?_, by rwa [same]⟩
        rw [← same, empty]
        rfl
      · cases found
    · cases found

/-- A header line whose value is what it may be, but for the white space around it. -/
structure RawField.IsSound (raw : RawField) : Prop where
  name : IsToken raw.name
  value : ∀ byte ∈ raw.value, isTextByte byte = true

/-- A name that is found is a token. -/
theorem isToken_of_scanFieldName {name : String} (found : scanFieldName bytes = .found name rest) :
    IsToken name := by
  simp only [scanFieldName] at found
  split at found
  · cases found
  · split at found
    · rename_i stop behind cut nonempty
      cases found
      exact isToken_asciiText nonempty.2 fun byte member => List.mem_takeWhile_imp member
    · cases found

/-- A value that is found is made of text bytes. -/
theorem isTextByte_of_scanFieldValue {value : Bytes}
    (found : scanFieldValue bytes = .found value rest) : ∀ byte ∈ value, isTextByte byte = true := by
  obtain ⟨_, -, rfl⟩ := Scan.found_of_map found
  intro byte member
  -- The padding that is cut off leaves bytes of the run.
  have inside := (List.dropWhile_sublist _).mem (List.mem_reverse.1 member)
  exact List.mem_takeWhile_imp (List.mem_reverse.1 inside)

/-- A header line that is found is sound. -/
theorem isSound_of_scanField {raw : RawField} (found : scanField bytes = .found raw rest) :
    raw.IsSound := by
  obtain ⟨name, behind, named, found⟩ := Scan.found_of_andThen found
  obtain ⟨value, valued, rfl⟩ := Scan.found_of_map found
  exact ⟨isToken_of_scanFieldName named, isTextByte_of_scanFieldValue valued⟩

/-- All header lines that are found are sound. -/
theorem isSound_of_scanFields {room : Nat} {raws : List RawField}
    (found : scanFields room bytes = .found raws rest) : ∀ raw ∈ raws, raw.IsSound := by
  -- Behind each line there is room for one line less.
  induction room generalizing bytes raws with
  | zero =>
    unfold scanFields at found
    split at found
    · cases found
    · split at found
      · obtain ⟨_, -, rfl⟩ := Scan.found_of_map found
        simp
      · obtain ⟨_, _, -, next⟩ := Scan.found_of_andThen found
        cases next
  | succ room ih =>
    unfold scanFields at found
    split at found
    · cases found
    · split at found
      · obtain ⟨_, -, rfl⟩ := Scan.found_of_map found
        simp
      · obtain ⟨raw, behind, line, next⟩ := Scan.found_of_andThen found
        obtain ⟨others, lines, rfl⟩ := Scan.found_of_map next
        exact List.forall_mem_cons.2 ⟨isSound_of_scanField line, ih lines⟩

/-- What is collected from sound header lines is legal. -/
theorem isLegal_of_collectFields {raws : List RawField} {fields : List Field}
    (sound : ∀ raw ∈ raws, raw.IsSound) (collected : collectFields raws = .ok fields) :
    ∀ field ∈ fields, field.IsLegal := by
  induction raws generalizing fields with
  | nil =>
    cases collected
    simp
  | cons raw others ih =>
    rw [List.forall_mem_cons] at sound
    rw [collectFields] at collected
    cases spelled : utf8Text? raw.value with
    | none => rw [spelled] at collected; cases collected
    | some text =>
      rw [spelled] at collected
      cases behind : collectFields others with
      | error reason => simp only [behind] at collected; cases collected
      | ok rest =>
        simp only [behind] at collected
        cases collected
        refine List.forall_mem_cons.2 ⟨⟨sound.1.name, isValue_trimText ?_⟩, ih sound.2 behind⟩
        -- The bytes of the text are those that were found.
        rw [utf8Bytes_of_utf8Text? spelled]
        exact sound.1.value

/-- The head of a request has a target that is one, and sound header lines. -/
theorem RequestHead.isSound {head : RequestHead} (found : scanRequestHead bytes = .found head rest) :
    IsTarget head.target ∧ ∀ raw ∈ head.fields, raw.IsSound := by
  -- The parts were found one behind the other.
  obtain ⟨_, _, -, found⟩ := Scan.found_of_andThen found
  obtain ⟨_, _, -, found⟩ := Scan.found_of_andThen found
  obtain ⟨target, _, aimed, found⟩ := Scan.found_of_andThen found
  obtain ⟨_, _, -, found⟩ := Scan.found_of_andThen found
  obtain ⟨_, _, -, found⟩ := Scan.found_of_andThen found
  obtain ⟨raws, lines, rfl⟩ := Scan.found_of_map found
  exact ⟨isTarget_of_scanTarget aimed, isSound_of_scanFields lines⟩

/-- The head of a response has sound header lines. -/
theorem ResponseHead.isSound {head : ResponseHead}
    (found : scanResponseHead bytes = .found head rest) : ∀ raw ∈ head.fields, raw.IsSound := by
  obtain ⟨_, _, -, found⟩ := Scan.found_of_andThen found
  obtain ⟨_, _, -, found⟩ := Scan.found_of_andThen found
  obtain ⟨_, _, -, found⟩ := Scan.found_of_andThen found
  obtain ⟨_, _, -, found⟩ := Scan.found_of_andThen found
  obtain ⟨_, _, -, found⟩ := Scan.found_of_andThen found
  obtain ⟨raws, lines, rfl⟩ := Scan.found_of_map found
  exact isSound_of_scanFields lines

end HttpEngine
