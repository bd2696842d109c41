import HttpEngine.Proofs.Wire.Forward

/-! The parts of a message head, and the whole heads of requests and responses, are read forward. -/

namespace HttpEngine

/-- The end of a line is read up to its line feed. -/
theorem closing_scanLineEnd (fault : HeadError) : Closing (scanLineEnd fault) := by
  have takes {bytes rest : Bytes} {value : Unit}
      (found : scanLineEnd fault bytes = .found value rest) : rest.length < bytes.length := by
    have bound := scanLineEnd_leaves fault bytes value rest found
    have nonempty : bytes ≠ [] := by rintro rfl; cases found
    have := List.length_pos_iff.2 nonempty
    omega
  refine ⟨takes, fun {bytes later value rest} more found => ?_⟩
  cases bytes with
  | nil => exact takes found
  | cons first tail =>
    cases tail with
    | nil =>
      -- A carriage return waits for the byte behind it.
      simp only [scanLineEnd] at more
      have waits : first ≠ 0x0A ∧ first = 0x0D := by
        repeat' split at more
        all_goals cases more
        exact ⟨by assumption, by assumption⟩
      obtain ⟨noFeed, rfl⟩ := waits
      cases later with
      | nil => cases found
      | cons second tail =>
        -- Only a line feed can come next, and it is the first of the later bytes.
        simp only [scanLineEnd, List.cons_append, List.nil_append, if_neg noFeed, if_true] at found
        split at found
        · cases found
          simp
        · cases found
    | cons second tail =>
      -- Two bytes are enough to tell.
      simp only [scanLineEnd] at more
      repeat' split at more
      all_goals cases more

/-- The end of a line is read forward. -/
theorem forward_scanLineEnd (fault : HeadError) : Forward (scanLineEnd fault) where
  found {bytes value rest} found later := by
    -- At most two bytes are looked at, and both of them are there.
    unfold scanLineEnd at found ⊢
    repeat' split at found
    all_goals cases found
    all_goals simp_all
  wrong {bytes fault} wrong later := by
    -- The byte that is wrong is there, and so is the one in front of it.
    unfold scanLineEnd at wrong ⊢
    repeat' split at wrong
    all_goals cases wrong
    all_goals simp_all
  more more found := Nat.le_of_lt ((closing_scanLineEnd fault).more more found)
  leaves bytes := (scanLineEnd_leaves fault bytes).mono (by omega)

/-- A line feed is an empty line. -/
theorem scanEmptyLines_feed (rest : Bytes) :
    scanEmptyLines (0x0A :: rest) = scanEmptyLines rest := by
  rw [scanEmptyLines.eq_def]
  rfl

/-- A carriage return and a line feed are an empty line. -/
theorem scanEmptyLines_return_feed (rest : Bytes) :
    scanEmptyLines (0x0D :: 0x0A :: rest) = scanEmptyLines rest := by
  rw [scanEmptyLines.eq_def]
  rfl

/-- A carriage return must not stand alone. -/
theorem scanEmptyLines_return {second : UInt8} (notFeed : second ≠ 0x0A) (rest : Bytes) :
    scanEmptyLines (0x0D :: second :: rest) = .wrong .newLine := by
  rw [scanEmptyLines.eq_def]
  simp [notFeed]

/-- Any other byte ends the empty lines. -/
theorem scanEmptyLines_other {first : UInt8} (notFeed : first ≠ 0x0A) (notReturn : first ≠ 0x0D)
    (rest : Bytes) : scanEmptyLines (first :: rest) = .found () (first :: rest) := by
  rw [scanEmptyLines.eq_def]
  simp [notFeed, notReturn]

/-- The empty lines in front of a message are read forward. -/
theorem forward_scanEmptyLines : Forward scanEmptyLines where
  found {bytes value rest} found later := by
    -- Each empty line is skipped again, and the byte that ended them ends them again.
    fun_induction scanEmptyLines bytes with
    | case1 => cases found
    | case2 tail ih =>
      rw [List.cons_append, scanEmptyLines_feed]
      exact ih found
    | case3 => cases found
    | case4 tail _ ih =>
      rw [List.cons_append, List.cons_append, scanEmptyLines_return_feed]
      exact ih found
    | case5 => cases found
    | case6 first tail notFeed notReturn =>
      cases found
      exact scanEmptyLines_other notFeed notReturn (tail ++ later)
  wrong {bytes fault} wrong later := by
    -- A carriage return that stands alone stands alone again.
    fun_induction scanEmptyLines bytes with
    | case1 => cases wrong
    | case2 tail ih =>
      rw [List.cons_append, scanEmptyLines_feed]
      exact ih wrong
    | case3 => cases wrong
    | case4 tail _ ih =>
      rw [List.cons_append, List.cons_append, scanEmptyLines_return_feed]
      exact ih wrong
    | case5 _ second notFeed =>
      cases wrong
      exact scanEmptyLines_return notFeed _
    | case6 => cases wrong
  more {bytes later value rest} more found := by
    -- There were nothing but empty lines, so that all that is left is later.
    fun_induction scanEmptyLines bytes with
    | case1 => exact scanEmptyLines_leaves later value rest found
    | case2 tail ih =>
      rw [List.cons_append, scanEmptyLines_feed] at found
      exact ih more found
    | case3 =>
      -- A carriage return waits for its line feed, which can only come later.
      cases later with
      | nil => cases found
      | cons second tail =>
        by_cases feed : second = 0x0A
        · -- The empty line is complete, and others may follow it.
          subst feed
          rw [List.singleton_append, scanEmptyLines_return_feed] at found
          have bound := scanEmptyLines_leaves tail value rest found
          rw [List.length_cons]
          omega
        · rw [List.singleton_append, scanEmptyLines_return feed] at found
          cases found
    | case4 tail _ ih =>
      rw [List.cons_append, List.cons_append, scanEmptyLines_return_feed] at found
      exact ih more found
    | case5 => cases more
    | case6 => cases more
  leaves := scanEmptyLines_leaves

/-- What ends a token or a target: the text of the run, or a fault. -/
def delimited (delimiter : UInt8) (fault : HeadError) (text? : Bytes → Option String)
    (run : Bytes) (stop : UInt8) : Except HeadError String :=
  if stop = delimiter ∧ run ≠ [] then
    match text? run with
    | some text => .ok text
    | none => .error fault
  else .error fault

/-- A text between the beginning and a delimiter is read forward. -/
theorem forward_delimited (p : UInt8 → Bool) (delimiter : UInt8) (fault : HeadError)
    (text? : Bytes → Option String) :
    Forward (scanRun p fun run => scanJudged (delimited delimiter fault text? run)) :=
  Forward.run p fun _ => Forward.judged _

/-- A method is a token that a space ends. -/
theorem scanMethod_eq :
    scanMethod =
      scanRun isTokenByte fun run => scanJudged (delimited 0x20 .token (some ∘ asciiText) run) := by
  funext bytes
  unfold scanMethod scanRun
  cases bytes.dropWhile isTokenByte with
  | nil => rfl
  | cons stop rest =>
    dsimp only [scanJudged, delimited]
    split <;> rfl

/-- A method is read forward. -/
theorem forward_scanMethod : Forward scanMethod := by
  rw [scanMethod_eq]
  exact forward_delimited _ _ _ _

/-- A target is a run of target bytes that a space ends. -/
theorem scanTarget_eq :
    scanTarget =
      scanRun isTargetByte fun run => scanJudged (delimited 0x20 .token utf8Text? run) := by
  funext bytes
  unfold scanTarget scanRun
  cases bytes.dropWhile isTargetByte with
  | nil => rfl
  | cons stop rest =>
    dsimp only [scanJudged, delimited]
    split
    · cases utf8Text? (bytes.takeWhile isTargetByte) <;> rfl
    · rfl

/-- A target is read forward. -/
theorem forward_scanTarget : Forward scanTarget := by
  rw [scanTarget_eq]
  exact forward_delimited _ _ _ _

/-- Bytes that spell a version are those of its text. -/
theorem eq_text_of_ofBytes {bytes : Bytes} {version : Version}
    (spelled : Version.ofBytes bytes = .ok version) : bytes = utf8Bytes version.text := by
  -- There are two of them, and they are compared as a whole.
  unfold Version.ofBytes at spelled
  split at spelled
  · cases spelled
    assumption
  · split at spelled
    · cases spelled
      assumption
    · cases spelled

/-- Both versions begin with the same seven bytes. -/
theorem take_of_ofBytes {bytes : Bytes} {version : Version}
    (spelled : Version.ofBytes bytes = .ok version) : bytes.take 7 = versionStart := by
  rw [eq_text_of_ofBytes spelled]
  cases version <;> decide

/-- Bytes in front of a version begin as every version does, if they are too few to be one. -/
theorem prefix_versionStart {bytes later : Bytes} {version : Version} (few : bytes.length < 8)
    (spelled : Version.ofBytes ((bytes ++ later).take 8) = .ok version) :
    bytes <+: versionStart := by
  -- Seven bytes at most are there, and the seventh is the last one that versions share.
  rw [← take_of_ofBytes spelled, List.take_take]
  exact List.prefix_take_iff.2 ⟨List.prefix_append bytes later, by omega⟩

/-- A version is read forward. -/
theorem forward_scanVersion : Forward scanVersion where
  found {bytes value rest} found later := by
    unfold scanVersion at found ⊢
    dsimp only at found ⊢
    split at found
    · -- The eight bytes are there, and the later ones are not looked at.
      rename_i whole
      have enough : 8 ≤ bytes.length := by
        rw [List.length_take] at whole
        omega
      rw [List.take_append_of_le_length enough, List.drop_append_of_le_length enough, if_pos whole]
      cases spelled : Version.ofBytes (bytes.take 8) with
      | ok version => rw [spelled] at found; cases found; rfl
      | error fault => rw [spelled] at found; cases found
    · split at found <;> cases found
  wrong {bytes fault} wrong later := by
    unfold scanVersion at wrong ⊢
    dsimp only at wrong ⊢
    split at wrong
    · -- The eight bytes are there, and they are none of the versions.
      rename_i whole
      have enough : 8 ≤ bytes.length := by
        rw [List.length_take] at whole
        omega
      rw [List.take_append_of_le_length enough, if_pos whole]
      cases spelled : Version.ofBytes (bytes.take 8) with
      | ok version => rw [spelled] at wrong; cases wrong
      | error fault => rw [spelled] at wrong; cases wrong; rfl
    · -- Too few bytes are wrong if no version begins with them, and then none ever will.
      rename_i part
      have few : bytes.length < 8 := by
        rw [List.length_take] at part
        omega
      rw [List.take_of_length_le (by omega)] at wrong
      split at wrong
      · cases wrong
      · rename_i strange
        cases wrong
        rw [List.isPrefixOf_iff_prefix] at strange
        split
        · -- A whole version would begin with what is there.
          cases spelled : Version.ofBytes ((bytes ++ later).take 8) with
          | ok version => exact absurd (prefix_versionStart few spelled) strange
          | error fault => rfl
        · -- Still too few bytes, and no version begins with them either.
          rename_i short
          rw [if_neg]
          intro front
          rw [List.isPrefixOf_iff_prefix] at front
          have before : bytes <+: (bytes ++ later).take 8 :=
            List.prefix_take_iff.2 ⟨List.prefix_append bytes later, by omega⟩
          exact strange (before.trans front)
  more {bytes later value rest} more found := by
    unfold scanVersion at more found
    dsimp only at more found
    split at more
    · -- Eight bytes are enough for a verdict.
      cases spelled : Version.ofBytes (bytes.take 8) with
      | ok version => rw [spelled] at more; cases more
      | error fault => rw [spelled] at more; cases more
    · -- Fewer than eight bytes were there, so that the version ends among the later ones.
      rename_i part
      rw [List.length_take] at part
      split at found
      · cases spelled : Version.ofBytes ((bytes ++ later).take 8) with
        | ok version =>
          rw [spelled] at found
          cases found
          rw [List.length_drop, List.length_append]
          omega
        | error fault => rw [spelled] at found; cases found
      · split at found <;> cases found
  leaves := scanVersion_leaves

/-- A header name is a token that a colon ends. -/
theorem scanFieldName_eq :
    scanFieldName =
      scanRun isTokenByte fun run =>
        scanJudged (delimited 0x3A .headerName (some ∘ asciiText) run) := by
  funext bytes
  unfold scanFieldName scanRun
  cases bytes.dropWhile isTokenByte with
  | nil => rfl
  | cons stop rest =>
    dsimp only [scanJudged, delimited]
    split <;> rfl

/-- A header name is read forward. -/
theorem forward_scanFieldName : Forward scanFieldName := by
  rw [scanFieldName_eq]
  exact forward_delimited _ _ _ _

/-- A header value is the run behind the padding, which the end of the line stops. -/
theorem scanFieldValue_eq :
    scanFieldValue =
      scanRun isPadByte fun _ => scanRun isTextByte fun value bytes =>
        (scanLineEnd .headerValue bytes).map fun _ =>
          (value.reverse.dropWhile isPadByte).reverse := by
  funext bytes
  unfold scanFieldValue scanRun
  cases padded : bytes.dropWhile isPadByte with
  | nil => rfl
  | cons first rest =>
    dsimp only
    cases (first :: rest).dropWhile isTextByte with
    | nil => rfl
    | cons stop rest => rfl

/-- A header value is read forward. -/
theorem forward_scanFieldValue : Forward scanFieldValue := by
  rw [scanFieldValue_eq]
  exact Forward.run _ fun _ => Forward.run _ fun _ => (forward_scanLineEnd _).map _

/-- A header line is read forward. -/
theorem forward_scanField : Forward scanField :=
  -- A name, and then a value that goes with it.
  forward_scanFieldName.andThen fun _ => forward_scanFieldValue.map _

/-- The end of the head, or one header line and what is read behind it. -/
def scanLine (behind : RawField → Bytes → Scan (List RawField)) : Bytes → Scan (List RawField) :=
  scanPeek fun first bytes =>
    if first = 0x0A ∨ first = 0x0D then (scanLineEnd .newLine bytes).map fun _ => []
    else (scanField bytes).andThen behind

/-- A header line or the end of the head is read forward, if what is behind the line is. -/
theorem forward_scanLine {behind : RawField → Bytes → Scan (List RawField)}
    (each : ∀ field, Forward (behind field)) : Forward (scanLine behind) := by
  -- The first byte decides which of the two it is.
  refine Forward.peek fun first => ?_
  split
  · exact (forward_scanLineEnd _).map _
  · exact forward_scanField.andThen each

/-- A header line or the end of the head is read to its end, if what is behind the line is. -/
theorem closing_scanLine {behind : RawField → Bytes → Scan (List RawField)}
    (each : ∀ field, Closing (behind field)) : Closing (scanLine behind) := by
  refine Closing.peek fun first => ?_
  split
  · exact (closing_scanLineEnd _).map _
  · exact forward_scanField.closing each

/-- Without room there is a fault behind a header line. -/
theorem scanFields_zero : scanFields 0 = scanLine fun _ _ => .wrong .tooManyHeaders := by
  funext bytes
  cases bytes <;> rw [scanFields] <;> rfl

/-- Behind a header line there is room for one line less. -/
theorem scanFields_succ (room : Nat) :
    scanFields (room + 1) = scanLine fun field rest => (scanFields room rest).map (field :: ·) := by
  funext bytes
  cases bytes <;> rw [scanFields] <;> rfl

/-- The header lines are read forward, however many there is room for. -/
theorem forward_scanFields (room : Nat) : Forward (scanFields room) := by
  induction room with
  | zero =>
    rw [scanFields_zero]
    exact forward_scanLine fun _ => Forward.at_fault _
  | succ room ih =>
    rw [scanFields_succ]
    exact forward_scanLine fun _ => ih.map _

/-- The header lines are read up to the last byte of the empty one. -/
theorem closing_scanFields (room : Nat) : Closing (scanFields room) := by
  induction room with
  | zero =>
    rw [scanFields_zero]
    exact closing_scanLine fun _ => Closing.at_fault _
  | succ room ih =>
    rw [scanFields_succ]
    exact closing_scanLine fun _ => ih.map _

/-- The head of a request is read forward. -/
theorem forward_scanRequestHead : Forward scanRequestHead :=
  -- Part by part, in the order in which they stand.
  forward_scanEmptyLines.andThen fun _ =>
  forward_scanMethod.andThen fun _ =>
  forward_scanTarget.andThen fun _ =>
  forward_scanVersion.andThen fun _ =>
  (forward_scanLineEnd _).andThen fun _ =>
  (forward_scanFields _).map _

/-- The head of a request ends with the empty line. -/
theorem closing_scanRequestHead : Closing scanRequestHead :=
  forward_scanEmptyLines.closing fun _ =>
  forward_scanMethod.closing fun _ =>
  forward_scanTarget.closing fun _ =>
  forward_scanVersion.closing fun _ =>
  (forward_scanLineEnd _).closing fun _ =>
  (closing_scanFields _).map _

/-- One byte that has to be there is read forward. -/
theorem forward_scanByte (expected : UInt8) (fault : HeadError) :
    Forward (scanByte expected fault) := by
  -- It is a verdict on the byte.
  have same : scanByte expected fault =
      scanJudged fun first => if first = expected then .ok () else .error fault := by
    funext bytes
    cases bytes with
    | nil => rfl
    | cons first rest =>
      simp only [scanByte, scanJudged]
      split <;> rfl
  rw [same]
  exact Forward.judged _

/-- A digit is read forward. -/
theorem forward_scanDigit : Forward scanDigit := by
  have same : scanDigit = scanJudged fun first =>
      if 0x30 ≤ first ∧ first ≤ 0x39 then .ok (first.toNat - 0x30) else .error .status := by
    funext bytes
    cases bytes with
    | nil => rfl
    | cons first rest =>
      simp only [scanDigit, scanJudged]
      split <;> rfl
  rw [same]
  exact Forward.judged _

/-- A status code is read forward. -/
theorem forward_scanCode : Forward scanCode :=
  forward_scanDigit.andThen fun _ =>
  forward_scanDigit.andThen fun _ =>
  forward_scanDigit.map _

/-- A reason phrase is read forward. -/
theorem forward_scanReason : Forward scanReason := by
  -- The space in front of the phrase is a byte of text too, so that there is one run.
  have same : scanReason = scanPeek fun first =>
      if first = 0x20 then scanRun isTextByte fun _ => scanLineEnd .status
      else scanLineEnd .status := by
    funext bytes
    cases bytes with
    | nil => rfl
    | cons first rest =>
      simp only [scanReason, scanPeek]
      split
      · rename_i space
        rw [scanRun, space, List.dropWhile_cons_of_pos (by decide)]
        cases rest.dropWhile isTextByte <;> rfl
      · rfl
  rw [same]
  refine Forward.peek fun first => ?_
  split
  · exact Forward.run _ fun _ => forward_scanLineEnd _
  · exact forward_scanLineEnd _

/-- The head of a response is read forward. -/
theorem forward_scanResponseHead : Forward scanResponseHead :=
  forward_scanEmptyLines.andThen fun _ =>
  forward_scanVersion.andThen fun _ =>
  (forward_scanByte _ _).andThen fun _ =>
  forward_scanCode.andThen fun _ =>
  forward_scanReason.andThen fun _ =>
  (forward_scanFields _).map _

/-- The head of a response ends with the empty line. -/
theorem closing_scanResponseHead : Closing scanResponseHead :=
  forward_scanEmptyLines.closing fun _ =>
  forward_scanVersion.closing fun _ =>
  (forward_scanByte _ _).closing fun _ =>
  forward_scanCode.closing fun _ =>
  forward_scanReason.closing fun _ =>
  (closing_scanFields _).map _

end HttpEngine
