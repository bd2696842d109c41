import HttpEngine.Inbound.Session
import HttpEngine.Proofs.Wire.RequestStream
import Mathlib.Data.List.TakeWhile

/-!
Blank lines in a request. As long as its head has no end, two ends of line of two bytes each stand in
a row at most in front of it, among the empty lines that are skipped. A head that has an end has them
there, or where it ends.
-/

namespace HttpEngine

variable {α β : Type}

/-- Two ends of a line in a row, of two bytes each. -/
def blankLine : Bytes := [0x0D, 0x0A, 0x0D, 0x0A]

/-- A blank line is somewhere in the bytes. -/
theorem hasBlankLine_iff {bytes : Bytes} : hasBlankLine bytes = true ↔ blankLine <:+: bytes := by
  induction bytes with
  | nil => simp [hasBlankLine, blankLine]
  | cons byte rest ih =>
    rw [hasBlankLine, Bool.or_eq_true, ih, List.isPrefixOf_iff_prefix, List.infix_cons_iff]
    rfl

/-- Without a line feed there is no blank line. -/
theorem hasBlankLine_of_no_feed {bytes : Bytes} (noFeed : 0x0A ∉ bytes) :
    hasBlankLine bytes = false := by
  rw [Bool.eq_false_iff, ne_eq, hasBlankLine_iff]
  intro inside
  exact noFeed (inside.mem (by decide))

/-- A blank line does not begin in front of a carriage return. -/
theorem hasBlankLine_append_of_no_return {line : Bytes} (noReturn : 0x0D ∉ line) (rest : Bytes) :
    hasBlankLine (line ++ rest) = hasBlankLine rest := by
  induction line with
  | nil => rfl
  | cons byte others ih =>
    rw [List.mem_cons, not_or] at noReturn
    rw [List.cons_append, hasBlankLine, ih noReturn.2, List.isPrefixOf, beq_false_of_ne noReturn.1]
    rfl

/-- What begins bytes and does not hold one of them ends in front of it. -/
theorem prefix_of_not_mem {list front rest : Bytes} {stop : UInt8} (absent : stop ∉ list)
    (inside : list <+: front ++ stop :: rest) : list <+: front := by
  have upTo : front ++ [stop] <+: front ++ stop :: rest := ⟨rest, by simp⟩
  -- It ends in front of the byte or behind it, and behind it the byte would be in it.
  rcases List.prefix_or_prefix_of_prefix inside upTo with short | long
  · rcases List.prefix_concat_iff.1 short with rfl | before
    · exact absurd (List.mem_append_right front (List.mem_singleton_self stop)) absent
    · exact before
  · exact absurd (long.mem (List.mem_append_right front (List.mem_singleton_self stop))) absent

/-- A blank line does not go across a byte that is none of its own. -/
theorem hasBlankLine_append_stop {stop : UInt8} (foreign : stop ∉ blankLine) (front rest : Bytes) :
    hasBlankLine (front ++ stop :: rest) = (hasBlankLine front || hasBlankLine rest) := by
  induction front with
  | nil =>
    -- The byte itself begins no blank line.
    have noReturn : 0x0D ∉ [stop] := by
      intro same
      rw [← List.mem_singleton.1 same] at foreign
      exact foreign (by decide)
    exact hasBlankLine_append_of_no_return noReturn rest
  | cons byte others ih =>
    -- A blank line that begins in front of the byte has to end there as well.
    have same : blankLine.isPrefixOf (byte :: (others ++ stop :: rest)) =
        blankLine.isPrefixOf (byte :: others) := by
      rw [Bool.eq_iff_iff, List.isPrefixOf_iff_prefix, List.isPrefixOf_iff_prefix]
      constructor
      · intro inside
        rw [← List.cons_append] at inside
        exact prefix_of_not_mem foreign inside
      · intro inside
        exact inside.trans (List.prefix_append (byte :: others) _)
    rw [List.cons_append, hasBlankLine, hasBlankLine, ih, ← Bool.or_assoc]
    exact congrArg (· || hasBlankLine others || hasBlankLine rest) same

/-- The ends that a line may have. -/
def lineEnds : List Bytes := [[0x0A], [0x0D, 0x0A]]

/-- The end of a line makes a blank line only together with one right behind it. -/
theorem hasBlankLine_lineEnd {ending bytes : Bytes} (ends : ending ∈ lineEnds)
    (front : ¬ [0x0D, 0x0A] <+: bytes) : hasBlankLine (ending ++ bytes) = hasBlankLine bytes := by
  -- A line feed begins no blank line, and so the second one is left.
  have feed : hasBlankLine ([0x0A] ++ bytes) = hasBlankLine bytes :=
    hasBlankLine_append_of_no_return (by decide) bytes
  rcases List.mem_cons.1 ends with rfl | ends
  · exact feed
  · rw [List.mem_singleton.1 ends]
    have noSecond : blankLine.isPrefixOf (0x0D :: 0x0A :: bytes) = false := by
      rw [Bool.eq_false_iff, ne_eq, List.isPrefixOf_iff_prefix]
      intro second
      exact front ((List.prefix_cons_inj _).1 ((List.prefix_cons_inj _).1 second))
    calc hasBlankLine (0x0D :: 0x0A :: bytes)
        = (blankLine.isPrefixOf (0x0D :: 0x0A :: bytes) || hasBlankLine (0x0A :: bytes)) := rfl
      _ = hasBlankLine bytes := by rw [noSecond, Bool.false_or]; exact feed

/-- A reading that takes bytes without an end of a line, and one of some endings behind them. -/
structure WithinLine (endings : List Bytes) (read : Bytes → Scan α) : Prop where
  found : ∀ {bytes value rest}, read bytes = .found value rest →
    ∃ line, ∃ ending ∈ endings, bytes = line ++ (ending ++ rest) ∧ 0x0D ∉ line ∧ 0x0A ∉ line
  /-- What waits for more has seen no end of a line. -/
  more : ∀ {bytes}, read bytes = .more → 0x0A ∉ bytes

namespace WithinLine

variable {endings : List Bytes} {read : Bytes → Scan α}

/-- A part of a line and what is read behind it. -/
theorem andThen {next : α → Bytes → Scan β} (first : WithinLine [[]] read)
    (second : ∀ value, WithinLine endings (next value)) :
    WithinLine endings fun bytes => (read bytes).andThen next where
  found {bytes value rest} found := by
    obtain ⟨inner, middle, reading, behind⟩ := Scan.found_of_andThen found
    -- The first part has no ending, so that the second one goes on in the same line.
    obtain ⟨line, _, among, rfl, noReturn, noFeed⟩ := first.found reading
    obtain rfl := List.mem_singleton.1 among
    obtain ⟨others, ending, ends, rfl, noReturns, noFeeds⟩ := (second inner).found behind
    exact ⟨line ++ others, ending, ends, by simp, by simp [noReturn, noReturns],
      by simp [noFeed, noFeeds]⟩
  more {bytes} more := by
    -- An open first part has no line feed, and neither has a second one that is open.
    cases reading : read bytes with
    | found inner middle =>
      rw [reading] at more
      obtain ⟨line, _, among, rfl, noReturn, noFeed⟩ := first.found reading
      obtain rfl := List.mem_singleton.1 among
      have behind := (second inner).more more
      simp [noFeed, behind]
    | more => exact first.more reading
    | wrong fault => rw [reading] at more; cases more

/-- Another value is read from the same bytes. -/
theorem map (within : WithinLine endings read) (f : α → β) :
    WithinLine endings fun bytes => (read bytes).map f where
  found found := by
    obtain ⟨_, found, -⟩ := Scan.found_of_map found
    exact within.found found
  more more := within.more (Scan.more_of_map more)

/-- A run of bytes that are no ends of a line, and what is read behind it. -/
theorem run {p : UInt8 → Bool} (noReturn : p 0x0D = false) (noFeed : p 0x0A = false)
    {next : Bytes → Bytes → Scan α} (each : ∀ run, WithinLine endings (next run)) :
    WithinLine endings (scanRun p next) := by
  -- No byte of the run is one that stops it.
  have foreign {byte : UInt8} (stops : p byte = false) (bytes : Bytes) :
      byte ∉ bytes.takeWhile p := by
    intro member
    rw [List.mem_takeWhile_imp member] at stops
    cases stops
  constructor
  · intro bytes value rest found
    unfold scanRun at found
    cases stopped : bytes.dropWhile p with
    | nil => rw [stopped] at found; cases found
    | cons stop tail =>
      rw [stopped] at found
      obtain ⟨line, ending, among, split, noReturns, noFeeds⟩ := (each _).found found
      refine ⟨bytes.takeWhile p ++ line, ending, among, ?_, ?_, ?_⟩
      · rw [List.append_assoc, ← split, ← stopped, List.takeWhile_append_dropWhile]
      · simp [foreign noReturn, noReturns]
      · simp [foreign noFeed, noFeeds]
  · intro bytes more
    unfold scanRun at more
    rw [← List.takeWhile_append_dropWhile (p := p) (l := bytes), List.mem_append, not_or]
    refine ⟨foreign noFeed bytes, ?_⟩
    cases stopped : bytes.dropWhile p with
    | nil => exact List.not_mem_nil
    | cons stop tail =>
      rw [stopped] at more
      exact (each _).more more

/-- A verdict on one byte that is no end of a line. -/
theorem judged {verdict : UInt8 → Except HeadError α}
    (refuses : ∀ byte value, verdict byte = .ok value → byte ≠ 0x0D ∧ byte ≠ 0x0A) :
    WithinLine [[]] (scanJudged verdict) where
  found {bytes value rest} found := by
    -- The one byte that is taken is neither of the two.
    cases bytes with
    | nil => cases found
    | cons first tail =>
      simp only [scanJudged] at found
      cases judged : verdict first with
      | error fault => rw [judged] at found; cases found
      | ok accepted =>
        rw [judged] at found
        obtain ⟨noReturn, noFeed⟩ := refuses first accepted judged
        cases found
        exact ⟨[first], [], by simp, rfl, by simp [noReturn.symm], by simp [noFeed.symm]⟩
  more {bytes} more := by
    cases bytes with
    | nil => exact List.not_mem_nil
    | cons first tail =>
      simp only [scanJudged] at more
      cases judged : verdict first with
      | error fault => rw [judged] at more; cases more
      | ok accepted => rw [judged] at more; cases more

/-- A text that a byte other than the ends of a line delimits. -/
theorem delimited {p : UInt8 → Bool} (noReturn : p 0x0D = false) (noFeed : p 0x0A = false)
    {delimiter : UInt8} (inside : delimiter ≠ 0x0D ∧ delimiter ≠ 0x0A) (fault : HeadError)
    (text? : Bytes → Option String) :
    WithinLine [[]] (scanRun p fun run =>
      scanJudged (HttpEngine.delimited delimiter fault text? run)) := by
  refine run noReturn noFeed fun _ => judged fun byte value accepted => ?_
  -- The verdict accepts no byte but the delimiter.
  unfold HttpEngine.delimited at accepted
  split at accepted
  · rename_i ends
    rw [ends.1]
    exact inside
  · cases accepted

end WithinLine

/-- The end of a line is one of the two. -/
theorem withinLine_scanLineEnd (fault : HeadError) : WithinLine lineEnds (scanLineEnd fault) where
  found {bytes value rest} found := by
    unfold scanLineEnd at found
    repeat' split at found
    all_goals cases found
    · exact ⟨[], [0x0A], by simp [lineEnds], by simp_all⟩
    · exact ⟨[], [0x0D, 0x0A], by simp [lineEnds], by simp_all⟩
  more {bytes} more := by
    unfold scanLineEnd at more
    repeat' split at more
    all_goals first
      | cases more; done
      | simp_all

/-- A method stands within a line. -/
theorem withinLine_scanMethod : WithinLine [[]] scanMethod := by
  rw [scanMethod_eq]
  exact .delimited (by decide) (by decide) (by decide) _ _

/-- A target stands within a line. -/
theorem withinLine_scanTarget : WithinLine [[]] scanTarget := by
  rw [scanTarget_eq]
  exact .delimited (by decide) (by decide) (by decide) _ _

/-- The bytes of a version are no ends of a line. -/
theorem not_mem_of_ofBytes {bytes : Bytes} {version : Version}
    (spelled : Version.ofBytes bytes = .ok version) : 0x0D ∉ bytes ∧ 0x0A ∉ bytes := by
  rw [eq_text_of_ofBytes spelled]
  cases version <;> decide

/-- A version stands within a line. -/
theorem withinLine_scanVersion : WithinLine [[]] scanVersion where
  found {bytes value rest} found := by
    unfold scanVersion at found
    dsimp only at found
    split at found
    · -- Eight bytes are taken, and they are those of a version.
      cases spelled : Version.ofBytes (bytes.take 8) with
      | ok version =>
        rw [spelled] at found
        cases found
        obtain ⟨noReturn, noFeed⟩ := not_mem_of_ofBytes spelled
        exact ⟨bytes.take 8, [], List.mem_singleton_self [], by simp, noReturn, noFeed⟩
      | error fault => rw [spelled] at found; cases found
    · split at found <;> cases found
  more {bytes} more := by
    unfold scanVersion at more
    dsimp only at more
    split at more
    · cases spelled : Version.ofBytes (bytes.take 8) with
      | ok version => rw [spelled] at more; cases more
      | error fault => rw [spelled] at more; cases more
    · -- All that is there is what versions begin with.
      rename_i part
      split at more
      · rename_i starts
        have few : bytes.length ≤ 8 := by
          rw [List.length_take] at part
          omega
        rw [List.take_of_length_le few, List.isPrefixOf_iff_prefix] at starts
        intro member
        exact absurd (starts.mem member) (by decide)
      · cases more

/-- A header line is a line. -/
theorem withinLine_scanField : WithinLine lineEnds scanField := by
  have name : WithinLine [[]] scanFieldName := by
    rw [scanFieldName_eq]
    exact .delimited (by decide) (by decide) (by decide) _ _
  have value : WithinLine lineEnds scanFieldValue := by
    rw [scanFieldValue_eq]
    exact .run (by decide) (by decide) fun _ => .run (by decide) (by decide) fun _ =>
      (withinLine_scanLineEnd _).map _
  exact name.andThen fun _ => value.map _

/--
Where a part of a line is read and what is behind it waits, there is no blank line, if none is from
the ending on.
-/
theorem WithinLine.unblank {endings : List Bytes} {read : Bytes → Scan α}
    (within : WithinLine endings read) {next : α → Bytes → Scan β}
    (behind : ∀ value rest, next value rest = .more →
      ∀ ending ∈ endings, hasBlankLine (ending ++ rest) = false)
    {bytes : Bytes} (more : (read bytes).andThen next = .more) : hasBlankLine bytes = false := by
  cases reading : read bytes with
  | found value rest =>
    rw [reading] at more
    obtain ⟨line, ending, among, rfl, noReturn, -⟩ := within.found reading
    rw [hasBlankLine_append_of_no_return noReturn]
    exact behind value rest more ending among
  | more => exact hasBlankLine_of_no_feed (within.more reading)
  | wrong fault => rw [reading] at more; cases more

/-- Within a line nothing has to be looked at but what is behind the part. -/
theorem WithinLine.unblank_inside {read : Bytes → Scan α} (within : WithinLine [[]] read)
    {next : α → Bytes → Scan β}
    (behind : ∀ value rest, next value rest = .more → hasBlankLine rest = false)
    {bytes : Bytes} (more : (read bytes).andThen next = .more) : hasBlankLine bytes = false := by
  refine within.unblank (fun value rest waits ending among => ?_) more
  rw [List.mem_singleton.1 among]
  exact behind value rest waits

/-- Header lines that have no end yet hold no blank line, and make none with the line before. -/
theorem unblank_scanLine {behind : RawField → Bytes → Scan (List RawField)}
    (waits : ∀ field rest, behind field rest = .more →
      ∀ ending ∈ lineEnds, hasBlankLine (ending ++ rest) = false)
    {bytes : Bytes} (more : scanLine behind bytes = .more) :
    ∀ ending ∈ lineEnds, hasBlankLine (ending ++ bytes) = false := by
  intro ending ends
  -- It is enough that there is none, and that the bytes do not go on with the second half of one.
  suffices apart : hasBlankLine bytes = false ∧ ¬ [0x0D, 0x0A] <+: bytes by
    rw [hasBlankLine_lineEnd ends apart.2, apart.1]
  cases bytes with
  | nil => exact ⟨rfl, by simp⟩
  | cons first rest =>
    simp only [scanLine, scanPeek] at more
    split at more
    · -- Of the empty line the carriage return is there at most.
      have noFeed : 0x0A ∉ first :: rest :=
        ((withinLine_scanLineEnd .newLine).map fun _ => ([] : List RawField)).more more
      exact ⟨hasBlankLine_of_no_feed noFeed, fun front => noFeed (front.mem (by decide))⟩
    · -- The line begins with another byte.
      rename_i other
      refine ⟨withinLine_scanField.unblank waits more, fun front => other (.inr ?_)⟩
      exact (List.cons_prefix_cons.1 front).1.symm

/-- The same, however many lines there is room for. -/
theorem unblank_scanFields {room : Nat} {bytes : Bytes} (more : scanFields room bytes = .more) :
    ∀ ending ∈ lineEnds, hasBlankLine (ending ++ bytes) = false := by
  induction room generalizing bytes with
  | zero =>
    -- Behind a line there is no room, so that nothing is waited for there.
    rw [scanFields_zero] at more
    exact unblank_scanLine (fun _ _ waits => by cases waits) more
  | succ room ih =>
    rw [scanFields_succ] at more
    exact unblank_scanLine (fun _ _ waits => ih (Scan.more_of_map waits)) more

/-- The bytes of which ends of lines are made. -/
def isLineEndByte (byte : UInt8) : Bool := byte == 0x0D || byte == 0x0A

/-- The empty lines in front of a request, as far as they go. -/
def emptyLines (bytes : Bytes) : Bytes := bytes.takeWhile isLineEndByte

/-- The empty lines are read up to the first byte that ends no line. -/
theorem scanEmptyLines_found {bytes rest : Bytes} (found : scanEmptyLines bytes = .found () rest) :
    rest = bytes.dropWhile isLineEndByte ∧ rest ≠ [] := by
  -- The induction follows the ends of lines, of one byte or of two.
  fun_induction scanEmptyLines bytes with
  | case1 => cases found
  | case2 rest ih => exact ih found
  | case3 => cases found
  | case4 _ rest ih => exact ih found
  | case5 => cases found
  | case6 first rest notFeed notReturn =>
    cases found
    have stops : isLineEndByte first = false := by simp [isLineEndByte, notFeed, notReturn]
    rw [List.dropWhile_cons_of_neg (by simp [stops])]
    exact ⟨rfl, List.cons_ne_nil _ _⟩

/-- Where the first byte of a request is still awaited, there are only empty lines. -/
theorem scanEmptyLines_more {bytes : Bytes} (more : scanEmptyLines bytes = .more) :
    emptyLines bytes = bytes := by
  fun_induction scanEmptyLines bytes with
  | case1 => rfl
  | case2 rest ih => exact congrArg (0x0A :: ·) (ih more)
  | case3 => rfl
  | case4 _ rest ih => exact congrArg (0x0D :: 0x0A :: ·) (ih more)
  | case5 => cases more
  | case6 => cases more

/-- The first line of a request and its header lines hold no blank line while they have no end. -/
theorem unblank_firstLine {bytes : Bytes}
    (more : ((scanMethod bytes).andThen fun method rest =>
      (scanTarget rest).andThen fun target rest =>
      (scanVersion rest).andThen fun version rest =>
      (scanLineEnd .newLine rest).andThen fun _ rest =>
      (scanFields maxHeaders rest).map fun fields =>
        (⟨method, target, version, fields⟩ : RequestHead)) = .more) :
    hasBlankLine bytes = false :=
  -- The parts stand in one line, and only the end of that line touches what is behind it.
  withinLine_scanMethod.unblank_inside (fun _ _ behindMethod =>
    withinLine_scanTarget.unblank_inside (fun _ _ behindTarget =>
      withinLine_scanVersion.unblank_inside (fun _ _ behindVersion =>
        (withinLine_scanLineEnd .newLine).unblank (fun _ _ fields =>
          unblank_scanFields (Scan.more_of_map fields)) behindVersion) behindTarget)
      behindMethod) more

/-- No blank line goes across the first byte behind the empty lines. -/
theorem hasBlankLine_split {bytes : Bytes} (begun : bytes.dropWhile isLineEndByte ≠ []) :
    hasBlankLine bytes =
      (hasBlankLine (emptyLines bytes) || hasBlankLine (bytes.dropWhile isLineEndByte)) := by
  have whole : emptyLines bytes ++ bytes.dropWhile isLineEndByte = bytes :=
    List.takeWhile_append_dropWhile
  obtain ⟨stop, tail, left⟩ := List.exists_cons_of_ne_nil begun
  have stops : isLineEndByte stop = false := by
    have front := List.head?_dropWhile_not isLineEndByte bytes
    rw [left] at front
    simpa using front
  obtain ⟨noReturn, noFeed⟩ : stop ≠ 0x0D ∧ stop ≠ 0x0A := by
    simpa [isLineEndByte] using stops
  -- So the byte keeps the two parts from making a blank line together.
  have foreign : stop ∉ blankLine := by simp [blankLine, noReturn, noFeed]
  have inside : hasBlankLine (stop :: tail) = hasBlankLine tail :=
    hasBlankLine_append_of_no_return (List.mem_singleton.not.2 noReturn.symm) tail
  calc hasBlankLine bytes
      = hasBlankLine (emptyLines bytes ++ stop :: tail) := by rw [← left, whole]
    _ = (hasBlankLine (emptyLines bytes) || hasBlankLine tail) :=
      hasBlankLine_append_stop foreign (emptyLines bytes) tail
    _ = _ := by rw [left, inside]

/-- While a head has no end, a blank line is among the empty lines in front of it or nowhere. -/
theorem hasBlankLine_of_open {bytes : Bytes} (scanned : scanRequestHead bytes = .more) :
    hasBlankLine bytes = hasBlankLine (emptyLines bytes) := by
  unfold scanRequestHead at scanned
  cases skipped : scanEmptyLines bytes with
  | more => rw [scanEmptyLines_more skipped]
  | wrong fault => rw [skipped] at scanned; cases scanned
  | found nothing rest =>
    rw [skipped] at scanned
    obtain ⟨rfl, begun⟩ := scanEmptyLines_found skipped
    rw [hasBlankLine_split begun, unblank_firstLine scanned, Bool.or_false]

/-- A whole head is at the front of the bytes. -/
def headIsThere (bytes : Bytes) : Bool :=
  match scanRequestHead bytes with
  | .found _ _ => true
  | _ => false

/-- The empty lines in front of a part are some of those in front of all bytes. -/
theorem emptyLines_among {front bytes : Bytes} (among : front <+: bytes) :
    emptyLines front <+: emptyLines bytes := by
  obtain ⟨later, rfl⟩ := among
  unfold emptyLines
  rw [List.takeWhile_append]
  split
  · -- The part is made of empty lines alone, which may go on behind it.
    rename_i all
    rw [(List.takeWhile_prefix isLineEndByte).eq_of_length all]
    exact List.prefix_append front _
  · exact List.prefix_rfl

/-- What is in a part is in all bytes. -/
theorem hasBlankLine_of_prefix {front bytes : Bytes} (among : front <+: bytes)
    (there : hasBlankLine front = true) : hasBlankLine bytes = true := by
  rw [hasBlankLine_iff] at there ⊢
  exact there.trans among.isInfix

/--
Where a blank line is, if the bytes begin as a request does: among the empty lines in front, or else
a whole head is there, and a blank line ends with it or behind it.
-/
theorem hasBlankLine_iff_of_request {bytes : Bytes}
    (fine : ∀ fault, scanRequestHead bytes ≠ .wrong fault) :
    hasBlankLine bytes = true ↔
      hasBlankLine (emptyLines bytes) = true ∨
        headIsThere bytes = true ∧
          ∃ front, front <+: bytes ∧ headExtent bytes ≤ front.length ∧ blankLine <:+ front := by
  constructor
  · intro there
    cases scanned : scanRequestHead bytes with
    | wrong fault => exact absurd scanned (fine fault)
    | more =>
      -- An open head has a blank line only among its empty lines.
      exact .inl (hasBlankLine_of_open scanned ▸ there)
    | found head rest =>
      obtain ⟨before, behind, whole⟩ := hasBlankLine_iff.1 there
      have among : before ++ blankLine <+: bytes := ⟨behind, whole⟩
      have extent : headExtent bytes = bytes.length - rest.length := by rw [headExtent, scanned]
      rcases Nat.lt_or_ge (before ++ blankLine).length (headExtent bytes) with short | long
      · -- It ends in front of the end of the head, where the head has no end yet.
        left
        rw [extent, ← whole] at short
        rw [← whole] at scanned
        have waits := (closing_scanRequestHead.more_iff forward_scanRequestHead scanned).2 short
        have inside : hasBlankLine (before ++ blankLine) = true :=
          hasBlankLine_iff.2 (List.suffix_append before blankLine).isInfix
        rw [hasBlankLine_of_open waits] at inside
        exact hasBlankLine_of_prefix (emptyLines_among among) inside
      · -- It ends with the head or behind it.
        right
        exact ⟨by rw [headIsThere, scanned], _, among, long, List.suffix_append _ _⟩
  · -- A blank line in a front is one in the whole.
    rintro (empty | ⟨-, front, among, -, ends⟩)
    · exact hasBlankLine_of_prefix (List.takeWhile_prefix _) empty
    · exact hasBlankLine_of_prefix among (hasBlankLine_iff.2 ends.isInfix)

end HttpEngine
