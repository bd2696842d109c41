import HttpEngine.Wire.Progress

/-! Readings go forward: bytes that come later do not change what was said about those before. -/

namespace HttpEngine

variable {α β : Type}

/-- Where two readings find something, the second one finds it behind what the first one found. -/
theorem Scan.found_of_andThen {scan : Scan α} {next : α → Bytes → Scan β} {value : β}
    {rest : Bytes} (found : scan.andThen next = .found value rest) :
    ∃ first behind, scan = .found first behind ∧ next first behind = .found value rest := by
  cases scan with
  | found first behind => exact ⟨first, behind, rfl, found⟩
  | more => cases found
  | wrong fault => cases found

/-- Where a reading with another value finds something, it comes from a value that was found. -/
theorem Scan.found_of_map {scan : Scan α} {f : α → β} {value : β} {rest : Bytes}
    (found : scan.map f = .found value rest) :
    ∃ first, scan = .found first rest ∧ f first = value := by
  obtain ⟨first, behind, scanned, same⟩ := Scan.found_of_andThen found
  cases same
  exact ⟨first, scanned, rfl⟩

/-- What waits after its value was made into another waited before. -/
theorem Scan.more_of_map {scan : Scan α} {f : α → β} (more : scan.map f = .more) :
    scan = .more := by
  cases scan with
  | found value rest => cases more
  | more => rfl
  | wrong fault => cases more

/-- A reading that says the same about some bytes whatever comes behind them. -/
structure Forward (read : Bytes → Scan α) : Prop where
  /-- What was found stays found, and the later bytes stand behind the rest. -/
  found : ∀ {bytes value rest}, read bytes = .found value rest →
    ∀ later, read (bytes ++ later) = .found value (rest ++ later)
  /-- What was wrong stays wrong in the same way. -/
  wrong : ∀ {bytes fault}, read bytes = .wrong fault → ∀ later, read (bytes ++ later) = .wrong fault
  /-- What needed more bytes does not end before they begin. -/
  more : ∀ {bytes later value rest}, read bytes = .more →
    read (bytes ++ later) = .found value rest → rest.length ≤ later.length
  /-- The rest is no longer than the bytes. -/
  leaves : ∀ bytes, (read bytes).LeavesAtMost bytes.length

namespace Forward

/-- How many bytes a reading takes does not depend on what comes behind them. -/
theorem taken_append {read : Bytes → Scan α} (forward : Forward read) {bytes rest : Bytes}
    {value : α} (found : read bytes = .found value rest) (later : Bytes) :
    (bytes ++ later).length - (rest ++ later).length = bytes.length - rest.length := by
  -- The rest is no longer than the bytes, so that nothing is cut off by the subtraction.
  have bound := forward.leaves bytes value rest found
  rw [List.length_append, List.length_append]
  omega

/-- Two readings one after the other go forward if both do. -/
theorem andThen {read : Bytes → Scan α} {next : α → Bytes → Scan β} (first : Forward read)
    (second : ∀ value, Forward (next value)) : Forward fun bytes => (read bytes).andThen next where
  found {bytes value rest} found later := by
    -- Both readings found something, and each of them finds it again.
    cases reading : read bytes with
    | found inner middle =>
      rw [reading] at found
      rw [first.found reading later]
      exact (second inner).found found later
    | more => rw [reading] at found; cases found
    | wrong fault => rw [reading] at found; cases found
  wrong {bytes fault} wrong later := by
    -- Either reading may be the one that failed.
    cases reading : read bytes with
    | found inner middle =>
      rw [reading] at wrong
      rw [first.found reading later]
      exact (second inner).wrong wrong later
    | more => rw [reading] at wrong; cases wrong
    | wrong early =>
      rw [reading] at wrong
      cases wrong
      rw [first.wrong reading later]
      rfl
  more {bytes later value rest} more found := by
    -- Either of the two may have been the one that needed more.
    cases reading : read bytes with
    | found inner middle =>
      -- The second reading needed more bytes behind what the first one had left.
      rw [reading] at more
      rw [first.found reading later] at found
      exact (second inner).more more found
    | more =>
      -- The first reading ends among the later bytes already, and the second one goes on there.
      cases again : read (bytes ++ later) with
      | found inner middle =>
        rw [again] at found
        have left := (second inner).leaves middle value rest found
        exact Nat.le_trans left (first.more reading again)
      | more => rw [again] at found; cases found
      | wrong fault => rw [again] at found; cases found
    | wrong fault => rw [reading] at more; cases more
  leaves bytes :=
    (first.leaves bytes).andThen fun value rest le => ((second value).leaves rest).mono le

/-- A reading that finds a value before the first byte goes forward. -/
theorem at_once (value : α) : Forward fun bytes => .found value bytes where
  found found _ := by cases found; rfl
  wrong wrong _ := by cases wrong
  more more _ := by cases more
  leaves bytes := by intro other rest found; cases found; exact Nat.le_refl _

/-- A reading that finds nothing but a fault goes forward. -/
theorem at_fault (fault : HeadError) : Forward fun _ => (.wrong fault : Scan α) where
  found found _ := by cases found
  wrong wrong _ := by cases wrong; rfl
  more more _ := by cases more
  leaves bytes := by intro other rest found; cases found

/-- Another value goes forward as the first one does. -/
theorem map {read : Bytes → Scan α} (first : Forward read) (f : α → β) :
    Forward fun bytes => (read bytes).map f :=
  first.andThen fun value => at_once (f value)

end Forward

/-- A reading that ends with the last byte it needs, and needs one. -/
structure Closing (read : Bytes → Scan α) : Prop where
  /-- At least one byte is taken. -/
  takes : ∀ {bytes value rest}, read bytes = .found value rest → rest.length < bytes.length
  /-- What needed more bytes takes one of the later ones. -/
  more : ∀ {bytes later value rest}, read bytes = .more →
    read (bytes ++ later) = .found value rest → rest.length < later.length

/-- Two readings one after the other end where the second one does. -/
theorem Forward.closing {read : Bytes → Scan α} {next : α → Bytes → Scan β} (first : Forward read)
    (second : ∀ value, Closing (next value)) : Closing fun bytes => (read bytes).andThen next where
  takes {bytes value rest} found := by
    obtain ⟨inner, middle, reading, found⟩ := Scan.found_of_andThen found
    exact Nat.lt_of_lt_of_le ((second inner).takes found) (first.leaves bytes inner middle reading)
  more {bytes later value rest} more found := by
    cases reading : read bytes with
    | found inner middle =>
      rw [reading] at more
      rw [first.found reading later] at found
      exact (second inner).more more found
    | more =>
      -- The first reading goes on into the later bytes, and the second one takes a byte of them.
      obtain ⟨inner, middle, again, found⟩ := Scan.found_of_andThen found
      exact Nat.lt_of_lt_of_le ((second inner).takes found) (first.more reading again)
    | wrong fault => rw [reading] at more; cases more

namespace Closing

/-- Another value is read to the same end. -/
theorem map {read : Bytes → Scan α} (closing : Closing read) (f : α → β) :
    Closing fun bytes => (read bytes).map f where
  takes found := by
    obtain ⟨_, found, -⟩ := Scan.found_of_map found
    exact closing.takes found
  more {bytes later value rest} more found := by
    obtain ⟨_, again, -⟩ := Scan.found_of_map found
    exact closing.more (Scan.more_of_map more) again

/-- A reading that finds nothing has no end. -/
theorem at_fault (fault : HeadError) : Closing fun _ => (.wrong fault : Scan α) where
  takes found := by cases found
  more more _ := by cases more

/-- What is found is still awaited in each part that is shorter than what is taken, and only there. -/
theorem more_iff {read : Bytes → Scan α} (closing : Closing read) (forward : Forward read)
    {front later rest : Bytes} {value : α} (found : read (front ++ later) = .found value rest) :
    read front = .more ↔ front.length < (front ++ later).length - rest.length := by
  have left := forward.leaves _ _ _ found
  constructor
  · intro waits
    have ends := closing.more waits found
    rw [List.length_append] at left ⊢
    omega
  · intro short
    cases reading : read front with
    | more => rfl
    | found inner middle =>
      -- It would have been found in the part already, and would have taken no more than that.
      rw [forward.found reading later] at found
      cases found
      rw [forward.taken_append reading later] at short
      omega
    | wrong fault => rw [forward.wrong reading later] at found; cases found

end Closing

/-- What the first byte chooses to be read, from that byte on. -/
def scanPeek (read : UInt8 → Bytes → Scan α) : Bytes → Scan α
  | [] => .more
  | first :: rest => read first (first :: rest)

/-- A reading that is chosen by the first byte goes forward if every choice does. -/
theorem Forward.peek {read : UInt8 → Bytes → Scan α} (each : ∀ first, Forward (read first)) :
    Forward (scanPeek read) where
  found {bytes value rest} found later := by
    cases bytes with
    | nil => cases found
    | cons first tail => exact (each first).found found later
  wrong {bytes fault} wrong later := by
    cases bytes with
    | nil => cases wrong
    | cons first tail => exact (each first).wrong wrong later
  more {bytes later value rest} more found := by
    cases bytes with
    | nil =>
      -- Nothing was there, so that the later bytes are all there is.
      cases later with
      | nil => cases found
      | cons first tail => exact (each first).leaves _ value rest found
    | cons first tail => exact (each first).more more found
  leaves bytes := by
    cases bytes with
    | nil => intro value rest found; cases found
    | cons first tail => exact (each first).leaves _

/-- A reading that is chosen by the first byte ends where the choice does. -/
theorem Closing.peek {read : UInt8 → Bytes → Scan α} (each : ∀ first, Closing (read first)) :
    Closing (scanPeek read) where
  takes {bytes value rest} found := by
    cases bytes with
    | nil => cases found
    | cons first tail => exact (each first).takes found
  more {bytes later value rest} more found := by
    cases bytes with
    | nil =>
      -- All that is taken comes later.
      cases later with
      | nil => cases found
      | cons first tail => exact (each first).takes found
    | cons first tail => exact (each first).more more found

/-- The run of bytes with a property, and what is read from the byte on that stops it. -/
def scanRun (p : UInt8 → Bool) (next : Bytes → Bytes → Scan α) (bytes : Bytes) : Scan α :=
  match bytes.dropWhile p with
  | [] => .more
  | stop :: rest => next (bytes.takeWhile p) (stop :: rest)

/-- A run that was stopped does not grow. -/
theorem takeWhile_append_of_stopped {p : UInt8 → Bool} {bytes rest : Bytes} {stop : UInt8}
    (stopped : bytes.dropWhile p = stop :: rest) (later : Bytes) :
    (bytes ++ later).takeWhile p = bytes.takeWhile p := by
  -- The run is shorter than the bytes, since the byte that stopped it is not in it.
  have whole := congrArg List.length (List.takeWhile_append_dropWhile (p := p) (l := bytes))
  rw [List.length_append, stopped, List.length_cons] at whole
  rw [List.takeWhile_append, if_neg (by omega)]

/-- What is read behind a run goes forward together with it. -/
theorem Forward.run (p : UInt8 → Bool) {next : Bytes → Bytes → Scan α}
    (each : ∀ run, Forward (next run)) : Forward (scanRun p next) where
  found {bytes value rest} found later := by
    unfold scanRun at found ⊢
    cases stopped : bytes.dropWhile p with
    | nil => rw [stopped] at found; cases found
    | cons stop tail =>
      -- The run is stopped at the same place, and what is read behind it goes forward.
      rw [stopped] at found
      rw [takeWhile_append_of_stopped stopped, List.dropWhile_append, stopped]
      exact (each _).found found later
  wrong {bytes fault} wrong later := by
    -- A run alone is never wrong.
    unfold scanRun at wrong ⊢
    cases stopped : bytes.dropWhile p with
    | nil => rw [stopped] at wrong; cases wrong
    | cons stop tail =>
      rw [stopped] at wrong
      rw [takeWhile_append_of_stopped stopped, List.dropWhile_append, stopped]
      exact (each _).wrong wrong later
  more {bytes later value rest} more found := by
    unfold scanRun at more found
    cases stopped : bytes.dropWhile p with
    | nil =>
      -- The run goes on into the later bytes, and only they can stop it.
      rw [List.dropWhile_append, stopped] at found
      have bound := length_dropWhile_le p later
      cases ended : later.dropWhile p with
      | nil => simp [ended] at found
      | cons stop tail =>
        simp only [ended, List.isEmpty_nil, if_true] at found
        rw [ended] at bound
        exact Nat.le_trans ((each _).leaves _ value rest found) bound
    | cons stop tail =>
      rw [stopped] at more
      rw [takeWhile_append_of_stopped stopped, List.dropWhile_append, stopped] at found
      exact (each _).more more found
  leaves bytes := by
    -- The run takes its bytes away before anything is read behind it.
    unfold scanRun
    have bound := length_dropWhile_le p bytes
    cases stopped : bytes.dropWhile p with
    | nil => intro value rest found; cases found
    | cons stop tail =>
      rw [stopped] at bound
      exact ((each _).leaves _).mono bound

/-- One byte, and the verdict on it. -/
def scanJudged (verdict : UInt8 → Except HeadError α) : Bytes → Scan α
  | [] => .more
  | first :: rest =>
    match verdict first with
    | .ok value => .found value rest
    | .error fault => .wrong fault

/-- A verdict takes the byte away that it is about. -/
theorem scanJudged_leaves (verdict : UInt8 → Except HeadError α) (bytes : Bytes) :
    (scanJudged verdict bytes).LeavesAtMost bytes.length := by
  -- There is a byte, and it was found to be right.
  intro value rest found
  cases bytes with
  | nil => cases found
  | cons first tail =>
    simp only [scanJudged] at found
    cases judged : verdict first with
    | ok value =>
      rw [judged] at found
      cases found
      rw [List.length_cons]
      omega
    | error fault => rw [judged] at found; cases found

/-- A verdict on one byte goes forward, since it looks at no other. -/
theorem Forward.judged (verdict : UInt8 → Except HeadError α) : Forward (scanJudged verdict) where
  found {bytes value rest} found later := by
    cases bytes with
    | nil => cases found
    | cons first tail =>
      simp only [scanJudged, List.cons_append] at found ⊢
      cases judged : verdict first with
      | ok value => rw [judged] at found; cases found; rfl
      | error fault => rw [judged] at found; cases found
  wrong {bytes fault} wrong later := by
    cases bytes with
    | nil => cases wrong
    | cons first tail =>
      simp only [scanJudged, List.cons_append] at wrong ⊢
      cases judged : verdict first with
      | ok value => rw [judged] at wrong; cases wrong
      | error fault => rw [judged] at wrong; cases wrong; rfl
  more {bytes later value rest} more found := by
    cases bytes with
    | nil => exact scanJudged_leaves verdict later value rest found
    | cons first tail =>
      -- One byte is enough for a verdict.
      simp only [scanJudged] at more
      cases judged : verdict first with
      | ok value => rw [judged] at more; cases more
      | error fault => rw [judged] at more; cases more
  leaves := scanJudged_leaves verdict

end HttpEngine
