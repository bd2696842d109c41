import HttpEngine.Proofs.Wire.HeadForward
import HttpEngine.Proofs.Wire.Legal

/-! Heads are read back as they were written, whatever stands behind them. -/

namespace HttpEngine

/-- What is read behind something that was found. -/
@[simp] theorem Scan.found_andThen {α β : Type} (value : α) (rest : Bytes)
    (next : α → Bytes → Scan β) : (Scan.found value rest).andThen next = next value rest := rfl

/-- What was found, with another value. -/
@[simp] theorem Scan.found_map {α β : Type} (f : α → β) (value : α) (rest : Bytes) :
    (Scan.found value rest).map f = .found (f value) rest := rfl

/-- A run of bytes ends where the first byte stands that does not belong to it. -/
theorem run_before_stop {p : UInt8 → Bool} {run : Bytes} {stop : UInt8}
    (all : ∀ byte ∈ run, p byte = true) (stops : p stop = false) (rest : Bytes) :
    (run ++ stop :: rest).takeWhile p = run ∧ (run ++ stop :: rest).dropWhile p = stop :: rest := by
  have stopped : ¬ p stop = true := by simp [stops]
  rw [List.takeWhile_append_of_pos all, List.dropWhile_append_of_pos all,
    List.takeWhile_cons_of_neg stopped, List.dropWhile_cons_of_neg stopped, List.append_nil]
  exact ⟨rfl, rfl⟩

/-- Behind a line its end is found. -/
theorem scanLineEnd_written (fault : HeadError) (rest : Bytes) :
    scanLineEnd fault (0x0D :: 0x0A :: rest) = .found () rest := rfl

/-- A method is written as a token. -/
theorem Method.isToken_token (method : Method) : IsToken method.token := by
  cases method <;> decide +kernel

/-- A token before a space is read as a method. -/
theorem scanMethod_written {token : String} (legal : IsToken token) (rest : Bytes) :
    scanMethod (utf8Bytes token ++ 0x20 :: rest) = .found token rest := by
  -- The space is no token byte, so that the token ends there.
  obtain ⟨taken, dropped⟩ := run_before_stop legal.2 (by decide : isTokenByte 0x20 = false) rest
  simp only [scanMethod, taken, dropped]
  rw [if_pos ⟨trivial, utf8Bytes_ne_nil legal.1⟩, legal.asciiText_eq]

/-- A target before a space is read as it is. -/
theorem scanTarget_written {target : String} (legal : IsTarget target) (rest : Bytes) :
    scanTarget (utf8Bytes target ++ 0x20 :: rest) = .found target rest := by
  -- The space is no target byte, so that the target ends there.
  obtain ⟨taken, dropped⟩ := run_before_stop legal.2 (by decide : isTargetByte 0x20 = false) rest
  simp only [scanTarget, taken, dropped]
  rw [if_pos ⟨trivial, utf8Bytes_ne_nil legal.1⟩, utf8Text?_utf8Bytes]

/-- A version is read as it is. -/
theorem scanVersion_written (version : Version) (rest : Bytes) :
    scanVersion (utf8Bytes version.text ++ rest) = .found version rest := by
  -- It is spelled by exactly eight bytes.
  have length : (utf8Bytes version.text).length = 8 := by cases version <;> decide
  -- The two versions are spelled differently.
  have spelled : Version.ofBytes (utf8Bytes version.text) = .ok version := by
    have other : ¬ utf8Bytes Version.http11.text = utf8Bytes Version.http10.text := by
      decide
    cases version with
    | http10 => rw [Version.ofBytes, if_pos rfl]
    | http11 => rw [Version.ofBytes, if_neg other, if_pos rfl]
  have front : (utf8Bytes version.text ++ rest).take 8 = utf8Bytes version.text :=
    List.take_left' length
  have back : (utf8Bytes version.text ++ rest).drop 8 = rest := List.drop_left' length
  simp only [scanVersion, front, back, length, if_true, spelled]

/-- A header line as it is found in the bytes. -/
def Field.raw (field : Field) : RawField := ⟨field.name, utf8Bytes field.value⟩

/-- A header line is a name, a colon, a space, a value, and the end of a line. -/
theorem fieldBytes_eq (field : Field) :
    fieldBytes field =
      utf8Bytes field.name ++ 0x3A :: 0x20 :: (utf8Bytes field.value ++ [0x0D, 0x0A]) := by
  have separator : utf8Bytes ": " = [0x3A, 0x20] := by decide
  simp [fieldBytes, lineBytes, separator]

/-- A value between a space and the end of a line is read as it is. -/
theorem scanFieldValue_written {value : String} (legal : IsValue value) (rest : Bytes) :
    scanFieldValue (0x20 :: (utf8Bytes value ++ 0x0D :: 0x0A :: rest)) =
      .found (utf8Bytes value) rest := by
  obtain ⟨front, back⟩ := legal.dropWhile_isPadByte
  -- The space is cut off, and nothing of the value is.
  have padded : (0x20 :: (utf8Bytes value ++ 0x0D :: 0x0A :: rest) : Bytes).dropWhile isPadByte =
      utf8Bytes value ++ 0x0D :: 0x0A :: rest := by
    rw [List.dropWhile_cons_of_pos (by decide), List.dropWhile_append, front]
    cases utf8Bytes value with
    | nil => rfl
    | cons first others => rfl
  -- The end of the line is no part of the text.
  obtain ⟨taken, dropped⟩ :=
    run_before_stop legal.1 (by decide : isTextByte 0x0D = false) (0x0A :: rest)
  simp only [scanFieldValue, padded, taken, dropped, back, List.reverse_reverse]
  rfl

/-- A legal header line is read as it is. -/
theorem scanField_written {field : Field} (legal : field.IsLegal) (rest : Bytes) :
    scanField (fieldBytes field ++ rest) = .found field.raw rest := by
  have shape : fieldBytes field ++ rest = utf8Bytes field.name ++
      0x3A :: (0x20 :: (utf8Bytes field.value ++ 0x0D :: 0x0A :: rest)) := by
    simp [fieldBytes_eq]
  -- The colon is no token byte, so that the name ends there.
  obtain ⟨taken, dropped⟩ := run_before_stop legal.name.2 (by decide : isTokenByte 0x3A = false)
    (0x20 :: (utf8Bytes field.value ++ 0x0D :: 0x0A :: rest))
  have name : scanFieldName (fieldBytes field ++ rest) =
      .found field.name (0x20 :: (utf8Bytes field.value ++ 0x0D :: 0x0A :: rest)) := by
    rw [shape]
    simp only [scanFieldName, taken, dropped]
    rw [if_pos ⟨trivial, utf8Bytes_ne_nil legal.name.1⟩, legal.name.asciiText_eq]
  -- The name is read up to the colon, and the value behind it up to the end of the line.
  rw [scanField, name, Scan.found_andThen, scanFieldValue_written legal.value]
  rfl

/-- A legal header line does not begin as the empty line does. -/
theorem fieldBytes_eq_cons {field : Field} (legal : field.IsLegal) :
    ∃ first rest, fieldBytes field = first :: rest ∧ ¬ (first = 0x0A ∨ first = 0x0D) := by
  cases spelled : utf8Bytes field.name with
  | nil => exact absurd spelled (utf8Bytes_ne_nil legal.name.1)
  | cons first rest =>
    refine ⟨first, _, by rw [fieldBytes_eq, spelled, List.cons_append], ?_⟩
    -- Its first byte is the first one of a token.
    have token := legal.name.2 first (by rw [spelled]; exact List.mem_cons_self)
    rintro (rfl | rfl) <;> exact absurd token (by decide)

/-- Legal header lines are read as they are, as long as there is room for them. -/
theorem scanFields_written {fields : List Field} (legal : ∀ field ∈ fields, field.IsLegal)
    {room : Nat} (fits : fields.length ≤ room) (rest : Bytes) :
    scanFields room (fields.flatMap fieldBytes ++ (lineBytes "" ++ rest)) =
      .found (fields.map Field.raw) rest := by
  -- One line after the other, with room for one line less behind each.
  induction fields generalizing room with
  | nil =>
    rw [List.flatMap_nil, List.nil_append, scanFields.eq_def]
    rfl
  | cons field others ih =>
    obtain ⟨first, tail, shape, begins⟩ := fieldBytes_eq_cons (legal field List.mem_cons_self)
    cases room with
    | zero => exact absurd fits (by simp)
    | succ room =>
      -- The line is read, and behind it the others.
      have behind := ih (fun other member => legal other (List.mem_cons_of_mem _ member))
        (Nat.le_of_succ_le_succ fits)
      have line := scanField_written (legal field List.mem_cons_self)
        (others.flatMap fieldBytes ++ (lineBytes "" ++ rest))
      rw [List.flatMap_cons, List.append_assoc]
      rw [shape, List.cons_append] at line ⊢
      rw [scanFields.eq_def]
      simp only [if_neg begins, line, Scan.andThen]
      rw [behind]
      rfl

/-- The fields of a head are collected as they were written. -/
theorem collectFields_raw {fields : List Field} (legal : ∀ field ∈ fields, field.IsLegal) :
    collectFields (fields.map Field.raw) = .ok fields := by
  -- The fields are collected one by one, and none of them is at fault.
  induction fields with
  | nil => rfl
  | cons field others ih =>
    -- Nothing is cut off, and the bytes spell the value again.
    have trimmed := (legal field List.mem_cons_self).value.2
    have behind := ih fun other member => legal other (List.mem_cons_of_mem _ member)
    rw [List.map_cons, collectFields, Field.raw, utf8Text?_utf8Bytes, behind]
    simp only [trimmed]

/-- The head of a request with some header lines. -/
def requestHeadBytes (request : Request) (fields : List Field) : Bytes :=
  lineBytes (request.method.token ++ " " ++ request.target ++ " " ++ request.version.text)
    ++ fields.flatMap fieldBytes ++ lineBytes ""

/-- The head of a request is read as it was written. -/
theorem scanRequestHead_written {request : Request} {fields : List Field}
    (target : IsTarget request.target) (legal : ∀ field ∈ fields, field.IsLegal)
    (fits : fields.length ≤ maxHeaders) (rest : Bytes) :
    scanRequestHead (requestHeadBytes request fields ++ rest) =
      .found ⟨request.method.token, request.target, request.version, fields.map Field.raw⟩
        rest := by
  have space : utf8Bytes " " = [0x20] := by decide
  have method := request.method.isToken_token
  have shape : requestHeadBytes request fields ++ rest =
      utf8Bytes request.method.token ++ 0x20 :: (utf8Bytes request.target ++ 0x20 ::
        (utf8Bytes request.version.text ++ 0x0D :: 0x0A ::
          (fields.flatMap fieldBytes ++ (lineBytes "" ++ rest)))) := by
    simp [requestHeadBytes, lineBytes, space]
  -- The first byte is that of a token, so that there are no empty lines to skip.
  have start (others : Bytes) : scanEmptyLines (utf8Bytes request.method.token ++ others) =
      .found () (utf8Bytes request.method.token ++ others) := by
    cases spelled : utf8Bytes request.method.token with
    | nil => exact absurd spelled (utf8Bytes_ne_nil method.1)
    | cons first tail =>
      have token := method.2 first (by rw [spelled]; exact List.mem_cons_self)
      refine scanEmptyLines_other ?_ ?_ (tail ++ others) <;> rintro rfl <;>
        exact absurd token (by decide)
  -- The parts of the first line are read in their order, and then the header lines.
  simp only [shape, scanRequestHead, start, Scan.found_andThen, scanMethod_written method,
    scanTarget_written target, scanVersion_written, scanLineEnd_written,
    scanFields_written legal fits, Scan.found_map]

section StatusLine

/-- A number below ten is written as one byte. -/
theorem utf8EncodeChar_digitChar {digit : Nat} (small : digit < 10) :
    String.utf8EncodeChar digit.digitChar = [.ofNat (0x30 + digit)] := by
  -- There are ten digits, so that each of them is looked at.
  have each : ∀ digit < 10,
      String.utf8EncodeChar (Nat.digitChar digit) = [.ofNat (0x30 + digit)] := by
    decide
  exact each digit small

/-- A number of three digits is written as these. -/
theorem utf8Bytes_decimal {n : Nat} (least : 100 ≤ n) (most : n ≤ 999) :
    utf8Bytes (decimal n) =
      [.ofNat (0x30 + n / 100), .ofNat (0x30 + n / 10 % 10), .ofNat (0x30 + n % 10)] := by
  -- Two divisions by ten leave the first digit.
  have digits : Nat.toDigits 10 n =
      [(n / 100).digitChar, (n / 10 % 10).digitChar, (n % 10).digitChar] := by
    have twice : n / 10 / 10 = n / 100 := Nat.div_div_eq_div_mul n 10 10
    rw [Nat.toDigits_of_base_le (by decide) (by omega),
      Nat.toDigits_of_base_le (by decide) (by omega), twice,
      Nat.toDigits_of_lt_base (by omega)]
    rfl
  have chars : (decimal n).toList = Nat.toDigits 10 n := by
    rw [decimal, Nat.repr, String.toList_ofList]
  rw [utf8Bytes, chars, digits]
  simp only [List.flatMap_cons, List.flatMap_nil, List.append_nil]
  rw [utf8EncodeChar_digitChar (by omega), utf8EncodeChar_digitChar (by omega),
    utf8EncodeChar_digitChar (by omega)]
  rfl

/-- A digit is read as it is. -/
theorem scanDigit_written {digit : Nat} (small : digit < 10) (rest : Bytes) :
    scanDigit (.ofNat (0x30 + digit) :: rest) = .found digit rest := by
  -- The ten digits stand one behind the other.
  have value : (UInt8.ofNat (0x30 + digit)).toNat = 0x30 + digit := toNat_byte (by omega)
  have least : (0x30 : UInt8) ≤ .ofNat (0x30 + digit) := by
    rw [UInt8.le_iff_toNat_le, value]
    exact Nat.le_add_right _ _
  have most : UInt8.ofNat (0x30 + digit) ≤ 0x39 := by
    rw [UInt8.le_iff_toNat_le, value]
    show 0x30 + digit ≤ 57
    omega
  rw [scanDigit, if_pos ⟨least, most⟩, value, Nat.add_sub_cancel_left]

/-- A status code is read as it is. -/
theorem scanCode_written {code : Nat} (least : 100 ≤ code) (most : code ≤ 999) (rest : Bytes) :
    scanCode (utf8Bytes (decimal code) ++ rest) = .found code rest := by
  -- The three digits are put together to the code again.
  have sum : code / 100 * 100 + code / 10 % 10 * 10 + code % 10 = code := by omega
  rw [utf8Bytes_decimal least most]
  simp only [List.cons_append, List.nil_append, scanCode,
    scanDigit_written (show code / 100 < 10 by omega), Scan.found_andThen,
    scanDigit_written (show code / 10 % 10 < 10 by omega),
    scanDigit_written (show code % 10 < 10 by omega), Scan.found_map, sum]

/-- Reason phrases are made of text bytes. -/
theorem isTextByte_reason (status : Status) :
    ∀ byte ∈ utf8Bytes status.reason, isTextByte byte = true := by
  -- The phrases are known, and a bare code has none.
  have all : (utf8Bytes status.reason).all isTextByte = true := by
    cases status <;> rfl
  exact List.all_eq_true.1 all

/-- A reason phrase is read over. -/
theorem scanReason_written (status : Status) (rest : Bytes) :
    scanReason (0x20 :: (utf8Bytes status.reason ++ 0x0D :: 0x0A :: rest)) = .found () rest := by
  -- The end of the line is no part of the phrase.
  obtain ⟨_, dropped⟩ := run_before_stop (isTextByte_reason status)
    (by decide : isTextByte 0x0D = false) (0x0A :: rest)
  rw [scanReason, if_pos rfl, dropped, scanLineEnd_written]

/-- A code of three digits has a status. -/
theorem Status.ofCode_three {code : Nat} (least : 100 ≤ code) (most : code ≤ 999) :
    ∃ status, Status.ofCode code = .ok status ∧ status.code = code := by
  cases made : Status.ofCode code with
  | ok status => exact ⟨status, rfl, Status.code_of_ofCode made⟩
  | error fault =>
    -- What is not registered stands for itself.
    unfold Status.ofCode at made
    split at made
    · cases made
    · rw [if_pos ⟨least, most⟩] at made
      cases made

end StatusLine

/-- The head of a response with some header lines. -/
def responseHeadBytes (response : Response) (fields : List Field) : Bytes :=
  lineBytes (response.version.text ++ " " ++ decimal response.status.code ++ " "
      ++ response.status.reason)
    ++ fields.flatMap fieldBytes ++ lineBytes ""

/-- The first line of a response is read as it was written, and the header lines behind it. -/
theorem scanResponseHead_line {response : Response} (least : 100 ≤ response.status.code)
    (most : response.status.code ≤ 999) (fields : List Field) (rest : Bytes) :
    scanResponseHead (responseHeadBytes response fields ++ rest) =
      (scanFields maxHeaders (fields.flatMap fieldBytes ++ (lineBytes "" ++ rest))).map
        fun raws => ⟨response.version, response.status.code, raws⟩ := by
  have space : utf8Bytes " " = [0x20] := by decide
  have shape : responseHeadBytes response fields ++ rest =
      utf8Bytes response.version.text ++ 0x20 :: (utf8Bytes (decimal response.status.code) ++
        0x20 :: (utf8Bytes response.status.reason ++ 0x0D :: 0x0A ::
          (fields.flatMap fieldBytes ++ (lineBytes "" ++ rest)))) := by
    simp [responseHeadBytes, lineBytes, space]
  -- Both versions begin with a letter.
  have start (others : Bytes) : scanEmptyLines (utf8Bytes response.version.text ++ others) =
      .found () (utf8Bytes response.version.text ++ others) := by
    have letter : ∃ tail, utf8Bytes response.version.text = 0x48 :: tail := by
      cases response.version <;> exact ⟨_, rfl⟩
    obtain ⟨tail, spelled⟩ := letter
    rw [spelled]
    exact scanEmptyLines_other (by decide) (by decide) (tail ++ others)
  have gap (others : Bytes) : scanByte 0x20 .version (0x20 :: others) = .found () others := rfl
  -- The parts of the line are read in their order.
  simp only [shape, scanResponseHead, start, Scan.found_andThen, scanVersion_written, gap,
    scanCode_written least most, scanReason_written]

/-- The head of a response is read as it was written. -/
theorem scanResponseHead_written {response : Response} {fields : List Field}
    (least : 100 ≤ response.status.code) (most : response.status.code ≤ 999)
    (legal : ∀ field ∈ fields, field.IsLegal) (fits : fields.length ≤ maxHeaders) (rest : Bytes) :
    scanResponseHead (responseHeadBytes response fields ++ rest) =
      .found ⟨response.version, response.status.code, fields.map Field.raw⟩ rest := by
  rw [scanResponseHead_line least most, scanFields_written legal fits, Scan.found_map]

end HttpEngine
