import HttpEngine.Proofs.Wire.RoundTrip

/-!
Where the length of a head is limited. Bytes are decoded each time that some have come, and a head is
only measured while its end is awaited. So a head that is too long is refused when too much of it
comes before the rest does, and otherwise it is taken like any other.
-/

namespace HttpEngine

variable {α β : Type}

/--
The first answer that is not to wait, while bytes come in piece by piece.

`early` decodes what is there while more is to come, and `last` decodes all of it.
-/
def decodeArriving (early last : Bytes → Decoded α) (buffer : Bytes) : List Bytes → Decoded α
  | [] => last buffer
  | piece :: later =>
    match early buffer with
    | .incomplete => decodeArriving early last (buffer ++ piece) later
    | answer => answer

/-- The pieces in front make up the bytes together with those behind them. -/
theorem exists_flatten_append {front pieces : List Bytes} (among : front <+: pieces) :
    ∃ later, front.flatten ++ later = pieces.flatten := by
  obtain ⟨behind, rfl⟩ := among
  exact ⟨behind.flatten, List.flatten_append.symm⟩

section Arriving

variable {early last : Bytes → Decoded α} {buffer : Bytes} {pieces : List Bytes}

/-- Where nothing is answered before all is there but what is answered then, that is the answer. -/
theorem decodeArriving_eq_last
    (fronts : ∀ front, front <+: pieces → early (buffer ++ front.flatten) = .incomplete ∨
      early (buffer ++ front.flatten) = last (buffer ++ pieces.flatten)) :
    decodeArriving early last buffer pieces = last (buffer ++ pieces.flatten) := by
  -- The buffer grows by one piece after the other.
  induction pieces generalizing buffer with
  | nil => simp [decodeArriving]
  | cons piece later ih =>
    have behind : decodeArriving early last (buffer ++ piece) later =
        last (buffer ++ (piece :: later).flatten) := by
      rw [List.flatten_cons, ← List.append_assoc]
      refine ih fun front among => ?_
      have cut := fronts (piece :: front) ((List.prefix_cons_inj piece).2 among)
      rwa [List.flatten_cons, List.flatten_cons, ← List.append_assoc, ← List.append_assoc] at cut
    -- What is there before the piece came is a front of all as well.
    have now := fronts [] List.nil_prefix
    rw [List.flatten_nil, List.append_nil] at now
    rw [decodeArriving]
    cases answer : early buffer with
    | incomplete => exact behind
    | message value consumed =>
      -- A piece that has an answer already has that of all pieces together.
      exact (now.resolve_left (by simp [answer])) ▸ answer.symm
    | failed error => exact (now.resolve_left (by simp [answer])) ▸ answer.symm

/-- Where each front is waited for or refused, a front that is refused decides. -/
theorem decodeArriving_eq_failed {error : DecodeError} {front : List Bytes}
    (among : front <+: pieces) (shorter : front ≠ pieces)
    (refused : early (buffer ++ front.flatten) = .failed error)
    (fronts : ∀ other, other <+: front → early (buffer ++ other.flatten) = .incomplete ∨
      early (buffer ++ other.flatten) = .failed error) :
    decodeArriving early last buffer pieces = .failed error := by
  -- The pieces in front of the one that is refused are waited for.
  induction pieces generalizing buffer front with
  | nil => exact absurd (List.prefix_nil.1 among) shorter
  | cons piece later ih =>
    have now := fronts [] List.nil_prefix
    rw [List.flatten_nil, List.append_nil] at now
    rw [decodeArriving]
    rcases now with waits | fails
    · rw [waits]
      cases front with
      | nil =>
        -- The front that is refused is not the one that is waited for.
        rw [List.flatten_nil, List.append_nil, waits] at refused
        cases refused
      | cons first others =>
        obtain ⟨rfl, behind⟩ := List.cons_prefix_cons.1 among
        rw [List.flatten_cons, ← List.append_assoc] at refused
        refine ih behind (fun same => shorter (by rw [same])) refused fun other inside => ?_
        have cut := fronts (first :: other) ((List.prefix_cons_inj first).2 inside)
        rwa [List.flatten_cons, ← List.append_assoc] at cut
    · -- An earlier front was refused, in the same way.
      rw [fails]

end Arriving

/--
How the length of a head is limited while it comes in piece by piece.

A head without an end is refused when all of its bytes are more than a head may have. A head with an
end is refused if some of its pieces came before the others and were already more than that, and
then only. Otherwise the answer is the one to all bytes at once.
-/
structure LimitsHead (scan : Bytes → Scan β) (early last : Bytes → Decoded α)
    (pieces : List Bytes) : Prop where
  endless : scan pieces.flatten = .more → maxHeadLength < pieces.flatten.length →
    decodeArriving early last [] pieces = .malformed .headTooLong
  awaited : scan pieces.flatten = .more → pieces.flatten.length ≤ maxHeadLength →
    decodeArriving early last [] pieces = last pieces.flatten
  refused : ∀ head rest, scan pieces.flatten = .found head rest →
    (∃ front, front <+: pieces ∧ maxHeadLength < front.flatten.length ∧
      front.flatten.length < pieces.flatten.length - rest.length) →
    decodeArriving early last [] pieces = .malformed .headTooLong
  taken : ∀ head rest, scan pieces.flatten = .found head rest →
    (∀ front, front <+: pieces → front.flatten.length ≤ maxHeadLength ∨
      pieces.flatten.length - rest.length ≤ front.flatten.length) →
    decodeArriving early last [] pieces = last pieces.flatten

/-- How a decoder judges the bytes in front of others by the head at their front. -/
structure JudgesByHead (scan : Bytes → Scan β) (early last : Bytes → Decoded α) : Prop where
  /-- Of an open head the length is judged. -/
  measures : ∀ {front}, scan front = .more →
    early front = if maxHeadLength < front.length then .malformed .headTooLong else .incomplete
  measures_last : ∀ {bytes}, scan bytes = .more → maxHeadLength < bytes.length →
    last bytes = .malformed .headTooLong
  /-- What is said about a head that has an end is said at the end. -/
  stands : ∀ {front head rest}, scan front = .found head rest → ∀ later,
    early front = .incomplete ∨ early front = last (front ++ later)

namespace JudgesByHead

variable {scan : Bytes → Scan β} {early last : Bytes → Decoded α}

/-- An open head is waited for, or refused for its length. -/
theorem waits_or (judges : JudgesByHead scan early last) {front : Bytes}
    (scanned : scan front = .more) :
    early front = .incomplete ∨ early front = .malformed .headTooLong := by
  rw [judges.measures scanned]
  split
  · exact .inr rfl
  · exact .inl rfl

/-- A decoder that judges by the head limits its length while it is awaited. -/
theorem limitsHead (judges : JudgesByHead scan early last) (forward : Forward scan)
    (closing : Closing scan) (pieces : List Bytes) : LimitsHead scan early last pieces := by
  -- Nothing but an open head stands in front of an open head.
  have opens {front : List Bytes} (among : front <+: pieces)
      (scanned : scan pieces.flatten = .more) : scan front.flatten = .more := by
    obtain ⟨later, whole⟩ := exists_flatten_append among
    rw [← whole] at scanned
    -- What was found or refused in front would be found or refused in the end.
    cases reading : scan front.flatten with
    | more => rfl
    | found head rest => rw [forward.found reading later] at scanned; cases scanned
    | wrong fault => rw [forward.wrong reading later] at scanned; cases scanned
  have shorter {front : List Bytes} (among : front <+: pieces) :
      front.flatten.length ≤ pieces.flatten.length := by
    obtain ⟨later, whole⟩ := exists_flatten_append among
    rw [← whole, List.length_append]
    omega
  refine ⟨fun scanned long => ?_, fun scanned short => ?_, fun head rest scanned cut => ?_,
    fun head rest scanned cuts => ?_⟩
  · -- All together is refused at the end, and each front is waited for or refused in the same way.
    have refuses := judges.measures_last scanned long
    rw [← refuses]
    refine decodeArriving_eq_last fun front among => ?_
    rw [List.nil_append, List.nil_append, refuses]
    exact judges.waits_or (opens among scanned)
  · -- No front is longer than all together.
    refine decodeArriving_eq_last fun front among => .inl ?_
    have bound := shorter among
    rw [List.nil_append, judges.measures (opens among scanned), if_neg (by omega)]
  · obtain ⟨front, among, long, inside⟩ := cut
    have left := forward.leaves _ _ _ scanned
    -- In front of its end the head is open.
    have waits {other : List Bytes} (part : other <+: front) : scan other.flatten = .more := by
      obtain ⟨later, whole⟩ := exists_flatten_append (part.trans among)
      obtain ⟨behind, within⟩ := exists_flatten_append part
      have bound := congrArg List.length within
      rw [List.length_append] at bound
      rw [← whole] at scanned inside
      exact (closing.more_iff forward scanned).2 (by omega)
    refine decodeArriving_eq_failed among (fun same => ?_) ?_ fun other part => ?_
    · rw [same] at inside
      omega
    · rw [List.nil_append, judges.measures (waits List.prefix_rfl), if_pos long]
      rfl
    · rw [List.nil_append]
      exact judges.waits_or (waits part)
  · -- Every front has the answer that all has, or is waited for.
    refine decodeArriving_eq_last fun front among => ?_
    obtain ⟨later, whole⟩ := exists_flatten_append among
    rw [List.nil_append, List.nil_append]
    rw [← whole] at scanned cuts ⊢
    cases reading : scan front.flatten with
    | found inner behind => exact judges.stands reading later
    | more =>
      -- The head is open and not too long yet, for else its end would be among these bytes.
      have ends := (closing.more_iff forward scanned).1 reading
      rw [judges.measures reading, if_neg]
      · exact .inl rfl
      · have := cuts front among
        omega
    | wrong fault => rw [forward.wrong reading later] at scanned; cases scanned

/-- A part of a head that is longer than a head may be is refused, whatever the head is. -/
theorem refuses_take (judges : JudgesByHead scan early last) (forward : Forward scan)
    (closing : Closing scan) {whole rest : Bytes} {head : β}
    (scanned : scan whole = .found head rest) {k : Nat} (long : maxHeadLength < k) (inside : k < whole.length - rest.length) :
    early (whole.take k) = .malformed .headTooLong := by
  have length : (whole.take k).length = k := List.length_take_of_le (by omega)
  have both : whole.take k ++ whole.drop k = whole := List.take_append_drop k whole
  rw [← both] at scanned
  have waits := (closing.more_iff forward scanned).2 (by rw [length, both]; exact inside)
  rw [judges.measures waits, length, if_pos long]

end JudgesByHead

/-- Requests are judged by their heads. -/
theorem judgesByHead_decodeRequest (maxPayload : Nat) :
    JudgesByHead scanRequestHead (decodeRequest maxPayload) (decodeRequest maxPayload) where
  measures scanned := by rw [decodeRequest_eq, scanned]
  measures_last scanned long := by
    rw [decodeRequest_eq, scanned]
    exact if_pos long
  stands {front head rest} scanned later := by
    -- An answer that is given is given whatever comes behind it.
    cases decoded : decodeRequest maxPayload front with
    | incomplete => exact .inl rfl
    | message request consumed => exact .inr (decodeRequest_append_message decoded later).symm
    | failed error =>
      exact .inr (decodeRequest_append_failed decoded (by simp [scanned]) later).symm

/-- Responses are judged by their heads, whether or not the stream ends. -/
theorem judgesByHead_decodeResponse (toHead ended : Bool) :
    JudgesByHead scanResponseHead (decodeResponse toHead false) (decodeResponse toHead ended) where
  measures scanned := by
    rw [decodeResponse_eq, scanned]
    simp only [Bool.false_eq_true, false_and, if_false]
  measures_last scanned long := by
    rw [decodeResponse_eq, scanned]
    exact if_pos long
  stands {front head rest} scanned later := by
    -- The end of the stream changes nothing about an answer that is given.
    cases decoded : decodeResponse toHead false front with
    | incomplete => exact .inl rfl
    | message response consumed => exact .inr (decodeResponse_append decoded ended later).symm
    | failed error =>
      exact .inr (decodeResponse_append_failed decoded (by simp [scanned]) ended later).symm

/-- A response is refused if it was cut inside its head and behind the limit. -/
theorem Response.IsReadable.refused_take {response : Response} {toHead keepAlive : Bool} {k : Nat}
    (readable : response.IsReadable toHead) (beyond : maxHeadLength < k)
    (inside : k < (responseHeadBytes response (response.lines keepAlive)).length) :
    decodeResponse toHead false ((encodeResponse response keepAlive).take k) =
      .malformed .headTooLong := by
  rw [encodeResponse_eq]
  refine (judgesByHead_decodeResponse toHead false).refuses_take forward_scanResponseHead
    closing_scanResponseHead (readable.isWritable.scan response.body) beyond ?_
  rw [List.length_append]
  omega

section LongHead

/-- A text of one letter. -/
def filler (n : Nat) : String := String.ofList (List.replicate n 'a')

/-- Each letter is a byte. -/
theorem utf8Bytes_filler (n : Nat) : utf8Bytes (filler n) = List.replicate n 0x61 := by
  have letter : String.utf8EncodeChar 'a' = [0x61] := by decide
  rw [utf8Bytes, filler, String.toList_ofList]
  induction n with
  | zero => rfl
  | succ n ih => rw [List.replicate_succ, List.flatMap_cons, letter, ih]; rfl

/-- Letters may stand as a value. -/
theorem isValue_filler (n : Nat) : IsValue (filler n) := by
  -- All its characters are the same one, which is no blank.
  constructor
  · intro byte member
    rw [utf8Bytes_filler] at member
    rw [List.eq_of_mem_replicate member]
    decide
  · refine trimText_of_not_blank fun c member => ?_
    rw [filler, String.toList_ofList] at member
    rw [List.eq_of_mem_replicate member]
    decide

/-- A header line with such a value is legal. -/
theorem isLegal_filler (n : Nat) : Field.IsLegal ⟨"X", filler n⟩ :=
  ⟨(by decide +kernel : IsToken "X"), isValue_filler n⟩

/-- Beside the letters the line has a name, a colon, a space, and its end. -/
theorem length_fieldBytes_filler (n : Nat) : (fieldBytes ⟨"X", filler n⟩).length = n + 5 := by
  have name : (utf8Bytes "X").length = 1 := by decide
  simp only [fieldBytes_eq, List.length_append, List.length_cons, List.length_nil, name,
    utf8Bytes_filler, List.length_replicate]
  omega

/-- A request with a long header line, to which nothing is added. -/
def longRequest (n : Nat) : Request :=
  { method := .get, target := "/"
    headers := ⟨[⟨"Host", "a"⟩, ⟨"Connection", "close"⟩, ⟨"X", filler n⟩]⟩ }

/-- It names the host itself, and says what becomes of the connection. -/
theorem contains_longRequest (n : Nat) :
    (longRequest n).headers.contains "host" = true ∧
      (longRequest n).headers.contains "connection" = true := by
  have hostName : sameName "Host" "host" = true := by decide
  have otherName : sameName "Host" "connection" = false := by decide
  have wordName : sameName "Connection" "connection" = true := by decide
  simp [longRequest, Headers.contains, Headers.get?, hostName, otherName, wordName]

/-- It has no other fields. -/
theorem get?_longRequest_eq_none {name : String} (n : Nat)
    (others : ∀ own ∈ ["Host", "Connection", "X"], sameName own name = false) :
    (longRequest n).headers.get? name = none := by
  simp [longRequest, Headers.get?, others]

/-- So its length is not told. -/
theorem get?_longRequest_length (n : Nat) :
    (longRequest n).headers.get? "content-length" = none :=
  get?_longRequest_eq_none n (by decide)

/-- Nothing is added to it. -/
theorem delivered_longRequest (n : Nat) (host : String) (keepAlive : Bool) :
    (longRequest n).delivered host keepAlive = longRequest n := by
  obtain ⟨named, said⟩ := contains_longRequest n
  -- It has no body, and its method does not announce one.
  have empty : (longRequest n).body = [] := rfl
  have asks : (longRequest n).method.announcesBody = false := rfl
  have nothing : addedFields (longRequest n) host keepAlive = [] := by
    simp [addedFields, named, said, empty, asks]
  rw [Request.delivered, nothing]
  rfl

/-- It can be written as it is. -/
theorem isWritable_longRequest (n : Nat) (host : String) (keepAlive : Bool) :
    (longRequest n).IsWritable host keepAlive where
  target := (by decide +kernel : IsTarget "/")
  legal := by
    have host : Field.IsLegal ⟨"Host", "a"⟩ := by decide +kernel
    have connection : Field.IsLegal ⟨"Connection", "close"⟩ := by decide +kernel
    simp [longRequest, host, connection, isLegal_filler]
  legalHost missing := by
    -- It names its host itself, so that none is added.
    rw [(contains_longRequest n).1] at missing
    cases missing
  stated := by simp [get?_longRequest_length]
  plain := by
    have uncoded : (longRequest n).headers.get? "transfer-encoding" = none :=
      get?_longRequest_eq_none n (by decide)
    simp [uncoded]
  few := by
    rw [delivered_longRequest]
    exact Nat.le_of_ble_eq_true rfl

/-- How long its header lines are. -/
theorem length_fields_longRequest (n : Nat) :
    ((longRequest n).headers.fields.flatMap fieldBytes).length = n + 33 := by
  have hostLine : (fieldBytes ⟨"Host", "a"⟩).length = 9 := by decide
  have wordLine : (fieldBytes ⟨"Connection", "close"⟩).length = 19 := by decide
  simp only [longRequest, List.flatMap_cons, List.flatMap_nil, List.length_append, hostLine,
    wordLine, length_fieldBytes_filler, List.length_nil]
  omega

/-- How long its head is with some header lines. -/
theorem length_head_longRequest (n : Nat) (fields : List Field) :
    (requestHeadBytes (longRequest n) fields).length = (fields.flatMap fieldBytes).length + 18 := by
  have start : (longRequest n).method.token ++ " " ++ (longRequest n).target ++ " " ++
      (longRequest n).version.text = Method.get.token ++ " / " ++ Version.standard.text := rfl
  have first : (lineBytes (Method.get.token ++ " / " ++ Version.standard.text)).length = 16 := by
    decide
  have last : (lineBytes "").length = 2 := rfl
  rw [requestHeadBytes, start, List.length_append, List.length_append, first, last]
  omega

/-- Its head is all that is written for it. -/
theorem length_longRequest (n : Nat) (host : String) (keepAlive : Bool) :
    (encodeRequest (longRequest n) host keepAlive).length = n + 51 := by
  have nothing : (longRequest n).body = [] := rfl
  rw [encodeRequest_eq, delivered_longRequest, nothing, List.append_nil, length_head_longRequest,
    length_fields_longRequest]

/-- A response with a long header line. -/
def longResponse (n : Nat) : Response :=
  { status := .ok, headers := ⟨[⟨"X", filler n⟩]⟩ }

/-- None of its lines is left out. -/
theorem kept_longResponse (n : Nat) : (longResponse n).headers.kept = [⟨"X", filler n⟩] := by
  have length : sameName "X" "content-length" = false := by decide
  have connection : sameName "X" "connection" = false := by decide
  simp [longResponse, Headers.kept, length, connection]

/-- It can be written and read again. -/
theorem isReadable_longResponse (n : Nat) : (longResponse n).IsReadable false where
  least := Nat.le_of_ble_eq_true rfl
  most := Nat.le_of_ble_eq_true rfl
  legal := by simp [longResponse, isLegal_filler]
  plain := by
    have other : sameName "X" "transfer-encoding" = false := by decide
    simp [longResponse, Headers.get?, other]
  few := by
    rw [← Headers.kept, kept_longResponse]
    exact Nat.le_of_ble_eq_true rfl
  bodiless _ := rfl

/-- Its head is all that is written for it. -/
theorem length_longResponse (n : Nat) (keepAlive : Bool) :
    (encodeResponse (longResponse n) keepAlive).length = n + if keepAlive then 88 else 83 := by
  -- Every line of the head has a length of its own, and only one of them depends on the number.
  have first : (lineBytes (Version.standard.text ++ " " ++ decimal Status.ok.code ++ " "
      ++ Status.ok.reason)).length = 17 := by decide
  have serverLine : (fieldBytes ⟨"Server", serverName⟩).length = 21 := by decide
  have lengthLine : (fieldBytes ⟨"Content-Length", decimal 0⟩).length = 19 := by decide
  have wordLine : (fieldBytes ⟨"Connection", connectionWord keepAlive⟩).length =
      if keepAlive then 24 else 19 := by
    cases keepAlive <;> decide
  have last : (lineBytes "").length = 2 := rfl
  rw [encodeResponse_eq, responseHeadBytes, Response.lines_eq, kept_longResponse]
  simp only [longResponse, List.length_append, first, List.cons_append, List.nil_append,
    List.flatMap_cons, List.flatMap_nil, List.length_nil, serverLine, lengthLine, wordLine,
    length_fieldBytes_filler, last]
  split <;> omega

/-- Nothing is left behind its head. -/
theorem scan_longRequest (n : Nat) :
    ∃ head, scanRequestHead (encodeRequest (longRequest n) "" false) = .found head [] :=
  ⟨_, (isWritable_longRequest n "" false).scan []⟩

/-- Nothing is left behind its head. -/
theorem scan_longResponse (n : Nat) (keepAlive : Bool) :
    ∃ head, scanResponseHead (encodeResponse (longResponse n) keepAlive) = .found head [] :=
  ⟨_, (isReadable_longResponse n).isWritable.scan []⟩

/-- A head that is longer than a head may be, in a request without a body, is taken all the same. -/
theorem taken_longRequest {n : Nat} (long : maxHeadLength ≤ n) (size : n + 51 < wordLimit)
    (maxPayload : Nat) :
    let bytes := encodeRequest (longRequest n) "" false
    decodeRequest maxPayload bytes = .message (longRequest n) bytes.length ∧
      headExtent bytes = bytes.length ∧
      decodeRequest maxPayload (bytes.take (bytes.length - 1)) = .malformed .headTooLong := by
  have length := length_longRequest n "" false
  have decoded := (isWritable_longRequest n "" false).decode (Nat.zero_le maxPayload)
    (by rwa [length]) []
  obtain ⟨head, scanned⟩ := scan_longRequest n
  rw [List.append_nil, delivered_longRequest] at decoded
  generalize encodeRequest (longRequest n) "" false = bytes at length decoded scanned ⊢
  refine ⟨decoded, by simp only [headExtent, scanned, List.length_nil, Nat.sub_zero], ?_⟩
  -- Without its last byte the head is open.
  exact (judgesByHead_decodeRequest maxPayload).refuses_take forward_scanRequestHead
    closing_scanRequestHead scanned (by omega) (by rw [List.length_nil]; omega)

/-- A head that is longer than a head may be, in a response without a body, is taken all the same. -/
theorem taken_longResponse {n : Nat} (long : maxHeadLength ≤ n) (size : n + 83 < wordLimit)
    (ended : Bool) :
    let bytes := encodeResponse (longResponse n) false
    decodeResponse false ended bytes = .message ((longResponse n).delivered false) bytes.length ∧
      responseHeadExtent bytes = bytes.length ∧
      decodeResponse false false (bytes.take (bytes.length - 1)) = .malformed .headTooLong := by
  have length : (encodeResponse (longResponse n) false).length = n + 83 :=
    length_longResponse n false
  have decoded := (isReadable_longResponse n).isWritable.decode (by rwa [length]) ended []
  obtain ⟨head, scanned⟩ := scan_longResponse n false
  rw [List.append_nil] at decoded
  generalize encodeResponse (longResponse n) false = bytes at length decoded scanned ⊢
  -- Without its last byte the head of a response is open too.
  refine ⟨decoded, by simp only [responseHeadExtent, scanned, List.length_nil, Nat.sub_zero], ?_⟩
  exact (judgesByHead_decodeResponse false ended).refuses_take forward_scanResponseHead
    closing_scanResponseHead scanned (by omega) (by rw [List.length_nil]; omega)

end LongHead

/--
The length of a head is limited while its end is awaited, however the bytes come in.

A head that has no end among all bytes is refused if there are more of them than a head may have,
and only then. A head that has one is refused for its length if it was cut at a place behind the
limit and in front of its end, and only then: in one piece it may have any length. Otherwise the
answer is the one to all bytes at once, so that no head that keeps the limit is refused for where it
was cut.
-/
theorem head_limited_on_arrival (maxPayload : Nat) (toHead ended : Bool) (pieces : List Bytes) :
    LimitsHead scanRequestHead (decodeRequest maxPayload) (decodeRequest maxPayload) pieces ∧
    LimitsHead scanResponseHead (decodeResponse toHead false) (decodeResponse toHead ended)
      pieces :=
  ⟨(judgesByHead_decodeRequest maxPayload).limitsHead forward_scanRequestHead
      closing_scanRequestHead pieces,
    (judgesByHead_decodeResponse toHead ended).limitsHead forward_scanResponseHead
      closing_scanResponseHead pieces⟩

/--
A request with a long head is refused where it was cut behind the limit, and taken in one piece; a
response is taken in two pieces that are cut at the limit.
-/
theorem head_limited_on_arrival_long :
    let request := encodeRequest (longRequest 8192) "" false
    let response := encodeResponse (longResponse 8192) false
    decodeArriving (decodeRequest 0) (decodeRequest 0) [] [request.take 8193, request.drop 8193] =
      .malformed .headTooLong ∧
    decodeArriving (decodeRequest 0) (decodeRequest 0) [] [request] =
      .message (longRequest 8192) request.length ∧
    decodeArriving (decodeResponse false false) (decodeResponse false false) []
        [response.take 8192, response.drop 8192] =
      .message ((longResponse 8192).delivered false) response.length := by
  intro request response
  have limit : maxHeadLength = 8192 := rfl
  have long : maxHeadLength ≤ 8192 := Nat.le_refl _
  obtain ⟨asking, asks⟩ : ∃ head, scanRequestHead request = .found head [] := scan_longRequest 8192
  obtain ⟨answering, answers⟩ : ∃ head, scanResponseHead response = .found head [] :=
    scan_longResponse 8192 false
  have asked : decodeRequest 0 request = .message (longRequest 8192) request.length :=
    (taken_longRequest long (by decide) 0).1
  have answered : decodeResponse false false response =
      .message ((longResponse 8192).delivered false) response.length :=
    (taken_longResponse long (by decide) false).1
  have length : request.length = 8192 + 51 := length_longRequest 8192 "" false
  -- From here on it only counts how many bytes there are, and what is found in them.
  clear_value request response
  have halves (bytes : Bytes) (k : Nat) : [bytes.take k, bytes.drop k].flatten = bytes := by
    rw [List.flatten_cons, List.flatten_singleton, List.take_append_drop]
  refine ⟨?_, ?_, ?_⟩
  · -- The first piece is one byte longer than a head may be, and the head ends behind it.
    refine (head_limited_on_arrival 0 false false [request.take 8193, request.drop 8193]).1.refused
      asking [] (by rw [halves, asks]) ⟨[request.take 8193], ⟨[request.drop 8193], rfl⟩, ?_, ?_⟩
    · rw [List.flatten_singleton, List.length_take, limit]
      omega
    · rw [halves, List.flatten_singleton, List.length_take, List.length_nil]
      omega
  · -- In one piece there is no front that could be too long.
    have taken := (head_limited_on_arrival 0 false false [request]).1.taken asking []
      (by rw [List.flatten_singleton, asks])
    rw [List.flatten_singleton, asked] at taken
    refine taken fun front among => ?_
    rcases List.prefix_cons_iff.1 among with rfl | ⟨others, rfl, within⟩
    · exact .inl (Nat.zero_le _)
    · rw [List.prefix_nil.1 within, List.flatten_singleton]
      exact .inr (Nat.sub_le _ _)
  · have taken := (head_limited_on_arrival 0 false false
      [response.take 8192, response.drop 8192]).2.taken answering [] (by rw [halves, answers])
    rw [halves, answered] at taken
    refine taken fun front among => ?_
    rcases List.prefix_cons_iff.1 among with rfl | ⟨others, rfl, within⟩
    · exact .inl (Nat.zero_le _)
    · rcases List.prefix_cons_iff.1 within with rfl | ⟨last, rfl, rest⟩
      · -- The first piece is as long as a head may be.
        rw [List.flatten_singleton, List.length_take, limit]
        exact .inl (Nat.min_le_left _ _)
      · rw [List.prefix_nil.1 rest, halves]
        exact .inr (Nat.sub_le _ _)

/--
A request and a response are taken with heads that are longer than a head may be, while the same
heads are refused as long as their last byte is missing.
-/
theorem long_head_taken :
    let request := encodeRequest (longRequest 8192) "" false
    let response := encodeResponse (longResponse 8192) false
    (maxHeadLength < headExtent request ∧
      decodeRequest 0 request = .message (longRequest 8192) request.length ∧
      decodeRequest 0 (request.take (request.length - 1)) = .malformed .headTooLong) ∧
    maxHeadLength < responseHeadExtent response ∧
      decodeResponse false false response =
        .message ((longResponse 8192).delivered false) response.length ∧
      decodeResponse false false (response.take (response.length - 1)) =
        .malformed .headTooLong := by
  -- A head of any length is taken when it comes in one piece.
  have long : maxHeadLength ≤ 8192 := Nat.le_refl _
  obtain ⟨asked, whole, open_request⟩ := taken_longRequest long (by decide) 0
  obtain ⟨answered, all, open_response⟩ := taken_longResponse long (by decide) false
  refine ⟨⟨?_, asked, open_request⟩, ?_, answered, open_response⟩
  · rw [whole, length_longRequest]
    decide
  · rw [all, length_longResponse]
    decide

end HttpEngine
