import HttpEngine.Proofs.Wire.RequestStream
import HttpEngine.Proofs.Wire.ResponseStream
import HttpEngine.Proofs.Wire.Written
import HttpEngine.Wire.Encoding

/-!
Messages are decoded as they were encoded, whatever stands behind them: a request with the header
lines that were added to it, and a response with those that were written for it.
-/

namespace HttpEngine

/-- What is written for a number is read as that number, if it is below the limit. -/
theorem readUnsigned?_decimal (limit n : Nat) :
    readUnsigned? limit (decimal n) = if n < limit then some n else none := by
  have value := digitsValue?_toList_decimal n
  unfold readUnsigned?
  split
  · -- A number has no sign in front of it.
    rename_i rest chars
    have sign : '+' ∈ (decimal n).toList := by rw [chars]; exact List.mem_cons_self
    have digit := isDigit_of_mem_decimal sign
    exact absurd digit (by decide)
  · dsimp only
    rw [value, Option.filter_some]
    simp only [decide_eq_true_eq]

section Requests

variable {request : Request} {host : String} {keepAlive : Bool} {maxPayload : Nat}

/-- A request as it arrives, with the header lines that are added in front of its own. -/
def Request.delivered (request : Request) (host : String) (keepAlive : Bool) : Request :=
  { request with headers := ⟨addedFields request host keepAlive ++ request.headers.fields⟩ }

/-- A request that is read as it was written for a host, whether or not the connection stays. -/
structure Request.IsWritable (request : Request) (host : String) (keepAlive : Bool) : Prop where
  target : IsTarget request.target
  legal : ∀ field ∈ request.headers.fields, field.IsLegal
  /-- A host is only written where the request does not name one. -/
  legalHost : request.headers.contains "host" = false → IsValue host
  /-- The length of the body, if the request states it itself. -/
  stated : ∀ value ∈ request.headers.get? "content-length",
    readUnsigned? wordLimit value = some request.body.length
  plain : ∀ coding ∈ request.headers.get? "transfer-encoding", sameName coding "identity" = true
  few : (request.delivered host keepAlive).headers.fields.length ≤ maxHeaders

instance (request : Request) (host : String) (keepAlive : Bool) :
    Decidable (request.IsWritable host keepAlive) :=
  decidable_of_iff (IsTarget request.target ∧ (∀ field ∈ request.headers.fields, field.IsLegal) ∧
      (request.headers.contains "host" = false → IsValue host) ∧
      (∀ value ∈ request.headers.get? "content-length",
        readUnsigned? wordLimit value = some request.body.length) ∧
      (∀ coding ∈ request.headers.get? "transfer-encoding", sameName coding "identity" = true) ∧
      (request.delivered host keepAlive).headers.fields.length ≤ maxHeaders)
    ⟨fun ⟨target, legal, legalHost, stated, plain, few⟩ =>
        ⟨target, legal, legalHost, stated, plain, few⟩,
      fun writable => ⟨writable.target, writable.legal, writable.legalHost, writable.stated,
        writable.plain, writable.few⟩⟩

/-- A request that can be written for a host and read again under a limit for bodies. -/
structure Request.IsReadable (request : Request) (host : String) (maxPayload : Nat) : Prop where
  target : IsTarget request.target
  legal : ∀ field ∈ request.headers.fields, field.IsLegal
  /-- A host is only written where the request does not name one. -/
  host : request.headers.contains "host" = false → IsValue host
  /-- The length of the body, if the request states it itself. -/
  stated : ∀ value ∈ request.headers.get? "content-length",
    readUnsigned? wordLimit value = some request.body.length
  plain : request.headers.get? "transfer-encoding" = none
  few : request.headers.fields.length ≤ 61
  payload : request.body.length ≤ maxPayload

instance (request : Request) (host : String) (maxPayload : Nat) :
    Decidable (request.IsReadable host maxPayload) :=
  decidable_of_iff (IsTarget request.target ∧ (∀ field ∈ request.headers.fields, field.IsLegal) ∧
      (request.headers.contains "host" = false → IsValue host) ∧
      (∀ value ∈ request.headers.get? "content-length",
        readUnsigned? wordLimit value = some request.body.length) ∧
      request.headers.get? "transfer-encoding" = none ∧
      request.headers.fields.length ≤ 61 ∧ request.body.length ≤ maxPayload)
    ⟨fun ⟨target, legal, host, stated, plain, few, payload⟩ =>
        ⟨target, legal, host, stated, plain, few, payload⟩,
      fun readable => ⟨readable.target, readable.legal, readable.host, readable.stated,
        readable.plain, readable.few, readable.payload⟩⟩

/-- The names of the header lines that are added to a request. -/
theorem name_of_mem_addedFields {field : Field}
    (member : field ∈ addedFields request host keepAlive) :
    field = ⟨"Host", host⟩ ∧ request.headers.contains "host" = false ∨
      field = ⟨"Content-Length", decimal request.body.length⟩ ∨
      field = ⟨"Connection", connectionWord keepAlive⟩ := by
  -- The three lines are added one by one, each under its own condition.
  unfold addedFields at member
  rcases List.mem_append.1 member with member | member
  · rcases List.mem_append.1 member with member | member
    · split at member
      · cases member
      · rename_i missing
        exact .inl ⟨List.mem_singleton.1 member, by simpa using missing⟩
    · split at member
      · exact .inr (.inl (List.mem_singleton.1 member))
      · cases member
  · split at member
    · cases member
    · exact .inr (.inr (List.mem_singleton.1 member))

/-- At most three header lines are added. -/
theorem length_addedFields_le : (addedFields request host keepAlive).length ≤ 3 := by
  -- Each of them is there once or not at all.
  unfold addedFields
  rw [List.length_append, List.length_append]
  repeat' split
  all_goals simp

/-- What is said about a connection may stand as the value of a header line. -/
theorem isValue_connectionWord (keepAlive : Bool) : IsValue (connectionWord keepAlive) := by
  cases keepAlive <;> decide +kernel

/-- The length of a body is stated by a legal header line. -/
theorem isLegal_length (n : Nat) : Field.IsLegal ⟨"Content-Length", decimal n⟩ :=
  ⟨(by decide +kernel : IsToken "Content-Length"), isValue_decimal n⟩

/-- What becomes of the connection is said by a legal header line. -/
theorem isLegal_connection (keepAlive : Bool) :
    Field.IsLegal ⟨"Connection", connectionWord keepAlive⟩ :=
  ⟨(by decide +kernel : IsToken "Connection"), isValue_connectionWord keepAlive⟩

/-- A request with few header lines of its own has room for those that are added. -/
theorem Request.IsReadable.isWritable (readable : request.IsReadable host maxPayload)
    (keepAlive : Bool) : request.IsWritable host keepAlive where
  target := readable.target
  legal := readable.legal
  legalHost := readable.host
  stated := readable.stated
  plain coding announced := by
    rw [readable.plain] at announced
    cases announced
  few := by
    have added : (addedFields request host keepAlive).length ≤ 3 := length_addedFields_le
    have own := readable.few
    rw [Request.delivered, List.length_append]
    show _ ≤ 64
    omega

/-- All header lines of a request that arrives are legal. -/
theorem Request.IsWritable.legal_delivered (writable : request.IsWritable host keepAlive) :
    ∀ field ∈ (request.delivered host keepAlive).headers.fields, field.IsLegal := by
  intro field member
  rcases List.mem_append.1 member with added | own
  · -- The engine's own names are tokens.
    rcases name_of_mem_addedFields added with ⟨rfl, missing⟩ | rfl | rfl
    · exact ⟨(by decide +kernel : IsToken "Host"), writable.legalHost missing⟩
    · exact isLegal_length _
    · exact isLegal_connection keepAlive
  · exact writable.legal field own

/-- Each of the added header lines is found by its name, in their order. -/
theorem get?_addedFields (name : String) :
    Headers.get? ⟨addedFields request host keepAlive⟩ name =
      ((if !request.headers.contains "host" && sameName "Host" name then some host else none).or
        (if (!request.headers.contains "content-length"
              && (!request.body.isEmpty || request.method.announcesBody))
            && sameName "Content-Length" name then
          some (decimal request.body.length) else none)).or
        (if !request.headers.contains "connection" && sameName "Connection" name then
          some (connectionWord keepAlive) else none) := by
  rw [addedFields, Headers.get?_append, Headers.get?_append]
  -- Each of the three lines is there or not.
  generalize (!request.headers.contains "content-length"
    && (!request.body.isEmpty || request.method.announcesBody)) = needed
  cases request.headers.contains "host" <;> cases needed <;>
    cases request.headers.contains "connection" <;>
      simp [Headers.get?_singleton, Headers.get?_nil]

/-- No coding is announced with the added header lines. -/
theorem get?_addedFields_coding :
    Headers.get? ⟨addedFields request host keepAlive⟩ "transfer-encoding" = none := by
  have hostName : sameName "Host" "transfer-encoding" = false := by decide
  have lengthName : sameName "Content-Length" "transfer-encoding" = false := by decide
  have wordName : sameName "Connection" "transfer-encoding" = false := by decide
  simp [get?_addedFields, hostName, lengthName, wordName]

/-- A length is added where none is stated and one is needed. -/
theorem get?_addedFields_length :
    Headers.get? ⟨addedFields request host keepAlive⟩ "content-length" =
      if !request.headers.contains "content-length"
          && (!request.body.isEmpty || request.method.announcesBody) then
        some (decimal request.body.length)
      else none := by
  have hostName : sameName "Host" "content-length" = false := by decide
  have lengthName : sameName "Content-Length" "content-length" = true := by decide
  have wordName : sameName "Connection" "content-length" = false := by decide
  simp [get?_addedFields, hostName, lengthName, wordName]

/-- What becomes of the connection is added where the request does not say it itself. -/
theorem get?_addedFields_connection :
    Headers.get? ⟨addedFields request host keepAlive⟩ "connection" =
      if request.headers.contains "connection" then none else some (connectionWord keepAlive) := by
  have hostName : sameName "Host" "connection" = false := by decide
  have lengthName : sameName "Content-Length" "connection" = false := by decide
  have wordName : sameName "Connection" "connection" = true := by decide
  cases own : request.headers.contains "connection" <;>
    simp [get?_addedFields, hostName, lengthName, wordName, own]

/-- The header lines of a request that arrives declare the length of its body. -/
theorem declaredLength_delivered (writable : request.IsWritable host keepAlive)
    (below : request.body.length < wordLimit) :
    ∃ declared, declaredLength (request.delivered host keepAlive).headers = .ok declared ∧
      declared.getD 0 = request.body.length := by
  -- Nothing that is added announces a coding, and the request announces the plain one at most.
  have coding : ((request.delivered host keepAlive).headers.get? "transfer-encoding").any
      (fun coding => !sameName coding "identity") = false := by
    rw [Request.delivered, Headers.get?_append, get?_addedFields_coding, Option.none_or]
    cases announced : Headers.get? ⟨request.headers.fields⟩ "transfer-encoding" with
    | none => rfl
    | some coding => simp [writable.plain coding announced]
  rw [declaredLength, coding, if_neg (by simp), Request.delivered, Headers.get?_append,
    get?_addedFields_length, Headers.contains]
  cases stated : request.headers.get? "content-length" with
  | some value =>
    -- The request states the length itself, and nothing is added to that.
    refine ⟨some request.body.length, ?_, rfl⟩
    simp [writable.stated value stated]
  | none =>
    cases needed : !request.body.isEmpty || request.method.announcesBody with
    | true =>
      -- The length is added, and it is read as it was written.
      refine ⟨some request.body.length, ?_, rfl⟩
      simp [readUnsigned?_decimal, below]
    | false =>
      -- Only a request without a body goes without a length.
      have empty : request.body = [] := by
        rw [Bool.or_eq_false_iff] at needed
        simpa using needed.1
      refine ⟨none, by simp, ?_⟩
      rw [empty]
      rfl

/-- The bytes of a request are its head and its body. -/
theorem encodeRequest_eq (request : Request) (host : String) (keepAlive : Bool) :
    encodeRequest request host keepAlive =
      requestHeadBytes request (request.delivered host keepAlive).headers.fields ++
        request.body := rfl

/-- A body stands between its head and whatever follows. -/
theorem bodyBytes_between (head body rest : Bytes) :
    bodyBytes (head ++ (body ++ rest)) head.length (head.length + body.length) = body := by
  rw [bodyBytes, List.drop_left, Nat.add_sub_cancel_left, List.take_left]

/-- A message of a head and a body ends where the body does, if a machine word can count it. -/
theorem messageEnd_of_lt {head body : Nat} (below : head + body < wordLimit) :
    messageEnd head body = .ok (head + body) :=
  if_pos below

/-- The head of a request is found in front of whatever follows. -/
theorem Request.IsWritable.scan (writable : request.IsWritable host keepAlive) (rest : Bytes) :
    scanRequestHead
        (requestHeadBytes request (request.delivered host keepAlive).headers.fields ++ rest) =
      .found ⟨request.method.token, request.target, request.version,
        (request.delivered host keepAlive).headers.fields.map Field.raw⟩ rest :=
  scanRequestHead_written writable.target writable.legal_delivered writable.few rest

/-- How long the head of a request is does not depend on what follows. -/
theorem headExtent_encodeRequest (readable : request.IsReadable host maxPayload) (rest : Bytes) :
    headExtent (encodeRequest request host keepAlive ++ rest) =
      (requestHeadBytes request (request.delivered host keepAlive).headers.fields).length := by
  -- All that is left behind the head is the body with what follows.
  rw [encodeRequest_eq, List.append_assoc, headExtent, (readable.isWritable keepAlive).scan]
  simp

/-- A request is decoded as it was encoded, whatever stands behind it, if the limit allows. -/
theorem Request.IsWritable.decode (writable : request.IsWritable host keepAlive)
    (payload : request.body.length ≤ maxPayload)
    (size : (encodeRequest request host keepAlive).length < wordLimit) (rest : Bytes) :
    decodeRequest maxPayload (encodeRequest request host keepAlive ++ rest) =
      .message (request.delivered host keepAlive)
        (encodeRequest request host keepAlive).length := by
  rw [encodeRequest_eq, List.length_append] at size
  rw [encodeRequest_eq, List.length_append, List.append_assoc]
  -- Of the head only its length counts, and what was written into it.
  generalize bytes : requestHeadBytes request (request.delivered host keepAlive).headers.fields =
    head at size ⊢
  have scanned : scanRequestHead (head ++ (request.body ++ rest)) =
      .found ⟨request.method.token, request.target, request.version,
        (request.delivered host keepAlive).headers.fields.map Field.raw⟩
        (request.body ++ rest) := by
    rw [← bytes]
    exact writable.scan _
  have headLength : (head ++ (request.body ++ rest)).length - (request.body ++ rest).length =
      head.length := by
    rw [List.length_append, Nat.add_sub_cancel]
  -- The lines declare the length of the body, or none for an empty one.
  obtain ⟨declared, declares, length⟩ :
      ∃ declared, declaredLength (request.delivered host keepAlive).headers = .ok declared ∧
        declared.getD 0 = request.body.length :=
    declaredLength_delivered writable (by omega)
  -- What the head announces is the request with the end of its body.
  have announced : announcedRequest maxPayload ⟨request.method.token, request.target,
      request.version, (request.delivered host keepAlive).headers.fields.map Field.raw⟩
      head.length =
        .ok ({ request.delivered host keepAlive with body := [] },
          head.length + request.body.length) := by
    simp only [announcedRequest, Method.ofToken_token, collectFields_raw writable.legal_delivered]
    simp only [declares, length, messageEnd_of_lt size]
    rw [if_neg (by omega)]
    rfl
  -- The body is all there, whatever stands behind it.
  rw [decodeRequest_eq, scanned]
  simp only [headLength, announced, bodyBytes_between]
  rw [if_neg (by simp)]
  rfl

/-- A request is decoded as it was encoded, whatever stands behind it. -/
theorem decodeRequest_encodeRequest (readable : request.IsReadable host maxPayload)
    (size : (encodeRequest request host keepAlive).length < wordLimit) (rest : Bytes) :
    decodeRequest maxPayload (encodeRequest request host keepAlive ++ rest) =
      .message (request.delivered host keepAlive)
        (encodeRequest request host keepAlive).length :=
  (readable.isWritable keepAlive).decode readable.payload size rest

end Requests

section Responses

variable {response : Response} {keepAlive toHead : Bool}

/-- The header lines of a response that are not left out when it is written. -/
def Headers.kept (headers : Headers) : List Field :=
  headers.fields.filter fun field =>
    !sameName field.name "content-length" && !sameName field.name "connection"

/-- A response that is read as it was written, with a body only where one is expected. -/
structure Response.IsWritable (response : Response) (toHead : Bool) : Prop where
  least : 100 ≤ response.status.code
  most : response.status.code ≤ 999
  legal : ∀ field ∈ response.headers.kept, field.IsLegal
  plain : ∀ coding ∈ response.headers.get? "transfer-encoding", sameName coding "identity" = true
  few : response.headers.kept.length ≤ 61
  bodiless : (toHead || response.status.isBodiless) = true → response.body = []

instance (response : Response) (toHead : Bool) : Decidable (response.IsWritable toHead) :=
  decidable_of_iff ((100 ≤ response.status.code ∧ response.status.code ≤ 999) ∧
      (∀ field ∈ response.headers.kept, field.IsLegal) ∧
      (∀ coding ∈ response.headers.get? "transfer-encoding", sameName coding "identity" = true) ∧
      response.headers.kept.length ≤ 61 ∧
      ((toHead || response.status.isBodiless) = true → response.body = []))
    ⟨fun ⟨⟨least, most⟩, legal, plain, few, bodiless⟩ =>
        ⟨least, most, legal, plain, few, bodiless⟩,
      fun writable => ⟨⟨writable.least, writable.most⟩, writable.legal, writable.plain,
        writable.few, writable.bodiless⟩⟩

/-- A response that can be written and read again, with a body only where one is expected. -/
structure Response.IsReadable (response : Response) (toHead : Bool) : Prop where
  least : 100 ≤ response.status.code
  most : response.status.code ≤ 999
  legal : ∀ field ∈ response.headers.fields, field.IsLegal
  plain : response.headers.get? "transfer-encoding" = none
  /-- The header lines that are not left out anyway. -/
  few : (response.headers.fields.filter fun field =>
    !sameName field.name "content-length" && !sameName field.name "connection").length ≤ 61
  bodiless : (toHead || response.status.isBodiless) = true → response.body = []

instance (response : Response) (toHead : Bool) : Decidable (response.IsReadable toHead) :=
  decidable_of_iff ((100 ≤ response.status.code ∧ response.status.code ≤ 999) ∧
      (∀ field ∈ response.headers.fields, field.IsLegal) ∧
      response.headers.get? "transfer-encoding" = none ∧
      (response.headers.fields.filter fun field =>
        !sameName field.name "content-length" && !sameName field.name "connection").length ≤ 61 ∧
      ((toHead || response.status.isBodiless) = true → response.body = []))
    ⟨fun ⟨⟨least, most⟩, legal, plain, few, bodiless⟩ =>
        ⟨least, most, legal, plain, few, bodiless⟩,
      fun readable => ⟨⟨readable.least, readable.most⟩, readable.legal, readable.plain,
        readable.few, readable.bodiless⟩⟩

/-- A response without any coding is plain. -/
theorem Response.IsReadable.isWritable (readable : response.IsReadable toHead) :
    response.IsWritable toHead where
  least := readable.least
  most := readable.most
  legal field member := readable.legal field (List.mem_filter.1 member).1
  plain coding announced := by
    rw [readable.plain] at announced
    cases announced
  few := readable.few
  bodiless := readable.bodiless

/-- The header lines with which a response arrives. -/
def Response.lines (response : Response) (keepAlive : Bool) : List Field :=
  writtenFields response.headers response.body.length keepAlive

/-- The status that is read where a status was written: the registered one for its code, if any. -/
def Status.read (status : Status) : Status :=
  match Status.ofCode status.code with
  | .ok known => known
  | .error _ => status

/-- A code of three digits is read as a status. -/
theorem Status.ofCode_code {status : Status} (least : 100 ≤ status.code)
    (most : status.code ≤ 999) : Status.ofCode status.code = .ok status.read := by
  obtain ⟨known, made, _⟩ := Status.ofCode_three least most
  rw [Status.read, made]

/-- A status that was made from a code has three digits, and is read again as it is. -/
theorem Status.three_of_ofCode {n : Nat} {status : Status} (made : Status.ofCode n = .ok status) :
    100 ≤ status.code ∧ status.code ≤ 999 ∧ status.read = status := by
  have code := Status.code_of_ofCode made
  have same : status.read = status := by rw [Status.read, code, made]
  have all : ∀ known ∈ Status.registered, 100 ≤ known.code ∧ known.code ≤ 999 := by decide
  unfold Status.ofCode at made
  split at made
  · rename_i known search
    cases made
    obtain ⟨least, most⟩ := all status (List.mem_of_find?_eq_some search)
    exact ⟨least, most, same⟩
  · split at made
    · rename_i three
      rw [code]
      exact ⟨three.1, three.2, same⟩
    · cases made

/-- The code stays. -/
@[simp] theorem Status.code_read (status : Status) : status.read.code = status.code := by
  unfold Status.read
  split
  · rename_i known made
    exact Status.code_of_ofCode made
  · rfl

/-- Whether there can be a body is decided by the code, and so it stays. -/
@[simp] theorem Status.isBodiless_read (status : Status) :
    status.read.isBodiless = status.isBodiless := by
  unfold Status.isBodiless
  rw [Status.code_read]

/-- A response as it arrives, with the header lines that were written for it. -/
def Response.delivered (response : Response) (keepAlive : Bool) : Response :=
  { response with status := response.status.read, headers := ⟨response.lines keepAlive⟩ }

/-- The bytes of a response are its head and its body. -/
theorem encodeResponse_eq (response : Response) (keepAlive : Bool) :
    encodeResponse response keepAlive =
      responseHeadBytes response (response.lines keepAlive) ++ response.body := rfl

/-- Something is written for every response. -/
theorem encodeResponse_ne_nil (response : Response) (keepAlive : Bool) :
    encodeResponse response keepAlive ≠ [] := by
  simp [encodeResponse, lineBytes]

/-- The header lines with which a response arrives are its own ones and three of the engine's. -/
theorem Response.lines_eq (response : Response) (keepAlive : Bool) :
    response.lines keepAlive = (⟨"Server", serverName⟩ :: response.headers.kept) ++
      [⟨"Content-Length", decimal response.body.length⟩,
        ⟨"Connection", connectionWord keepAlive⟩] := rfl

/-- The header lines of a response that are not left out say nothing about its framing. -/
theorem Headers.sameName_of_mem_kept {headers : Headers} {field : Field}
    (member : field ∈ headers.kept) :
    sameName field.name "content-length" = false ∧ sameName field.name "connection" = false := by
  have kept := (List.mem_filter.1 member).2
  simpa only [Bool.and_eq_true, Bool.not_eq_true'] using kept

/-- A name that is not left out is found where it was. -/
theorem Headers.get?_kept (headers : Headers) {name : String}
    (length : sameName name "content-length" = false)
    (connection : sameName name "connection" = false) :
    Headers.get? ⟨headers.kept⟩ name = headers.get? name := by
  -- Names that are the same have the same folded characters.
  have other {field : Field} (same : sameName field.name name = true) (word : String) :
      sameName field.name word = sameName name word := by
    rw [sameName_iff] at same
    rw [sameName, sameName, same]
  unfold Headers.get? Headers.kept
  rw [List.find?_filter]
  congr 2
  funext field
  cases same : sameName field.name name with
  | false => simp
  | true => simp [other same, length, connection]

/-- In front of the lines that frame a response none states a length or speaks of the connection. -/
theorem Response.get?_front {response : Response} {name : String}
    (framing : name = "content-length" ∨ name = "connection") :
    Headers.get? ⟨⟨"Server", serverName⟩ :: response.headers.kept⟩ name = none := by
  refine Headers.get?_eq_none fun field member => ?_
  rcases List.mem_cons.1 member with rfl | own
  · rcases framing with rfl | rfl <;> decide
  · rcases framing with rfl | rfl
    · exact (Headers.sameName_of_mem_kept own).1
    · exact (Headers.sameName_of_mem_kept own).2

/-- All header lines of a response that arrives are legal. -/
theorem Response.IsWritable.legal_lines (writable : response.IsWritable toHead) :
    ∀ field ∈ response.lines keepAlive, field.IsLegal := by
  intro field member
  rw [Response.lines_eq, List.mem_append, List.mem_cons, List.mem_cons,
    List.mem_singleton] at member
  -- The engine's own names are tokens.
  rcases member with (rfl | own) | (rfl | rfl)
  · exact (by decide +kernel : Field.IsLegal ⟨"Server", serverName⟩)
  · exact writable.legal field own
  · exact isLegal_length _
  · exact isLegal_connection keepAlive

/-- The header lines of a response that arrives state the length of its body. -/
theorem Response.get?_length (response : Response) (keepAlive : Bool) :
    Headers.get? ⟨response.lines keepAlive⟩ "content-length" =
      some (decimal response.body.length) := by
  have lengthName : sameName "Content-Length" "content-length" = true := by decide
  rw [Response.lines_eq, Headers.get?_append, Response.get?_front (.inl rfl), Option.none_or]
  simp [Headers.get?, lengthName]

/-- A coding could only stand among the lines of the response itself. -/
theorem Response.get?_coding (response : Response) (keepAlive : Bool) :
    Headers.get? ⟨response.lines keepAlive⟩ "transfer-encoding" =
      response.headers.get? "transfer-encoding" := by
  have server : sameName "Server" "transfer-encoding" = false := by decide
  have length : sameName "Content-Length" "transfer-encoding" = false := by decide
  have connection : sameName "Connection" "transfer-encoding" = false := by decide
  have own : Headers.get? ⟨response.headers.kept⟩ "transfer-encoding" =
      response.headers.get? "transfer-encoding" :=
    response.headers.get?_kept (by decide) (by decide)
  have first : Headers.get? ⟨[⟨"Server", serverName⟩]⟩ "transfer-encoding" = none := by
    simp [Headers.get?, server]
  have last : Headers.get? ⟨[⟨"Content-Length", decimal response.body.length⟩,
      ⟨"Connection", connectionWord keepAlive⟩]⟩ "transfer-encoding" = none := by
    simp [Headers.get?, length, connection]
  rw [Response.lines_eq, Headers.get?_append, ← List.singleton_append, Headers.get?_append, own,
    first, last, Option.none_or, Option.or_none]

/-- The header lines of a response that arrives declare the length of its body. -/
theorem declaredLength_lines (writable : response.IsWritable toHead)
    (below : response.body.length < wordLimit) :
    declaredLength ⟨response.lines keepAlive⟩ = .ok (some response.body.length) := by
  have plain : (response.headers.get? "transfer-encoding").any
      (fun coding => !sameName coding "identity") = false := by
    cases announced : response.headers.get? "transfer-encoding" with
    | none => rfl
    | some coding => simp [writable.plain coding announced]
  rw [declaredLength, response.get?_coding, response.get?_length, plain, if_neg (by simp)]
  simp [readUnsigned?_decimal, below]

/-- The head of a response is found in front of whatever follows. -/
theorem Response.IsWritable.scan (writable : response.IsWritable toHead) (rest : Bytes) :
    scanResponseHead (responseHeadBytes response (response.lines keepAlive) ++ rest) =
      .found ⟨response.version, response.status.code, (response.lines keepAlive).map Field.raw⟩
        rest := by
  refine scanResponseHead_written writable.least writable.most writable.legal_lines ?_ rest
  -- There is room for three lines more than the response has of its own.
  have own := writable.few
  simp only [Response.lines_eq, List.length_append, List.length_cons, List.length_nil]
  show _ ≤ 64
  omega

/-- How long the head of a response is does not depend on what follows. -/
theorem responseHeadExtent_encodeResponse (readable : response.IsReadable toHead) (rest : Bytes) :
    responseHeadExtent (encodeResponse response keepAlive ++ rest) =
      (responseHeadBytes response (response.lines keepAlive)).length := by
  rw [encodeResponse_eq, List.append_assoc, responseHeadExtent, readable.isWritable.scan]
  simp

/-- A response is decoded as it was encoded, whatever stands behind it. -/
theorem Response.IsWritable.decode (writable : response.IsWritable toHead)
    (size : (encodeResponse response keepAlive).length < wordLimit) (ended : Bool) (rest : Bytes) :
    decodeResponse toHead ended (encodeResponse response keepAlive ++ rest) =
      .message (response.delivered keepAlive) (encodeResponse response keepAlive).length := by
  rw [encodeResponse_eq, List.length_append] at size
  rw [encodeResponse_eq, List.length_append, List.append_assoc]
  -- Of the head only its length counts, and what was written into it.
  generalize bytes : responseHeadBytes response (response.lines keepAlive) = head at size ⊢
  have scanned : scanResponseHead (head ++ (response.body ++ rest)) =
      .found ⟨response.version, response.status.code, (response.lines keepAlive).map Field.raw⟩
        (response.body ++ rest) := by
    rw [← bytes]
    exact writable.scan _
  have headLength : (head ++ (response.body ++ rest)).length - (response.body ++ rest).length =
      head.length := by
    rw [List.length_append, Nat.add_sub_cancel]
  -- Where no body is expected there is none.
  have length : (if toHead || response.status.read.isBodiless then .ok (some 0)
      else declaredLength ⟨response.lines keepAlive⟩ : Except Malformation (Option Nat)) =
        .ok (some response.body.length) := by
    rw [Status.isBodiless_read, declaredLength_lines writable (by omega)]
    split
    · rename_i silent
      rw [writable.bodiless silent]
      rfl
    · rfl
  -- What the head announces is the response without its body.
  have announced : announcedResponse toHead ⟨response.version, response.status.code,
      (response.lines keepAlive).map Field.raw⟩ =
        .ok (⟨response.version, response.status.read, ⟨response.lines keepAlive⟩, []⟩,
          some response.body.length) := by
    simp only [announcedResponse, Status.ofCode_code writable.least writable.most,
      collectFields_raw writable.legal_lines, length]
  rw [decodeResponse_eq, scanned]
  simp only [headLength, announced, messageEnd_of_lt size, bodyBytes_between]
  rw [if_pos (by simp)]
  rfl

/--
A response is decoded as it was encoded, whatever stands behind it.

A registered status that was written as a bare code comes back as the registered one.
-/
theorem decodeResponse_encodeResponse (readable : response.IsReadable toHead)
    (size : (encodeResponse response keepAlive).length < wordLimit) (ended : Bool) (rest : Bytes) :
    ∃ status, status.code = response.status.code ∧
      decodeResponse toHead ended (encodeResponse response keepAlive ++ rest) =
        .message { response with status, headers := ⟨response.lines keepAlive⟩ }
          (encodeResponse response keepAlive).length :=
  ⟨response.status.read, response.status.code_read, readable.isWritable.decode size ended rest⟩

/-- There is one word for each wish about the connection. -/
theorem Headers.wants_of_connectionWord {headers : Headers} {keepAlive : Bool}
    (word : headers.get? "connection" = some (connectionWord keepAlive)) :
    headers.wantsClose = !keepAlive ∧ headers.wantsKeepAlive = keepAlive := by
  unfold wantsClose wantsKeepAlive
  rw [word]
  cases keepAlive <;> decide

/-- A response that arrives says about the connection what was written into it. -/
theorem keepAlive_lines (response : Response) (keepAlive : Bool) (status : Status) :
    ({ response with status, headers := ⟨response.lines keepAlive⟩ } : Response).keepAlive =
      keepAlive := by
  have lengthName : sameName "Content-Length" "connection" = false := by decide
  have wordName : sameName "Connection" "connection" = true := by decide
  -- What the response itself says about the connection is left out.
  have word : Headers.get? ⟨response.lines keepAlive⟩ "connection" =
      some (connectionWord keepAlive) := by
    rw [Response.lines_eq, Headers.get?_append, Response.get?_front (.inr rfl), Option.none_or]
    simp [Headers.get?, lengthName, wordName]
  obtain ⟨closes, stays⟩ := Headers.wants_of_connectionWord word
  -- The version has no part in it.
  rw [Response.keepAlive, closes, stays]
  cases keepAlive <;> simp

end Responses

end HttpEngine
