import HttpEngine.Proofs.Wire.Accepted
import HttpEngine.Proofs.Wire.RoundTrip

/-!
What the header lines of a decoded message say about its body. A name is looked up once, and the
first field that has it answers: a coding is refused and a length is read where it stands first, and
nobody looks at what other fields with the name say.
-/

namespace HttpEngine

/-- The fields with a name have right values, but for those behind another field with that name. -/
def Headers.FirstIs (headers : Headers) (name : String) (right : String → Prop) : Prop :=
  ∀ before field behind, headers.fields = before ++ field :: behind →
    sameName field.name name = true →
    right field.value ∨ ∃ earlier ∈ before, sameName earlier.name name = true

/-- All fields with a name have right values. -/
def Headers.AllAre (headers : Headers) (name : String) (right : String → Prop) : Prop :=
  ∀ field ∈ headers.fields, sameName field.name name = true → right field.value

/-- All fields with a name have values that agree with that of the first one. -/
def Headers.Agree (headers : Headers) (name : String) (alike : String → String → Prop) : Prop :=
  ∀ first ∈ headers.get? name, headers.AllAre name (alike first)

instance (headers : Headers) (name : String) (right : String → Prop) [DecidablePred right] :
    Decidable (headers.AllAre name right) :=
  inferInstanceAs (Decidable (∀ field ∈ headers.fields, sameName field.name name = true →
    right field.value))

instance (headers : Headers) (name : String) (alike : String → String → Prop)
    [∀ first, DecidablePred (alike first)] : Decidable (headers.Agree name alike) :=
  inferInstanceAs (Decidable (∀ first ∈ headers.get? name, headers.AllAre name (alike first)))

section Fields

variable {headers : Headers} {name : String} {right : String → Prop}

/-- The value that is found for a name is that of a field. -/
theorem Headers.exists_of_get? {value : String} (found : headers.get? name = some value) :
    ∃ before field behind, headers.fields = before ++ field :: behind ∧ field.value = value ∧
      sameName field.name name = true ∧ ∀ earlier ∈ before, sameName earlier.name name = false := by
  obtain ⟨field, first, same⟩ := Option.map_eq_some_iff.1 found
  obtain ⟨named, before, behind, split, others⟩ := List.find?_eq_some_iff_append.1 first
  exact ⟨before, field, behind, split, same, named, by simpa using others⟩

/-- A name is found where a field has it, with the value of the first one. -/
theorem Headers.exists_get? {field : Field} (member : field ∈ headers.fields)
    (named : sameName field.name name = true) : ∃ value, headers.get? name = some value :=
  Option.isSome_iff_exists.1 (Headers.contains_iff.2 ⟨field, member, named⟩)

/-- The lookup of a name knows the first field that has it, and no other. -/
theorem Headers.firstIs_iff :
    headers.FirstIs name right ↔ ∀ value ∈ headers.get? name, right value := by
  constructor
  · intro first value found
    -- The field that is found has none of its name in front of it.
    obtain ⟨before, field, behind, split, rfl, named, others⟩ := Headers.exists_of_get? found
    refine (first before field behind split named).resolve_right ?_
    rintro ⟨earlier, member, same⟩
    rw [others earlier member] at same
    cases same
  · intro found before field behind split named
    by_cases preceded : ∃ earlier ∈ before, sameName earlier.name name = true
    · exact .inr preceded
    · -- Nothing in front of the field has the name, so that it is the one that is found.
      have others : ∀ earlier ∈ before, sameName earlier.name name = false := by
        simpa using preceded
      refine .inl (found _ ?_)
      have unseen : Headers.get? ⟨before⟩ name = none := Headers.get?_eq_none others
      have whole : headers = ⟨before ++ field :: behind⟩ := congrArg Headers.mk split
      rw [whole, Headers.get?_append, unseen, Option.none_or]
      simp [Headers.get?, named]

/-- If the first value is right, all are right as far as they agree with it. -/
theorem Headers.FirstIs.all (first : headers.FirstIs name right)
    {alike : String → String → Prop} (agree : headers.Agree name alike)
    (carries : ∀ value other, right value → alike value other → right other) :
    headers.AllAre name right := by
  intro field member named
  -- Where there is a field with the name, there is a first one, and that is right.
  obtain ⟨value, found⟩ := Headers.exists_get? member named
  exact carries value field.value (Headers.firstIs_iff.1 first value found)
    (agree value found field member named)

/-- Values that are all right agree, if right values do. -/
theorem Headers.AllAre.agree (all : headers.AllAre name right) {alike : String → String → Prop}
    (agrees : ∀ value other, right value → right other → alike value other) :
    headers.Agree name alike := by
  intro value found field member named
  obtain ⟨_, first, _, split, rfl, same, _⟩ := Headers.exists_of_get? found
  exact agrees first.value field.value (all first (by rw [split]; simp) same)
    (all field member named)

end Fields

/-- A text that is read as a number: digits, which a plus sign may stand in front of. -/
def IsNumeral (text : String) (n : Nat) : Prop :=
  digitsValue? text.toList = some n ∨
    ∃ digits, text.toList = '+' :: digits ∧ digitsValue? digits = some n

/-- The plus sign is no digit. -/
theorem digitsValue?_plus (digits : List Char) : digitsValue? ('+' :: digits) = none := by
  have sign : isAsciiDigit '+' = false := by decide
  simp [digitsValue?, sign]

/-- A number is read from its numerals, if it is small enough. -/
theorem readUnsigned?_eq_some_iff {limit n : Nat} {text : String} :
    readUnsigned? limit text = some n ↔ IsNumeral text n ∧ n < limit := by
  unfold readUnsigned? IsNumeral
  rw [Option.filter_eq_some_iff, decide_eq_true_eq]
  -- The limit is the same on both sides, and what is left is how the text is spelled.
  refine and_congr_left fun _ => ?_
  split
  · -- With the sign in front only what is behind it can be digits.
    rename_i digits spelled
    simp [spelled, digitsValue?_plus]
  · rename_i unsigned
    constructor
    · exact .inl
    · rintro (plain | ⟨digits, spelled, -⟩)
      · exact plain
      · exact absurd spelled (unsigned digits)

/-- The coding that leaves a body as it is. -/
def IsIdentity (coding : String) : Prop := sameName coding "identity" = true

instance (coding : String) : Decidable (IsIdentity coding) :=
  inferInstanceAs (Decidable (sameName coding "identity" = true))

/-- A length is declared, or none is needed, by header lines whose first ones can be understood. -/
structure Headers.AreFramed (headers : Headers) : Prop where
  coding : headers.FirstIs "transfer-encoding" IsIdentity
  length : headers.FirstIs "content-length" fun text => ∃ n, IsNumeral text n ∧ n < wordLimit

section Framing

variable {headers : Headers}

/-- What the first length says is what is declared. -/
theorem Headers.length_of_declared {declared : Option Nat}
    (declares : declaredLength headers = .ok declared) :
    headers.FirstIs "content-length" fun text =>
      IsNumeral text (declared.getD 0) ∧ declared.getD 0 < wordLimit := by
  refine Headers.firstIs_iff.2 fun text stated => ?_
  -- With a text there is a length that was read from it.
  have reads := (declaredLength_eq_ok_iff.1 declares).2
  rw [Option.mem_def.1 stated, Option.map_some] at reads
  cases declared with
  | none => cases reads
  | some n => exact readUnsigned?_eq_some_iff.1 (Option.some_inj.1 reads)

/-- Something is declared exactly by header lines whose first ones can be understood. -/
theorem Headers.areFramed_iff :
    headers.AreFramed ↔ ∃ declared, declaredLength headers = .ok declared := by
  constructor
  · -- Without a length nothing is declared, and with one the number that it says.
    rintro ⟨coding, length⟩
    have plain := Headers.firstIs_iff.1 coding
    cases stated : headers.get? "content-length" with
    | none => exact ⟨none, declaredLength_eq_ok_iff.2 ⟨plain, by rw [stated]; rfl⟩⟩
    | some text =>
      obtain ⟨n, read⟩ := Headers.firstIs_iff.1 length text stated
      refine ⟨some n, declaredLength_eq_ok_iff.2 ⟨plain, ?_⟩⟩
      rw [stated, Option.map_some, readUnsigned?_eq_some_iff.2 read, Option.map_some]
  · rintro ⟨declared, declares⟩
    refine ⟨Headers.firstIs_iff.2 (declaredLength_eq_ok_iff.1 declares).1, ?_⟩
    refine Headers.firstIs_iff.2 fun text stated => ?_
    exact ⟨_, Headers.firstIs_iff.1 (Headers.length_of_declared declares) text stated⟩

/-- Where the first coding is the identity, all are if they agree with it, and only then. -/
theorem Headers.AreFramed.codings_iff (framed : headers.AreFramed) :
    headers.AllAre "transfer-encoding" IsIdentity ↔
      headers.Agree "transfer-encoding" fun first other => sameName first other = true := by
  constructor
  · intro all
    refine all.agree fun first other same again => ?_
    exact sameName_iff.2 ((sameName_iff.1 same).trans (sameName_iff.1 again).symm)
  · intro agree
    refine framed.coding.all agree fun first other same alike => ?_
    exact sameName_iff.2 ((sameName_iff.1 alike).symm.trans (sameName_iff.1 same))

/-- A text that consists of digits, and of at least one, for a number. -/
def IsDecimal (n : Nat) (text : String) : Prop := digitsValue? text.toList = some n

instance (n : Nat) (text : String) : Decidable (IsDecimal n text) :=
  inferInstanceAs (Decidable (digitsValue? text.toList = some n))

/--
Where the first length is read as a number, all of them are its digits if the first one has no plus
sign and the others are digits of the same number, and only then.
-/
theorem Headers.lengths_iff {n : Nat}
    (first : headers.FirstIs "content-length" fun text => IsNumeral text n) :
    headers.AllAre "content-length" (IsDecimal n) ↔
      (∀ text ∈ headers.get? "content-length", text.toList.head? ≠ some '+') ∧
      headers.Agree "content-length" fun text other =>
        digitsValue? text.toList = digitsValue? other.toList := by
  constructor
  · -- The first text is one of them, and digits do not begin with a sign.
    intro all
    refine ⟨fun text found => ?_, all.agree fun text other digits again => digits.trans again.symm⟩
    obtain ⟨_, field, _, split, rfl, named, _⟩ := Headers.exists_of_get? found
    have digits : IsDecimal n field.value := all field (by rw [split]; simp) named
    intro signed
    obtain ⟨rest, spelled⟩ := List.head?_eq_some_iff.1 signed
    rw [IsDecimal, spelled, digitsValue?_plus] at digits
    cases digits
  · rintro ⟨unsigned, agree⟩ field member named
    obtain ⟨text, found⟩ := Headers.exists_get? member named
    -- Without the sign the first one is made of digits, and so are those that agree with it.
    have digits : IsDecimal n text := by
      refine (Headers.firstIs_iff.1 first text found).resolve_right ?_
      rintro ⟨rest, spelled, -⟩
      exact unsigned text found (by rw [spelled]; rfl)
    exact (agree text found field member named).symm.trans digits

end Framing

section Requests

variable {maxPayload : Nat} {buffer : Bytes}

/-- The header lines of a request that was decoded are framed, and say how long its body is. -/
theorem Request.framed_of_decoded {request : Request} {consumed : Nat}
    (decoded : decodeRequest maxPayload buffer = .message request consumed) :
    request.headers.AreFramed ∧
      (request.headers.FirstIs "content-length" fun text => IsNumeral text request.body.length) ∧
      (request.headers.contains "content-length" = false → request.body = []) := by
  -- The reading declares a length, and the body is as long as that.
  obtain ⟨head, rest, -, read, -⟩ := Request.exists_readFrom decoded
  obtain ⟨declared, declares, long⟩ := read.length
  refine ⟨Headers.areFramed_iff.2 ⟨declared, declares⟩, ?_, fun unstated => ?_⟩
  · rw [← long]
    refine Headers.firstIs_iff.2 fun text stated => ?_
    exact (Headers.firstIs_iff.1 (Headers.length_of_declared declares) text stated).1
  · -- Without a length nothing is declared, and the body is empty.
    have reads := (declaredLength_eq_ok_iff.1 declares).2
    rw [Option.isNone_iff_eq_none.1 (Option.isSome_eq_false_iff.1 unstated)] at reads
    cases declared with
    | none => exact List.eq_nil_of_length_eq_zero long.symm
    | some n => cases reads

/-- A request whose header lines are not framed is refused as soon as its head is there. -/
theorem decodeRequest_unframed {head : RequestHead} {rest : Bytes} {fields : List Field}
    (scanned : scanRequestHead buffer = .found head rest)
    (collected : collectFields head.fields = .ok fields)
    (unframed : ¬ Headers.AreFramed ⟨fields⟩) :
    ∃ reason, decodeRequest maxPayload buffer = .malformed reason := by
  cases declares : declaredLength ⟨fields⟩ with
  | ok declared => exact absurd (Headers.areFramed_iff.2 ⟨declared, declares⟩) unframed
  | error reason =>
    -- A method that nobody knows is another reason to refuse the head, and comes first.
    rw [decodeRequest_eq, scanned]
    dsimp only [announcedRequest]
    cases Method.ofToken head.method with
    | error fault => exact ⟨.line fault, rfl⟩
    | ok method =>
      simp only [collected, declares]
      exact ⟨reason, rfl⟩

end Requests

section Responses

variable {ended : Bool} {buffer : Bytes}

/-- The header lines of a response that was decoded and may have a body are framed. -/
theorem Response.framed_of_decoded {response : Response} {consumed : Nat}
    (decoded : decodeResponse false ended buffer = .message response consumed)
    (bodied : response.status.isBodiless = false) : response.headers.AreFramed := by
  obtain ⟨head, rest, bare, declared, -, -, read, -⟩ := Response.exists_readFrom decoded
  -- Only of a response that may have a body the length was asked for.
  have declares := read.declares
  rw [bodied, Bool.or_false, if_neg Bool.false_ne_true] at declares
  exact Headers.areFramed_iff.2 ⟨declared, declares⟩

/-- A response with a body is refused as soon as its head is there, if that is not framed. -/
theorem decodeResponse_unframed {head : ResponseHead} {rest : Bytes} {fields : List Field}
    (scanned : scanResponseHead buffer = .found head rest)
    (collected : collectFields head.fields = .ok fields)
    (bodied : ∀ status, Status.ofCode head.code = .ok status → status.isBodiless = false)
    (unframed : ¬ Headers.AreFramed ⟨fields⟩) :
    ∃ reason, decodeResponse false ended buffer = .malformed reason := by
  cases declares : declaredLength ⟨fields⟩ with
  | ok declared => exact absurd (Headers.areFramed_iff.2 ⟨declared, declares⟩) unframed
  | error reason =>
    -- The announcement is refused in the same place as that of a request.
    rw [decodeResponse_eq, scanned]
    dsimp only [announcedResponse]
    cases known : Status.ofCode head.code with
    | error fault => exact ⟨.line fault, rfl⟩
    | ok status =>
      simp only [collected, bodied status known, Bool.or_false, if_neg Bool.false_ne_true, declares]
      exact ⟨reason, rfl⟩

end Responses

/--
A coding is refused where it stands first.

A request that is returned has no coding but the identity, unless behind another field for codings,
and has none at all exactly if its fields for codings agree. The same is true of a response that is
returned, if it may have a body. A head in which another coding stands first is refused as soon as
it is there.
-/
theorem first_coding_refused (maxPayload : Nat) (ended : Bool) (buffer : Bytes) :
    (∀ request consumed, decodeRequest maxPayload buffer = .message request consumed →
      request.headers.FirstIs "transfer-encoding" IsIdentity ∧
      (request.headers.AllAre "transfer-encoding" IsIdentity ↔
        request.headers.Agree "transfer-encoding" fun first other =>
          sameName first other = true)) ∧
    (∀ head rest fields, scanRequestHead buffer = .found head rest →
      collectFields head.fields = .ok fields →
      ¬ Headers.FirstIs ⟨fields⟩ "transfer-encoding" IsIdentity →
      ∃ reason, decodeRequest maxPayload buffer = .malformed reason) ∧
    (∀ response consumed, decodeResponse false ended buffer = .message response consumed →
      response.status.isBodiless = false →
      response.headers.FirstIs "transfer-encoding" IsIdentity ∧
      (response.headers.AllAre "transfer-encoding" IsIdentity ↔
        response.headers.Agree "transfer-encoding" fun first other =>
          sameName first other = true)) ∧
    (∀ head rest fields, scanResponseHead buffer = .found head rest →
      collectFields head.fields = .ok fields →
      (∀ status, Status.ofCode head.code = .ok status → status.isBodiless = false) →
      ¬ Headers.FirstIs ⟨fields⟩ "transfer-encoding" IsIdentity →
      ∃ reason, decodeResponse false ended buffer = .malformed reason) := by
  -- Requests first, and then responses: what is returned, and what is refused.
  refine ⟨fun request consumed decoded => ?_, fun head rest fields scanned collected coded => ?_,
    fun response consumed decoded bodied => ?_,
    fun head rest fields scanned collected bodied coded => ?_⟩
  · have framed := (Request.framed_of_decoded decoded).1
    exact ⟨framed.coding, framed.codings_iff⟩
  · exact decodeRequest_unframed scanned collected fun framed => coded framed.coding
  · have framed := Response.framed_of_decoded decoded bodied
    exact ⟨framed.coding, framed.codings_iff⟩
  · exact decodeResponse_unframed scanned collected bodied fun framed => coded framed.coding

/-- The identity may be said twice, and another coding is refused where it stands first. -/
theorem first_coding_refused_said_twice :
    let plain := utf8Bytes ("POST / HTTP/1.1\r\nTransfer-Encoding: Identity\r\n"
      ++ "transfer-encoding: identity\r\nContent-Length: 2\r\n\r\nhi")
    let coded := utf8Bytes ("POST / HTTP/1.1\r\nHost: a\r\nTransfer-Encoding: chunked\r\n"
      ++ "Transfer-Encoding: identity\r\n\r\n")
    let answered := utf8Bytes "HTTP/1.1 200 OK\nTRANSFER-ENCODING: gzip\nContent-Length: 0\n\n"
    (∃ request, decodeRequest 9 plain = .message request plain.length ∧
      request.headers.AllAre "transfer-encoding" IsIdentity) ∧
    (∃ reason, decodeRequest 9 coded = .malformed reason) ∧
    ∃ reason, decodeResponse false true answered = .malformed reason := by
  intro plain coded answered
  have returned : decodeRequest 9 plain = .message ⟨.post, "/", .http11,
      ⟨[⟨"Transfer-Encoding", "Identity"⟩, ⟨"transfer-encoding", "identity"⟩,
        ⟨"Content-Length", "2"⟩]⟩, utf8Bytes "hi"⟩ plain.length := by decide +kernel
  have asked : scanRequestHead coded = .found ⟨"POST", "/", .http11,
      [⟨"Host", utf8Bytes "a"⟩, ⟨"Transfer-Encoding", utf8Bytes "chunked"⟩,
        ⟨"Transfer-Encoding", utf8Bytes "identity"⟩]⟩ [] := by decide +kernel
  have told : scanResponseHead answered = .found ⟨.http11, 200,
      [⟨"TRANSFER-ENCODING", utf8Bytes "gzip"⟩, ⟨"Content-Length", utf8Bytes "0"⟩]⟩ [] := by
    decide +kernel
  refine ⟨⟨_, returned, ?_⟩, ?_, ?_⟩
  · refine ((first_coding_refused 9 true plain).1 _ _ returned).2.2 ?_
    decide +kernel
  · refine (first_coding_refused 9 true coded).2.1 _ _
      [⟨"Host", "a"⟩, ⟨"Transfer-Encoding", "chunked"⟩, ⟨"Transfer-Encoding", "identity"⟩]
      asked (by decide +kernel) ?_
    rw [Headers.firstIs_iff]
    decide +kernel
  · refine (first_coding_refused 9 true answered).2.2.2 _ _
      [⟨"TRANSFER-ENCODING", "gzip"⟩, ⟨"Content-Length", "0"⟩] told (by decide +kernel) ?_ ?_
    · intro status known
      have standard : Status.ofCode 200 = .ok .ok := by decide +kernel
      rw [standard] at known
      cases known
      rfl
    · rw [Headers.firstIs_iff]
      decide +kernel

/--
A coding that stands behind the identity is overlooked: a request and a response are returned with
it, and what comes behind the head is not their body.
-/
theorem later_coding_taken :
    let asked := utf8Bytes ("POST / HTTP/1.1\r\nTransfer-Encoding: identity\r\n"
      ++ "transfer-encoding: chunked\r\n\r\n")
    let answered := utf8Bytes ("HTTP/1.1 200 OK\r\nTransfer-Encoding: identity\r\n"
      ++ "transfer-encoding: chunked\r\nContent-Length: 0\r\n\r\n")
    let chunks := utf8Bytes "2\r\nhi\r\n0\r\n\r\n"
    (∃ request, decodeRequest 9 (asked ++ chunks) = .message request asked.length ∧
      request.body = [] ∧ ¬ request.headers.AllAre "transfer-encoding" IsIdentity) ∧
    ∃ response,
      decodeResponse false false (answered ++ chunks) = .message response answered.length ∧
      response.status.isBodiless = false ∧ response.body = [] ∧
      ¬ response.headers.AllAre "transfer-encoding" IsIdentity := by
  intro asked answered chunks
  have request : decodeRequest 9 (asked ++ chunks) = .message ⟨.post, "/", .http11,
      ⟨[⟨"Transfer-Encoding", "identity"⟩, ⟨"transfer-encoding", "chunked"⟩]⟩, []⟩
      asked.length := by decide +kernel
  have response : decodeResponse false false (answered ++ chunks) = .message ⟨.http11, .ok,
      ⟨[⟨"Transfer-Encoding", "identity"⟩, ⟨"transfer-encoding", "chunked"⟩,
        ⟨"Content-Length", "0"⟩]⟩, []⟩ answered.length := by decide +kernel
  exact ⟨⟨_, request, rfl, by decide +kernel⟩, _, response, rfl, rfl, by decide +kernel⟩

/--
A length is read where it stands first.

A request that is returned has a body as long as its first length says, and without a length none.
Its lengths are all digits for this number exactly if the first one has no plus sign and the others
are digits of the same number. A head in which a text stands first that is no number of a machine
word is refused as soon as it is there.
-/
theorem first_length_read (maxPayload : Nat) (buffer : Bytes) :
    (∀ request consumed, decodeRequest maxPayload buffer = .message request consumed →
      (request.headers.FirstIs "content-length" fun text => IsNumeral text request.body.length) ∧
      (request.headers.contains "content-length" = false → request.body = []) ∧
      (request.headers.AllAre "content-length" (IsDecimal request.body.length) ↔
        (∀ text ∈ request.headers.get? "content-length", text.toList.head? ≠ some '+') ∧
        request.headers.Agree "content-length" fun text other =>
          digitsValue? text.toList = digitsValue? other.toList)) ∧
    (∀ head rest fields, scanRequestHead buffer = .found head rest →
      collectFields head.fields = .ok fields →
      ¬ Headers.FirstIs ⟨fields⟩ "content-length" (fun text =>
        ∃ n, IsNumeral text n ∧ n < wordLimit) →
      ∃ reason, decodeRequest maxPayload buffer = .malformed reason) := by
  refine ⟨fun request consumed decoded => ?_, fun head rest fields scanned collected unread => ?_⟩
  · obtain ⟨-, length, unstated⟩ := Request.framed_of_decoded decoded
    exact ⟨length, unstated, Headers.lengths_iff length⟩
  · exact decodeRequest_unframed scanned collected fun framed => unread framed.length

/-- A length may be said twice in other digits, and a text that is no number is refused. -/
theorem first_length_read_said_twice :
    let twice := utf8Bytes ("POST / HTTP/1.1\r\nContent-Length: 2\r\ncontent-length: 02\r\n"
      ++ "\r\nhi")
    let unread := utf8Bytes "POST / HTTP/1.1\r\nContent-Length: 2, 2\r\n\r\nhi"
    (∃ request, decodeRequest 9 twice = .message request twice.length ∧
      request.headers.AllAre "content-length" (IsDecimal 2)) ∧
    ∃ reason, decodeRequest 9 unread = .malformed reason := by
  intro twice unread
  have returned : decodeRequest 9 twice = .message ⟨.post, "/", .http11,
      ⟨[⟨"Content-Length", "2"⟩, ⟨"content-length", "02"⟩]⟩, utf8Bytes "hi"⟩ twice.length := by
    decide +kernel
  have asked : scanRequestHead unread = .found ⟨"POST", "/", .http11,
      [⟨"Content-Length", utf8Bytes "2, 2"⟩]⟩ (utf8Bytes "hi") := by decide +kernel
  refine ⟨⟨_, returned, ?_⟩, ?_⟩
  · refine ((first_length_read 9 twice).1 _ _ returned).2.2.2 ⟨?_, ?_⟩
    · decide +kernel
    · decide +kernel
  · refine (first_length_read 9 unread).2 _ _ [⟨"Content-Length", "2, 2"⟩] asked
      (by decide +kernel) ?_
    rw [Headers.firstIs_iff]
    intro numeral
    -- A numeral would have been read as a number.
    obtain ⟨n, read⟩ := numeral "2, 2" (by decide +kernel)
    have unreadable : readUnsigned? wordLimit "2, 2" = none := by decide +kernel
    rw [readUnsigned?_eq_some_iff.2 read] at unreadable
    cases unreadable

/--
Requests are returned with a length that has a plus sign, with two lengths that are not the same,
and with a second one that is no number at all.
-/
theorem unclear_length_taken :
    let signed := utf8Bytes "POST / HTTP/1.1\r\nContent-Length: +2\r\n\r\nhi"
    let twofold := utf8Bytes "POST / HTTP/1.1\r\nContent-Length: 2\r\nContent-Length: 1\r\n\r\nhi"
    let unread := utf8Bytes "POST / HTTP/1.1\r\nContent-Length: 2\r\nContent-Length: x\r\n\r\nhi"
    ∀ bytes ∈ [signed, twofold, unread],
      ∃ request, decodeRequest 9 bytes = .message request bytes.length ∧
        request.body = utf8Bytes "hi" ∧
        ¬ request.headers.AllAre "content-length" (IsDecimal request.body.length) := by
  intro signed twofold unread bytes among
  have first : decodeRequest 9 signed = .message ⟨.post, "/", .http11,
      ⟨[⟨"Content-Length", "+2"⟩]⟩, utf8Bytes "hi"⟩ signed.length := by decide +kernel
  have second : decodeRequest 9 twofold = .message ⟨.post, "/", .http11,
      ⟨[⟨"Content-Length", "2"⟩, ⟨"Content-Length", "1"⟩]⟩, utf8Bytes "hi"⟩ twofold.length := by
    decide +kernel
  have third : decodeRequest 9 unread = .message ⟨.post, "/", .http11,
      ⟨[⟨"Content-Length", "2"⟩, ⟨"Content-Length", "x"⟩]⟩, utf8Bytes "hi"⟩ unread.length := by
    decide +kernel
  simp only [List.mem_cons, List.not_mem_nil, or_false] at among
  rcases among with rfl | rfl | rfl
  · exact ⟨_, first, rfl, by decide +kernel⟩
  · exact ⟨_, second, rfl, by decide +kernel⟩
  · exact ⟨_, third, rfl, by decide +kernel⟩

end HttpEngine
