import HttpEngine.Outbound.Client
import HttpEngine.Proofs.Outbound.Target
import HttpEngine.Proofs.Wire.FirstField
import HttpEngine.Proofs.Wire.Image
import HttpEngine.Proofs.Wire.RequestSequence

/-!
What becomes of a target in the bytes of a request. It is written as it is, whatever its characters
are, and it is read again as it is exactly if a request line and a header line can carry them.
-/

namespace HttpEngine

/-- The characters of a request target: all but spaces and the control characters of ASCII. -/
def isTargetChar (c : Char) : Bool := decide (' ' < c) && c != '\x7F'

/-- The characters of a header value: those of a target, the space and the tab. -/
def isTextChar (c : Char) : Bool := c == '\t' || (decide (' ' ≤ c) && c != '\x7F')

section Characters

variable {text : String}

/--
All bytes of a text are of a class exactly if all its characters are, where bytes and characters
beyond ASCII are in the class anyway.
-/
theorem forall_utf8Bytes_iff {p : UInt8 → Bool} {q : Char → Bool}
    (ascii : ∀ n < 0x80, p (.ofNat n) = q (.ofNat n))
    (bytes : ∀ byte : UInt8, 0x80 ≤ byte.toNat → p byte = true)
    (chars : ∀ c : Char, 0x80 ≤ c.toNat → q c = true) (text : String) :
    (∀ byte ∈ utf8Bytes text, p byte = true) ↔ ∀ c ∈ text.toList, q c = true := by
  -- It is enough to look at the bytes of one character.
  have single (c : Char) : (∀ byte ∈ String.utf8EncodeChar c, p byte = true) ↔ q c = true := by
    by_cases small : c.toNat < 0x80
    · rw [utf8EncodeChar_ascii small, List.forall_mem_singleton, ascii _ small, Char.ofNat_toNat]
    · -- All bytes of a longer character are beyond ASCII.
      have beyond := (utf8EncodeChar_cases c).resolve_left small
      exact iff_of_true (fun byte member => bytes byte (beyond byte member))
        (chars c (Nat.le_of_not_lt small))
  simp only [utf8Bytes, List.forall_mem_flatMap, single]

/-- Characters beyond ASCII may stand in a target. -/
theorem isTargetChar_of_beyond {c : Char} (beyond : 0x80 ≤ c.toNat) : isTargetChar c = true := by
  -- What is beyond ASCII is none of the characters that are excluded.
  have above : ' ' < c := by
    rw [Char.lt_def, UInt32.lt_iff_toNat_lt]
    exact Nat.lt_of_lt_of_le (by decide) beyond
  have other : c ≠ '\x7F' := by
    rintro rfl
    exact absurd beyond (by decide)
  simp [isTargetChar, above, other]

/-- What may stand in a target may stand in a header value. -/
theorem isTextChar_of_isTargetChar {c : Char} (target : isTargetChar c = true) :
    isTextChar c = true := by
  simp only [isTargetChar, isTextChar, Bool.and_eq_true, Bool.or_eq_true, decide_eq_true_eq]
    at target ⊢
  exact .inr ⟨UInt32.le_of_lt target.1, target.2⟩

/-- A text is a target exactly if it is made of the characters of one. -/
theorem isTarget_iff : IsTarget text ↔ text ≠ "" ∧ ∀ c ∈ text.toList, isTargetChar c = true := by
  have bytes (byte : UInt8) (beyond : 0x80 ≤ byte.toNat) : isTargetByte byte = true := by
    simp [isTargetByte, UInt8.le_iff_toNat_le, beyond]
  rw [IsTarget, forall_utf8Bytes_iff (by decide +kernel) bytes fun c => isTargetChar_of_beyond]

/-- The bytes of a text may stand in a header value exactly if its characters may. -/
theorem forall_isTextByte_iff :
    (∀ byte ∈ utf8Bytes text, isTextByte byte = true) ↔
      ∀ c ∈ text.toList, isTextChar c = true := by
  have bytes (byte : UInt8) (beyond : 0x80 ≤ byte.toNat) : isTextByte byte = true := by
    simp [isTextByte, UInt8.le_iff_toNat_le, beyond]
  exact forall_utf8Bytes_iff (by decide +kernel) bytes
    (fun c beyond => isTextChar_of_isTargetChar (isTargetChar_of_beyond beyond)) text

/-- A list is left as it is by the cut at its front exactly if its first character stays. -/
theorem dropWhile_eq_self_iff {p : Char → Bool} {list : List Char} :
    list.dropWhile p = list ↔ ∀ c ∈ list.head?, p c = false := by
  cases list with
  | nil => simp
  | cons c rest =>
    constructor
    · intro same
      simpa using head_of_dropWhile_eq same
    · intro first
      rw [List.dropWhile_cons_of_neg]
      simpa using first c rfl

/-- A text is not cut at its ends exactly if there is no white space at either of them. -/
theorem trimText_eq_iff :
    trimText text = text ↔
      (∀ c ∈ text.toList.head?, isBlank c = false) ∧
        ∀ c ∈ text.toList.getLast?, isBlank c = false := by
  -- No blanks at either end are removed exactly if there are none.
  rw [← List.head?_reverse, ← dropWhile_eq_self_iff, ← dropWhile_eq_self_iff, ← String.toList_inj,
    trimText, String.toList_ofList]
  constructor
  · exact dropWhile_of_trimBlanks_eq
  · rintro ⟨front, back⟩
    rw [trimBlanks, front, back, List.reverse_reverse]

end Characters

/-- A request that is written alone is read alone. -/
theorem Outgoing.Fits.decodeStream {outgoing : Outgoing} {maxPayload : Nat}
    (fits : outgoing.Fits maxPayload) :
    HttpEngine.decodeStream (decodeRequest maxPayload) outgoing.bytes =
      [.message outgoing.arrived outgoing.bytes.length] := by
  have read := decodeStream_sequence [outgoing] (List.forall_mem_singleton.2 fits)
  rwa [List.flatMap_singleton] at read

namespace Target

variable {text : String} {target : Target} {options : ClientOptions} {keepAlive : Bool}
  {maxPayload : Nat}

/-- A target that a request can carry: no character would end its path or its host, or be cut off. -/
structure IsClean (target : Target) : Prop where
  path : ∀ c ∈ target.path.toList, isTargetChar c = true
  authority : ∀ c ∈ target.authority.toList, isTextChar c = true
  begins : ∀ c ∈ target.authority.toList.head?, isBlank c = false

instance (target : Target) : Decidable target.IsClean :=
  decidable_of_iff (target.path.toList.all isTargetChar = true ∧
      target.authority.toList.all isTextChar = true ∧
      target.authority.toList.head?.all (!isBlank ·) = true) <| by
    simp only [List.all_eq_true, Option.all_eq_true, Bool.not_eq_true']
    exact ⟨fun ⟨path, authority, begins⟩ => ⟨path, authority, begins⟩,
      fun clean => ⟨clean.path, clean.authority, clean.begins⟩⟩

/-- No digit of a port is white space. -/
theorem not_isBlank_of_isAsciiDigit {c : Char} (digit : isAsciiDigit c = true) :
    isBlank c = false := by
  simp only [isAsciiDigit, Bool.and_eq_true, decide_eq_true_eq, Char.le_def,
    UInt32.le_iff_toNat_le] at digit
  exact not_isBlank_of_digit digit.1 digit.2

/-- A target in normal form can be carried exactly if its path is a target and its host a value. -/
theorem IsNormal.isClean_iff (normal : target.IsNormal) :
    target.IsClean ↔ IsTarget target.path ∧ IsValue target.authority := by
  have path : target.path ≠ "" := by
    obtain ⟨rest, path⟩ := normal.path
    simp [path]
  have last : ∀ c ∈ target.authority.toList.getLast?, isBlank c = false := by
    -- The last character is that of the port.
    obtain ⟨name, port, ported, -, nonempty, digits⟩ := normal.port
    have behind : port.toList ≠ [] := mt String.toList_eq_nil_iff.1 nonempty
    intro c final
    rw [ported, String.toList_append, List.getLast?_append_of_ne_nil _ behind] at final
    exact not_isBlank_of_isAsciiDigit (digits c (List.mem_of_getLast? final))
  rw [isTarget_iff, IsValue, forall_isTextByte_iff, trimText_eq_iff]
  constructor
  · intro clean
    exact ⟨⟨path, clean.path⟩, clean.authority, clean.begins, last⟩
  · rintro ⟨⟨-, visible⟩, plain, begins, -⟩
    exact ⟨visible, plain, begins⟩

/-- A request for a target goes to its path, and has neither header lines nor a body. -/
theorem request_new (named : ofText text = .ok target) (options : ClientOptions) :
    (Draft.new options .get text).request = { method := .get, target := target.path } := by
  rw [Draft.new, named]

/-- What is written for a target, with the host that is found for it. -/
def outgoing (target : Target) (keepAlive : Bool) : Outgoing :=
  ⟨{ method := .get, target := target.path }, target.authority, keepAlive⟩

/-- The request as it is read again: the host and the connection are all that was added. -/
theorem arrived_outgoing (target : Target) (keepAlive : Bool) :
    (target.outgoing keepAlive).arrived =
      { method := .get, target := target.path
        headers := ⟨[⟨"Host", target.authority⟩,
          ⟨"Connection", if keepAlive then "keep-alive" else "close"⟩]⟩ } := rfl

/-- A clean target is read as it was written. -/
theorem IsClean.fits (clean : target.IsClean) (normal : target.IsNormal)
    (size : (target.outgoing keepAlive).bytes.length < wordLimit) (maxPayload : Nat) :
    (target.outgoing keepAlive).Fits maxPayload := by
  obtain ⟨path, authority⟩ := normal.isClean_iff.1 clean
  -- A request without a body has no length and no coding to state.
  refine ⟨⟨path, ?_, fun _ => authority, ?_, ?_, ?_⟩, Nat.zero_le _, size⟩
  · intro field member
    cases member
  · intro value stated
    cases stated
  · intro coding announced
    cases announced
  · -- There are two header lines, and room for many more.
    exact (by decide : 2 ≤ maxHeaders)

/-- A request that is read has a target and header lines that can be written again. -/
theorem legal_of_decoded {buffer : Bytes} {request : Request} {consumed : Nat}
    (decoded : decodeRequest maxPayload buffer = .message request consumed) :
    IsTarget request.target ∧ ∀ field ∈ request.headers.fields, field.IsLegal := by
  obtain ⟨head, rest, scanned, read, -, -⟩ := Request.exists_readFrom decoded
  obtain ⟨target, sound⟩ := RequestHead.isSound scanned
  exact ⟨by rwa [read.target], isLegal_of_collectFields sound read.fields⟩

/-- The first answer of a stream is that of its front. -/
theorem decode_of_decodeStream {α : Type} {decode : Bytes → Decoded α} {buffer : Bytes}
    {answer : Decoded α} (alone : decodeStream decode buffer = [answer]) :
    decode buffer = answer := by
  rw [decodeStream] at alone
  split at alone
  · rename_i value consumed decoded
    rw [decoded]
    -- Whether or not there are more answers behind it, it is the first one.
    dsimp only at alone
    split at alone
    · exact List.head_eq_of_cons_eq alone
    · exact List.head_eq_of_cons_eq alone
  · exact List.head_eq_of_cons_eq alone

/--
A target reaches the wire intact exactly if a request can carry it.

A text that names a target is written as a request for its path, with its host. What is written is
read as one request to that path with that host, and not a byte is left, if and only if the path is
free of spaces and control characters, and the host is free of control characters but tabs and does
not begin with white space. The request is then the one that was to be sent, with the host and what
becomes of the connection as its header lines, and without a body.
-/
theorem carried_iff (options : ClientOptions) {text : String} {target : Target}
    (named : ofText text = .ok target) (keepAlive : Bool) (maxPayload : Nat)
    (size : (encodeRequest (Draft.new options .get text).request target.authority
      keepAlive).length < wordLimit) :
    let bytes := encodeRequest (Draft.new options .get text).request target.authority keepAlive
    let answers := decodeStream (decodeRequest maxPayload) bytes
    ((∃ request, answers = [.message request bytes.length] ∧ request.target = target.path ∧
        request.headers.get? "host" = some target.authority) ↔ target.IsClean) ∧
    (target.IsClean →
      answers = [.message
        { method := .get, target := target.path
          headers := ⟨[⟨"Host", target.authority⟩,
            ⟨"Connection", if keepAlive then "keep-alive" else "close"⟩]⟩ } bytes.length]) := by
  intro bytes answers
  -- What the target is for is put into the request as it is.
  have normal : target.IsNormal := (normal_of_ofText named).1
  have written : bytes = (target.outgoing keepAlive).bytes := by
    simp only [bytes, request_new named]
    rfl
  -- A clean target makes a request that comes through.
  have whole (clean : target.IsClean) :
      answers = [.message (target.outgoing keepAlive).arrived bytes.length] := by
    have small : (target.outgoing keepAlive).bytes.length < wordLimit := by rwa [← written]
    have fits := clean.fits normal small maxPayload
    have read := fits.decodeStream
    rwa [← written] at read
  refine ⟨⟨?_, fun clean => ⟨_, whole clean, rfl, ?_⟩⟩, whole⟩
  · rintro ⟨request, alone, path, host⟩
    -- Whatever is read may be written again, and so the path and the host may.
    obtain ⟨aimed, legal⟩ := legal_of_decoded (decode_of_decodeStream alone)
    obtain ⟨before, field, behind, split, value, -, -⟩ := Headers.exists_of_get? host
    have member : field ∈ request.headers.fields := by
      rw [split]
      exact List.mem_append_right _ List.mem_cons_self
    rw [normal.isClean_iff, ← path, ← value]
    exact ⟨aimed, (legal field member).value⟩
  · have hostName : sameName "Host" "host" = true := by decide
    -- The first field with the name of the host is the one that was added.
    simp [arrived_outgoing, Headers.get?, hostName]

/-- A host and a path beyond ASCII reach the wire, and so does a space within a host. -/
theorem carried_iff_beyond :
    let text := "http://b\u00fccher\u3000am see/caf\u00e9?\u00a0"
    let target : Target := ⟨"b\u00fccher\u3000am see:80", "/caf\u00e9?\u00a0"⟩
    let bytes := encodeRequest (Draft.new .standard .get text).request target.authority false
    ofText text = .ok target ∧ bytes.length < wordLimit ∧
      decodeStream (decodeRequest 0) bytes = [.message
        { method := .get, target := target.path
          headers := ⟨[⟨"Host", target.authority⟩, ⟨"Connection", "close"⟩]⟩ } bytes.length] := by
  intro text target bytes
  have named : ofText text = .ok target := by decide +kernel
  have size : bytes.length < wordLimit := by decide +kernel
  exact ⟨named, size, (carried_iff .standard named false 0 size).2 (by decide +kernel)⟩

/-- A path that ends the request line itself, and begins another one. -/
def forgingPath : String := "/x HTTP/1.1\r\n\r\nGET /y"

/--
A path with a space makes a request that is refused, a path with line ends makes two requests, and
a space in front of the host is lost.
-/
theorem carried_not_always :
    let written (text : String) (host : String) : Bytes :=
      encodeRequest (Draft.new .standard .get text).request host true
    let word : Field := ⟨"Connection", "keep-alive"⟩
    ofText "a/x y" = .ok ⟨"a:80", "/x y"⟩ ∧
    decodeRequest 0 (written "a/x y" "a:80") = .malformed (.head .version) ∧
    ofText ("a" ++ forgingPath) = .ok ⟨"a:80", forgingPath⟩ ∧
    decodeStream (decodeRequest 0) (written ("a" ++ forgingPath) "a:80") =
      [.message { method := .get, target := "/x" } 19,
        .message { method := .get, target := "/y", headers := ⟨[⟨"Host", "a:80"⟩, word]⟩ } 55] ∧
    ofText " a" = .ok ⟨" a:80", "/"⟩ ∧
    decodeRequest 0 (written " a" " a:80") =
      .message { method := .get, target := "/", headers := ⟨[⟨"Host", "a:80"⟩, word]⟩ } 55 := by
  intro written word
  refine ⟨by decide +kernel, by decide +kernel, by decide +kernel, ?_, by decide +kernel,
    by decide +kernel⟩
  -- The bytes of the forging path are read as two requests.
  exact decodeStream_pair (by decide +kernel) (by decide +kernel) (by decide) (by decide +kernel)

end Target

end HttpEngine
