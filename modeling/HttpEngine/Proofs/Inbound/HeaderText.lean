import HttpEngine.Inbound.ResponseWriter
import HttpEngine.Proofs.Wire.Sequence
import HttpEngine.Proofs.Wire.Unbroken

/-!
What a handler writes into the header lines of its response does not change where the response ends,
as long as it does not write a line feed. Header text is written as it is, so that a line feed does.
-/

namespace HttpEngine

section Framing

/-- No number has a colon in it. -/
theorem readUnsigned?_of_colon {limit : Nat} {text : String} (colon : ':' ∈ text.toList) :
    readUnsigned? limit text = none := by
  have noDigits {list : List Char} (colon : ':' ∈ list) : digitsValue? list = none := by
    have noDigit : ¬ list.all isAsciiDigit = true := fun all =>
      absurd (List.all_eq_true.1 all ':' colon) (by decide)
    rw [digitsValue?, if_neg noDigit, ite_self]
  unfold readUnsigned?
  split
  · -- The sign in front is not the colon.
    rename_i rest chars
    rw [chars, List.mem_cons] at colon
    dsimp only
    rw [noDigits (colon.resolve_left (by decide)), Option.filter_none]
  · dsimp only
    rw [noDigits colon, Option.filter_none]

/-- Lines with a colon in their value do not state a length, and are refused if they seem to. -/
theorem sameName_of_declaredLength {front back : List Field} {declared : Option Nat}
    (colons : ∀ field ∈ front,
      sameName field.name "content-length" = true → ':' ∈ field.value.toList)
    (declares : declaredLength ⟨front ++ back⟩ = .ok declared) :
    ∀ field ∈ front, sameName field.name "content-length" = false := by
  -- The first line with the name would be the one whose value is read.
  cases first : front.find? fun field => sameName field.name "content-length" with
  | none => simpa [List.find?_eq_none] using first
  | some field =>
    have same : sameName field.name "content-length" = true := by
      simpa using List.find?_some first
    have colon := colons field (List.mem_of_find?_eq_some first) same
    have stated : Headers.get? ⟨front ++ back⟩ "content-length" = some field.value := by
      simp [Headers.get?, first]
    rw [declaredLength, stated] at declares
    simp only [readUnsigned?_of_colon colon] at declares
    split at declares <;> cases declares

/-- The parts of a list that correspond to the parts of another. -/
theorem forall₂_append_split {α β : Type} {R : α → β → Prop} {front back : List α}
    {list : List β} (all : List.Forall₂ R (front ++ back) list) :
    ∃ first second, list = first ++ second ∧ List.Forall₂ R front first ∧
      List.Forall₂ R back second :=
  ⟨list.take front.length, list.drop front.length, (List.take_append_drop _ _).symm,
    (List.forall₂_take_append _ _ _ all.flip).flip, (List.forall₂_drop_append _ _ _ all.flip).flip⟩

variable {response : Response} {keepAlive : Bool}

/-- Where the lines of a response arrive without being refused, only its own length is stated. -/
theorem Response.length_of_arrived {arrived : List Field} {declared : Option Nat}
    (all : List.Forall₂ Field.ArrivesAs (response.lines keepAlive) arrived)
    (declares : declaredLength ⟨arrived⟩ = .ok declared) :
    declared = some response.body.length ∧
      arrived.filter (fun field => sameName field.name "content-length") =
        [⟨"Content-Length", decimal response.body.length⟩] := by
  have lengthName : sameName "Content-Length" "content-length" = true := by decide
  have wordName : sameName "Connection" "content-length" = false := by decide
  rw [Response.lines_eq] at all
  obtain ⟨front, back, rfl, fronts, backs⟩ := forall₂_append_split all
  -- The two lines that frame the response are legal, and arrive as they are.
  have framing : back = [⟨"Content-Length", decimal response.body.length⟩,
      ⟨"Connection", connectionWord keepAlive⟩] := by
    obtain _ | ⟨length, _ | ⟨word, _ | _⟩⟩ := backs
    rw [length.legal (isLegal_length _), word.legal (isLegal_connection keepAlive)]
  subst framing
  -- None of the others is named so, and those that seem to be are refused.
  have own : ∀ field ∈ (⟨"Server", serverName⟩ :: response.headers.kept : List Field),
      sameName field.name "content-length" = false :=
    List.forall_mem_cons.2 ⟨by decide, fun _ member =>
      (Headers.sameName_of_mem_kept member).1⟩
  have others := sameName_of_declaredLength (colon_of_arrived fronts own) declares
  have stated : Headers.get? ⟨front ++ [⟨"Content-Length", decimal response.body.length⟩,
      ⟨"Connection", connectionWord keepAlive⟩]⟩ "content-length" =
        some (decimal response.body.length) := by
    rw [Headers.get?_append, Headers.get?_eq_none others, Option.none_or]
    simp [Headers.get?, lengthName]
  constructor
  · -- The length is read, unless no machine word holds it.
    rw [declaredLength, stated] at declares
    by_cases below : response.body.length < wordLimit
    · simp only [readUnsigned?_decimal, if_pos below] at declares
      split at declares <;> cases declares
      rfl
    · simp only [readUnsigned?_decimal, if_neg below] at declares
      split at declares <;> cases declares
  · have unnamed : front.filter (fun field => sameName field.name "content-length") = [] := by
      simpa using others
    simp [unnamed, lengthName, wordName]

/-- All lines of a response are unbroken if its own ones are. -/
theorem Response.unbroken_lines (unbroken : ∀ field ∈ response.headers.kept, field.IsUnbroken) :
    ∀ field ∈ response.lines keepAlive, field.IsUnbroken := by
  intro field member
  rw [Response.lines_eq, List.mem_append, List.mem_cons, List.mem_cons,
    List.mem_singleton] at member
  rcases member with (rfl | own) | (rfl | rfl)
  · decide
  · exact unbroken field own
  · exact (isLegal_length _).isUnbroken
  · exact (isLegal_connection keepAlive).isUnbroken

/-- The head that is found in the bytes of such a response has one line for each of its lines. -/
theorem Response.head_of_unbroken (least : 100 ≤ response.status.code)
    (most : response.status.code ≤ 999)
    (unbroken : ∀ field ∈ response.headers.kept, field.IsUnbroken) {head : ResponseHead}
    {rest : Bytes}
    (scanned : scanResponseHead (encodeResponse response keepAlive) = .found head rest) :
    ∃ raws, List.Forall₂ Field.FoundAs (response.lines keepAlive) raws ∧
      head = ⟨response.version, response.status.code, raws⟩ ∧ rest = response.body := by
  rw [encodeResponse_eq, scanResponseHead_line least most] at scanned
  obtain ⟨raws, lines, rfl⟩ := Scan.found_of_map scanned
  obtain ⟨rest, all⟩ := scanFields_unbroken (Response.unbroken_lines unbroken) lines
  exact ⟨raws, all, rfl, rest⟩

/-- What such a head announces is the response with the length of its own body. -/
theorem Response.announced_of_found (least : 100 ≤ response.status.code)
    (most : response.status.code ≤ 999) (bodied : response.status.isBodiless = false)
    {raws : List RawField} (found : List.Forall₂ Field.FoundAs (response.lines keepAlive) raws)
    {pair : Response × Option Nat}
    (announced : announcedResponse false ⟨response.version, response.status.code, raws⟩ =
      .ok pair) :
    ∃ fields, pair = (⟨response.version, response.status.read, ⟨fields⟩, []⟩,
        some response.body.length) ∧
      fields.filter (fun field => sameName field.name "content-length") =
        [⟨"Content-Length", decimal response.body.length⟩] := by
  have expected : (false || response.status.read.isBodiless) = false := by
    rw [Bool.false_or, Status.isBodiless_read, bodied]
  simp only [announcedResponse, Status.ofCode_code least most, expected] at announced
  cases collected : collectFields raws with
  | error reason => simp only [collected] at announced; cases announced
  | ok fields =>
    simp only [collected] at announced
    cases declares : declaredLength ⟨fields⟩ with
    | error reason => simp [declares] at announced
    | ok declared =>
      obtain ⟨rfl, own⟩ :=
        Response.length_of_arrived (collectFields_found found collected) declares
      simp only [declares] at announced
      cases announced
      exact ⟨fields, rfl, own⟩

/--
A response whose lines are unbroken is decoded with its status and its body, or not at all.

If it is, it takes all bytes that were written for it.
-/
theorem decodeResponse_unbroken (response : Response) (keepAlive : Bool)
    (least : 100 ≤ response.status.code) (most : response.status.code ≤ 999)
    (bodied : response.status.isBodiless = false)
    (unbroken : ∀ field ∈ response.headers.kept, field.IsUnbroken) :
    (∃ error, decodeResponse false true (encodeResponse response keepAlive) = .failed error) ∨
      ∃ fields, decodeResponse false true (encodeResponse response keepAlive) =
          .message { response with status := response.status.read, headers := ⟨fields⟩ }
            (encodeResponse response keepAlive).length ∧
        fields.filter (fun field => sameName field.name "content-length") =
          [⟨"Content-Length", decimal response.body.length⟩] := by
  rw [decodeResponse_eq]
  cases scanned : scanResponseHead (encodeResponse response keepAlive) with
  | wrong fault => exact .inl ⟨_, rfl⟩
  | more =>
    -- The stream has ended, so that nothing is waited for.
    refine .inl ?_
    dsimp only
    split
    · exact ⟨_, rfl⟩
    · rw [if_pos ⟨rfl, encodeResponse_ne_nil response keepAlive⟩]
      exact ⟨_, rfl⟩
  | found head rest =>
    obtain ⟨raws, found, rfl, rfl⟩ := Response.head_of_unbroken least most unbroken scanned
    dsimp only
    cases announced : announcedResponse false ⟨response.version, response.status.code, raws⟩ with
    | error reason => exact .inl ⟨_, rfl⟩
    | ok pair =>
      obtain ⟨fields, rfl, own⟩ := Response.announced_of_found least most bodied found announced
      dsimp only
      rw [encodeResponse_eq, List.length_append, Nat.add_sub_cancel]
      by_cases size : (responseHeadBytes response (response.lines keepAlive)).length +
          response.body.length < wordLimit
      · -- The message ends where the body does.
        have body := bodyBytes_between (responseHeadBytes response (response.lines keepAlive))
          response.body []
        rw [List.append_nil] at body
        rw [messageEnd_of_lt size]
        dsimp only
        rw [if_pos (Nat.le_refl _), body]
        exact .inr ⟨fields, rfl, own⟩
      · rw [messageEnd, if_neg size]
        exact .inl ⟨_, rfl⟩

end Framing

namespace ResponseWriter

/--
No header text without a line feed changes where a response ends.

Whatever header lines a handler leaves in its sink, what is written when it sends a body is read
from the front as one response, or refused. If it is read, the response takes all that was written
and has the version, the code and the body that were sent, and the only length that is stated in it
is the one that the engine writes. Lines named like those of the engine are not written, so that
they may have any text.
-/
theorem sent_unsplit (writer : ResponseWriter) (status : Status) (body : Bytes)
    (fresh : writer.isSent = false) (least : 100 ≤ status.code) (most : status.code ≤ 999)
    (bodied : status.isBodiless = false)
    (unbroken : ∀ field ∈ writer.headers.fields, sameName field.name "content-length" = false →
      sameName field.name "connection" = false → field.IsUnbroken) :
    ∃ written, (writer.send status body).1.out = writer.out ++ written ∧
      ((∃ error, decodeStream (decodeResponse false true) written = [.failed error]) ∨
        ∃ response,
          decodeStream (decodeResponse false true) written = [.message response written.length] ∧
          response.version = writer.version ∧ response.status.code = status.code ∧
          response.body = body ∧
          response.headers.fields.filter (fun field => sameName field.name "content-length") =
            [⟨"Content-Length", decimal body.length⟩]) := by
  have kept : ∀ field ∈ writer.headers.kept, field.IsUnbroken := by
    intro field member
    obtain ⟨length, connection⟩ := Headers.sameName_of_mem_kept member
    exact unbroken field (List.mem_filter.1 member).1 length connection
  have first : ¬ 1 < writer.sends + 1 := by
    have unsent : ¬ 0 < writer.sends := by simpa [isSent] using fresh
    omega
  let response : Response := { version := writer.version, status, headers := writer.headers, body }
  let keepAlive := writer.keepAlive && !writer.headers.wantsClose
  refine ⟨encodeResponse response keepAlive, by simp [send, first, response, keepAlive], ?_⟩
  rcases decodeResponse_unbroken response keepAlive least most bodied kept with
    ⟨error, decoded⟩ | ⟨fields, decoded, own⟩
  · refine .inl ⟨error, ?_⟩
    rw [decodeStream, decoded]
  · refine .inr ⟨{ response with status := status.read, headers := ⟨fields⟩ }, ?_, rfl,
      status.code_read, rfl, own⟩
    -- Nothing is left behind the response.
    have positive := List.length_pos_iff.2 (encodeResponse_ne_nil response keepAlive)
    rw [decodeStream_of_message decoded positive, List.drop_length, List.isEmpty_nil, if_pos rfl]

/-- A sink with names and values that seem to state lengths, and breaks where they are left out. -/
def crowdedSink : ResponseWriter where
  version := .http11
  keepAlive := true
  headers := ⟨[⟨"X: Content-Length", "0"⟩, ⟨"content-length", "9\r\n\r\n"⟩,
    ⟨"Y", " Content-Length: 0\t"⟩, ⟨"connection", "close\nZ: "⟩]⟩
  out := []

/-- Such a response is read as one, with its own two bytes as the body. -/
theorem sent_unsplit_crowded :
    crowdedSink.isSent = false ∧
      (∀ field ∈ crowdedSink.headers.fields, sameName field.name "content-length" = false →
        sameName field.name "connection" = false → field.IsUnbroken) ∧
      (decodeResponse false true (crowdedSink.send .ok [0x0D, 0x0A]).1.out).outline Response.body =
        .message 2 131 ∧
      ∃ written, (crowdedSink.send .ok [0x0D, 0x0A]).1.out = crowdedSink.out ++ written ∧
        ((∃ error, decodeStream (decodeResponse false true) written = [.failed error]) ∨
          ∃ response,
            decodeStream (decodeResponse false true) written = [.message response written.length] ∧
            response.version = .http11 ∧ response.status.code = 200 ∧
            response.body = [0x0D, 0x0A] ∧
            response.headers.fields.filter (fun field => sameName field.name "content-length") =
              [⟨"Content-Length", decimal 2⟩]) := by
  have unbroken : ∀ field ∈ crowdedSink.headers.fields,
      sameName field.name "content-length" = false → sameName field.name "connection" = false →
        field.IsUnbroken := by
    decide +kernel
  exact ⟨by decide, unbroken, by decide +kernel,
    sent_unsplit crowdedSink .ok [0x0D, 0x0A] (by decide) (by decide) (by decide) (by decide)
      unbroken⟩

/-- A sink with one header line. -/
def sinkWith (name value : String) : ResponseWriter :=
  ({ version := .http11, keepAlive := true, out := [] } : ResponseWriter).addHeader name value

/-- A value that ends the head, brings another body and begins another response. -/
def splittingValue : String :=
  "a\r\nContent-Length: 6\r\n\r\nforgedHTTP/1.1 404 Not Found\r\nY: b"

/-- A name that brings a length of its own in front of the one that the engine writes. -/
def splittingName : String := "X: a\nContent-Length: 0\nY"

/-- A body that is a response itself. -/
def innerResponse : Bytes := utf8Bytes "HTTP/1.1 404 Not Found\r\nContent-Length: 0\r\n\r\n"

/--
Header text with a line feed splits a response, be it in a value or in a name.

In both cases one sending of a body is read as two responses, and neither of the first ones has the
body that was sent.
-/
theorem sent_split :
    (sinkWith "X" splittingValue).isSent = false ∧ (sinkWith splittingName "b").isSent = false ∧
    sameName "X" "transfer-encoding" = false ∧
    sameName splittingName "transfer-encoding" = false ∧ Status.ok.isBodiless = false ∧
    decodeStream (decodeResponse false true)
        ((sinkWith "X" splittingValue).send .ok (utf8Bytes "mine")).1.out =
      [.message ⟨.http11, .ok, ⟨[⟨"Server", "ferry/0.0.1"⟩, ⟨"X", "a"⟩, ⟨"Content-Length", "6"⟩]⟩,
          utf8Bytes "forged"⟩ 71,
        .message ⟨.http11, .notFound, ⟨[⟨"Y", "b"⟩, ⟨"Content-Length", "4"⟩,
          ⟨"Connection", "keep-alive"⟩]⟩, utf8Bytes "mine"⟩ 79] ∧
    decodeStream (decodeResponse false true)
        ((sinkWith splittingName "b").send .ok innerResponse).1.out =
      [.message ⟨.http11, .ok, ⟨[⟨"Server", "ferry/0.0.1"⟩, ⟨"X", "a"⟩, ⟨"Content-Length", "0"⟩,
          ⟨"Y", "b"⟩, ⟨"Content-Length", "45"⟩, ⟨"Connection", "keep-alive"⟩]⟩, []⟩ 113,
        .message ⟨.http11, .notFound, ⟨[⟨"Content-Length", "0"⟩]⟩, []⟩ 45] := by
  refine ⟨by decide, by decide, by decide +kernel, by decide +kernel, by decide, ?_, ?_⟩
  · exact decodeStream_pair (by decide +kernel) (by decide +kernel) (by decide) (by decide +kernel)
  · exact decodeStream_pair (by decide +kernel) (by decide +kernel) (by decide) (by decide +kernel)

end ResponseWriter

end HttpEngine
