import HttpEngine.Proofs.Wire.Accepted
import HttpEngine.Proofs.Wire.Image
import HttpEngine.Proofs.Wire.RequestSequence
import HttpEngine.Wire.Stream

/-!
Messages that were decoded are passed on without a loss. However they were spelled, what is written
for them is read as the same message, and a request that has been passed on once is passed on with
the same bytes from then on.
-/

namespace HttpEngine

section Requests

variable {maxPayload : Nat} {buffer : Bytes} {request : Request} {consumed : Nat} {host : String}
  {keepAlive : Bool}

/-- A request that was decoded may be written, if there is room for the lines that are added. -/
theorem Request.isWritable_of_decoded
    (decoded : decodeRequest maxPayload buffer = .message request consumed) (legal : IsValue host)
    (few : (addedFields request host keepAlive ++ request.headers.fields).length ≤ maxHeaders) :
    request.IsWritable host keepAlive := by
  -- All that a request must fulfil to be written is known from its reading.
  obtain ⟨head, rest, scanned, read, -, -⟩ := Request.exists_readFrom decoded
  obtain ⟨declared, declares, length⟩ := read.length
  obtain ⟨plain, stated⟩ := declaredLength_eq_ok_iff.1 declares
  obtain ⟨target, sound⟩ := RequestHead.isSound scanned
  refine ⟨by rwa [read.target], isLegal_of_collectFields sound read.fields, fun _ => legal, ?_,
    plain, few⟩
  -- The length that is stated is the one that was declared.
  intro value states
  rw [Option.mem_def.1 states] at stated
  cases declared with
  | none => cases stated
  | some length => simpa [← length] using stated

/-- A request that was decoded has a body only if it states its length. -/
theorem Request.body_of_unstated
    (decoded : decodeRequest maxPayload buffer = .message request consumed)
    (unstated : request.headers.contains "content-length" = false) : request.body = [] := by
  obtain ⟨head, rest, -, read, -, -⟩ := Request.exists_readFrom decoded
  obtain ⟨declared, declares, length⟩ := read.length
  have missing : request.headers.get? "content-length" = none := by
    simpa [Headers.contains] using unstated
  have stated := (declaredLength_eq_ok_iff.1 declares).2
  -- No length is stated, so that the one that was declared is none.
  rw [missing] at stated
  cases declared with
  | none => exact List.eq_nil_of_length_eq_zero length.symm
  | some length => cases stated

/-- A name is among some fields, or among the others. -/
theorem Headers.contains_append (front back : List Field) (name : String) :
    Headers.contains ⟨front ++ back⟩ name =
      (Headers.contains ⟨front⟩ name || Headers.contains ⟨back⟩ name) := by
  rw [Headers.contains, Headers.get?_append, Option.isSome_or]
  rfl

/-- The host is named after the lines were added. -/
theorem contains_host_delivered :
    (request.delivered host keepAlive).headers.contains "host" = true := by
  have hostName : sameName "Host" "host" = true := by decide
  rw [Request.delivered, Headers.contains_append, Headers.contains, get?_addedFields]
  cases own : request.headers.contains "host" with
  | true => exact Bool.or_eq_true_iff.2 (.inr rfl)
  | false => simp [hostName]

/-- It is said what becomes of the connection after the lines were added. -/
theorem contains_connection_delivered :
    (request.delivered host keepAlive).headers.contains "connection" = true := by
  rw [Request.delivered, Headers.contains_append, Headers.contains, get?_addedFields_connection]
  cases own : request.headers.contains "connection" with
  | true => exact Bool.or_eq_true_iff.2 (.inr rfl)
  | false => rfl

/-- A length is stated after the lines were added, if it was before or if one is needed. -/
theorem contains_length_delivered :
    (request.delivered host keepAlive).headers.contains "content-length" =
      (request.headers.contains "content-length" || !request.body.isEmpty
        || request.method.announcesBody) := by
  rw [Request.delivered, Headers.contains_append, Headers.contains, get?_addedFields_length]
  show (_ || request.headers.contains "content-length") = _
  cases request.headers.contains "content-length" <;>
    cases request.body.isEmpty <;> cases request.method.announcesBody <;> rfl

/-- A request with all the lines that it needs gets no others, for whatever host. -/
theorem addedFields_delivered (other : String) (flag : Bool) :
    addedFields (request.delivered host keepAlive) other flag = [] := by
  -- What would be added is there, once it has been added.
  have unneeded : (!(request.delivered host keepAlive).headers.contains "content-length"
      && (!(request.delivered host keepAlive).body.isEmpty
        || (request.delivered host keepAlive).method.announcesBody)) = false := by
    rw [contains_length_delivered]
    show (_ && (!request.body.isEmpty || request.method.announcesBody)) = false
    cases request.headers.contains "content-length" <;>
      cases request.body.isEmpty <;> cases request.method.announcesBody <;> rfl
  simp only [addedFields, contains_host_delivered, contains_connection_delivered, unneeded]
  rfl

/-- The version and the first line about the connection decide what becomes of it. -/
theorem Request.keepAlive_congr {left right : Request} (version : left.version = right.version)
    (word : left.headers.get? "connection" = right.headers.get? "connection") :
    left.keepAlive = right.keepAlive := by
  unfold Request.keepAlive Headers.wantsClose Headers.wantsKeepAlive
  rw [version, word]

/-- What was said about the connection is said in what is read again. -/
theorem keepAlive_delivered :
    (request.delivered host request.keepAlive).keepAlive = request.keepAlive := by
  cases own : request.headers.contains "connection" with
  | false =>
    -- The word on the connection was added, and says what the request says.
    let outgoing : Outgoing := ⟨request, host, request.keepAlive⟩
    exact (Outgoing.keepAlive_arrived own : outgoing.arrived.keepAlive = outgoing.keepAlive)
  | true =>
    -- Nothing is added about it, so that the first line about it is the same.
    refine Request.keepAlive_congr rfl ?_
    rw [Request.delivered, Headers.get?_append, get?_addedFields_connection, own, if_pos rfl,
      Option.none_or]

/-- A request with all the lines that it needs is written as it was. -/
theorem encodeRequest_delivered (other : String) (flag : Bool) :
    encodeRequest (request.delivered host keepAlive) other flag =
      encodeRequest request host keepAlive := by
  have fields : ((request.delivered host keepAlive).delivered other flag).headers.fields =
      (request.delivered host keepAlive).headers.fields := by
    rw [Request.delivered, addedFields_delivered]
    rfl
  rw [encodeRequest_eq, encodeRequest_eq, fields]
  rfl

/--
A request that was decoded is passed on as it is.

However it was spelled, what is written for it is read as a request with its method, target,
version and body, which asks for the same of the connection, and takes all that was written, as long
as a machine word counts it. Its header lines are all there in their order, behind the lines that it
lacked: the host, a length of zero if its method calls for one, and what becomes of the connection.
From then on nothing is added: the request that was read is written with the same bytes, for every
host.
-/
theorem request_passed_on
    (decoded : decodeRequest maxPayload buffer = .message request consumed) (legal : IsValue host)
    (few : (addedFields request host request.keepAlive ++ request.headers.fields).length ≤ 64)
    (size : (passOnRequest request host).length < wordLimit) :
    ∃ again,
      decodeRequest noPayloadLimit (passOnRequest request host) =
        .message again (passOnRequest request host).length ∧
      again.method = request.method ∧ again.target = request.target ∧
      again.version = request.version ∧ again.body = request.body ∧
      again.keepAlive = request.keepAlive ∧
      again.headers.fields =
        (if request.headers.contains "host" then [] else [⟨"Host", host⟩])
          ++ (if request.headers.contains "content-length" = false ∧
                request.method ∈ [.post, .put, .patch] then [⟨"Content-Length", "0"⟩] else [])
          ++ (if request.headers.contains "connection" then []
              else [⟨"Connection", if request.keepAlive then "keep-alive" else "close"⟩])
          ++ request.headers.fields ∧
      passOnRequest again host = passOnRequest request host ∧
      ∀ other flag, encodeRequest again other flag = passOnRequest request host := by
  have bare := Request.body_of_unstated decoded
  have writable : request.IsWritable host request.keepAlive :=
    Request.isWritable_of_decoded decoded legal few
  have below : request.body.length ≤ noPayloadLimit := by
    -- The body is a part of what is written.
    rw [passOnRequest, encodeRequest_eq, List.length_append] at size
    rw [noPayloadLimit]
    omega
  refine ⟨request.delivered host request.keepAlive, ?_, rfl, rfl, rfl, rfl, keepAlive_delivered, ?_,
    encodeRequest_delivered _ _, encodeRequest_delivered⟩
  · -- What is written can be read back, as long as it is no longer than a word can count.
    have read := writable.decode below size []
    rwa [List.append_nil] at read
  · -- Without a stated length there is no body, so that the length that is added is zero.
    have lengths : (if !request.headers.contains "content-length"
          && (!request.body.isEmpty || request.method.announcesBody) then
        [(⟨"Content-Length", decimal request.body.length⟩ : Field)] else []) =
        if request.headers.contains "content-length" = false ∧
          request.method ∈ [.post, .put, .patch] then [⟨"Content-Length", "0"⟩] else [] := by
      have calls : request.method.announcesBody = decide (request.method ∈ [.post, .put, .patch]) :=
        Bool.eq_iff_iff.2 (Method.announcesBody_iff.trans decide_eq_true_iff.symm)
      cases unstated : request.headers.contains "content-length" with
      | true => simp
      | false =>
        rw [bare unstated, calls]
        simp only [Bool.not_false, Bool.true_and, List.isEmpty_nil, Bool.not_true, Bool.false_or,
          true_and, decide_eq_true_eq]
        rfl
    simp only [Request.delivered, addedFields, lengths, connectionWord]

/--
A request with two lengths, a plus sign in the first of them, is passed on behind its empty line, and
one without any gets a length of zero, for its method.
-/
theorem request_passed_on_two :
    let measured := utf8Bytes ("\r\n\nPATCH /caf\u00e9 HTTP/1.0\ncontent-length: +02\r\n"
      ++ "X:\t\u00a0\u00fc\nContent-Length:x\n\r\nok")
    let silent := utf8Bytes "PUT * HTTP/1.1\r\nHOST:\r\nConnection: CLOSE\r\n\r\n"
    (∃ request again, decodeRequest 2 measured = .message request measured.length ∧
      passOnRequest request "a.example" = utf8Bytes
        ("PATCH /caf\u00e9 HTTP/1.0\r\nHost: a.example\r\nConnection: close\r\n"
          ++ "content-length: +02\r\nX: \u00fc\r\nContent-Length: x\r\n\r\nok") ∧
      decodeRequest noPayloadLimit (passOnRequest request "a.example") =
        .message again (passOnRequest request "a.example").length ∧
      again.body = utf8Bytes "ok" ∧ again.keepAlive = false ∧
      passOnRequest again "a.example" = passOnRequest request "a.example") ∧
    ∃ request again, decodeRequest 0 silent = .message request silent.length ∧
      decodeRequest noPayloadLimit (passOnRequest request "") =
        .message again (passOnRequest request "").length ∧
      again.headers.fields = [⟨"Content-Length", "0"⟩, ⟨"HOST", ""⟩, ⟨"Connection", "CLOSE"⟩] ∧
      ∀ other flag, encodeRequest again other flag = passOnRequest request "" := by
  intro measured silent
  have first : decodeRequest 2 measured = .message ⟨.patch, "/caf\u00e9", .http10,
      ⟨[⟨"content-length", "+02"⟩, ⟨"X", "\u00fc"⟩, ⟨"Content-Length", "x"⟩]⟩, utf8Bytes "ok"⟩
      measured.length := by decide +kernel
  have second : decodeRequest 0 silent = .message ⟨.put, "*", .http11,
      ⟨[⟨"HOST", ""⟩, ⟨"Connection", "CLOSE"⟩]⟩, []⟩ silent.length := by decide +kernel
  have named : IsValue "a.example" := by decide +kernel
  have unnamed : IsValue "" := by decide +kernel
  -- The first one has a body and asks for its end, and the second one has no host to name.
  obtain ⟨again, read, -, -, -, body, keeps, -, fixed, -⟩ :=
    request_passed_on first named (by decide +kernel) (by decide +kernel)
  obtain ⟨other, reread, -, -, -, -, -, fields, -, same⟩ :=
    request_passed_on second unnamed (by decide +kernel) (by decide +kernel)
  refine ⟨⟨_, again, first, by decide +kernel, read, body, ?_, fixed⟩,
    _, other, second, reread, ?_, same⟩
  · rw [keeps]
    decide +kernel
  · rw [fields]
    decide +kernel

end Requests

section Responses

variable {toHead ended : Bool} {buffer : Bytes} {response : Response} {consumed : Nat}

/-- A response that was decoded may be written, if there is room for the engine's own lines. -/
theorem Response.isWritable_of_decoded
    (decoded : decodeResponse toHead ended buffer = .message response consumed)
    (plain : ∀ coding ∈ response.headers.get? "transfer-encoding",
      sameName coding "identity" = true)
    (few : response.headers.kept.length ≤ 61) : response.IsWritable false := by
  -- The reading knows the status, the fields and the length.
  obtain ⟨head, rest, bare, declared, scanned, -, read, -, -, ends⟩ :=
    Response.exists_readFrom decoded
  obtain ⟨least, most, -⟩ := Status.three_of_ofCode read.status
  have legal := isLegal_of_collectFields (ResponseHead.isSound scanned) read.fields
  refine ⟨least, most, fun field member => legal field (List.mem_filter.1 member).1, plain, few, ?_⟩
  -- Where there can be no body, none was read.
  intro bodiless
  have declares := read.declares
  rw [Bool.false_or] at bodiless
  rw [bodiless, Bool.or_true, if_pos rfl] at declares
  cases declares
  exact List.eq_nil_of_length_eq_zero ends

/--
A response that was decoded is passed on as it is.

Whether its length was stated, or there could be no body, or only the end of the stream ended it,
what is written for it is read as a response with its version, status and body, which says the same
of the connection, and takes all that was written, as long as a machine word counts it. The engine's
name stands in front of its header lines, of which those that framed it are left out, and the length
of its body and what becomes of the connection stand behind them.
-/
theorem response_passed_on
    (decoded : decodeResponse toHead ended buffer = .message response consumed)
    (plain : ∀ coding ∈ response.headers.get? "transfer-encoding",
      sameName coding "identity" = true)
    (few : (response.headers.fields.filter fun field =>
      !sameName field.name "content-length" && !sameName field.name "connection").length ≤ 61)
    (size : (passOnResponse response).length < wordLimit) :
    ∃ again,
      decodeResponse false false (passOnResponse response) =
        .message again (passOnResponse response).length ∧
      again.version = response.version ∧ again.status = response.status ∧
      again.body = response.body ∧ again.keepAlive = response.keepAlive ∧
      again.headers.fields =
        ⟨"Server", "ferry/0.0.1"⟩
          :: (response.headers.fields.filter fun field =>
            !sameName field.name "content-length" && !sameName field.name "connection")
          ++ [⟨"Content-Length", decimal response.body.length⟩,
            ⟨"Connection", if response.keepAlive then "keep-alive" else "close"⟩] := by
  obtain ⟨head, rest, bare, declared, -, -, read, -⟩ := Response.exists_readFrom decoded
  have writable : response.IsWritable false := Response.isWritable_of_decoded decoded plain few
  refine ⟨response.delivered response.keepAlive, ?_, rfl,
    (Status.three_of_ofCode read.status).2.2, rfl, keepAlive_lines response _ _,
    response.lines_eq _⟩
  -- Nothing stands behind what is written.
  have again := writable.decode size false []
  rwa [List.append_nil] at again

/--
A response that the end of the stream ends is passed on with a length, and one to a request for a
head without its own.
-/
theorem response_passed_on_two :
    let streamed := utf8Bytes "HTTP/1.0 299\nConnection: Keep-Alive\nX:\n\nok"
    let unsent := utf8Bytes ("\nHTTP/1.1 200 \r\nContent-Length: 9\r\n"
      ++ "Transfer-Encoding: Identity\r\nContent-Length: y\r\n\r\n")
    (∃ response again, decodeResponse false true streamed = .message response streamed.length ∧
      passOnResponse response = utf8Bytes
        ("HTTP/1.0 299 \r\nServer: ferry/0.0.1\r\nX: \r\nContent-Length: 2\r\n"
          ++ "Connection: keep-alive\r\n\r\nok") ∧
      decodeResponse false false (passOnResponse response) =
        .message again (passOnResponse response).length ∧
      again.status = .other 299 ∧ again.body = utf8Bytes "ok" ∧ again.keepAlive = true) ∧
    ∃ response again, decodeResponse true false unsent = .message response unsent.length ∧
      decodeResponse false false (passOnResponse response) =
        .message again (passOnResponse response).length ∧
      again.headers.fields = [⟨"Server", "ferry/0.0.1"⟩, ⟨"Transfer-Encoding", "Identity"⟩,
        ⟨"Content-Length", "0"⟩, ⟨"Connection", "keep-alive"⟩] := by
  intro streamed unsent
  have first : decodeResponse false true streamed = .message ⟨.http10, .other 299,
      ⟨[⟨"Connection", "Keep-Alive"⟩, ⟨"X", ""⟩]⟩, utf8Bytes "ok"⟩ streamed.length := by
    decide +kernel
  have second : decodeResponse true false unsent = .message ⟨.http11, .ok,
      ⟨[⟨"Content-Length", "9"⟩, ⟨"Transfer-Encoding", "Identity"⟩, ⟨"Content-Length", "y"⟩]⟩, []⟩
      unsent.length := by decide +kernel
  obtain ⟨again, read, -, status, body, keeps, -⟩ :=
    response_passed_on first (by decide +kernel) (by decide +kernel) (by decide +kernel)
  obtain ⟨other, reread, -, -, -, -, fields⟩ :=
    response_passed_on second (by decide +kernel) (by decide +kernel) (by decide +kernel)
  refine ⟨⟨_, again, first, by decide +kernel, read, status, body, ?_⟩,
    _, other, second, reread, ?_⟩
  · rw [keeps]
    decide +kernel
  · rw [fields]
    decide +kernel

end Responses

end HttpEngine
