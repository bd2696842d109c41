import HttpEngine.Proofs.Inbound.Answer
import HttpEngine.Proofs.Wire.RoundTrip
import HttpEngine.Proofs.Wire.Sequence

/-!
Answers that are written one behind the other are read one after the other: as many as there were,
in the same order, each of them with its own header lines between those of the engine, and with the
word on the connection that it was written with.
-/

namespace HttpEngine

namespace Answer

variable {answer : Answer}

/-- The response as it is read again. -/
def arrived (answer : Answer) : Response := answer.response.delivered answer.keepAlive

/-- An answer that can be written, and read again where a body is expected. -/
structure Fits (answer : Answer) : Prop where
  writable : answer.response.IsWritable false
  /-- A machine word counts the bytes. -/
  size : answer.bytes.length < wordLimit

instance (answer : Answer) : Decidable answer.Fits :=
  decidable_of_iff (answer.response.IsWritable false ∧ answer.bytes.length < wordLimit)
    ⟨fun ⟨writable, size⟩ => ⟨writable, size⟩, fun fits => ⟨fits.writable, fits.size⟩⟩

/-- An answer is read at the front, whatever stands behind it. -/
theorem Fits.decode (fits : answer.Fits) (rest : Bytes) :
    decodeResponse false false (answer.bytes ++ rest) =
      .message answer.arrived answer.bytes.length :=
  fits.writable.decode fits.size false rest

end Answer

/--
Answers that are written one behind the other come through.

As many responses are read as were written, in the same order, and each takes the bytes that were
written for it, so that nothing is left. It has its version, code and body. Its header lines are the
name of the engine, those of its own that say nothing about length or connection, in their order,
and then its length and the word on the connection, which is the one that it was written with,
whatever its own lines said.
-/
theorem responses_come_through (sent : List Answer) (fits : ∀ answer ∈ sent, answer.Fits) :
    decodeStream (decodeResponse false false) (sent.flatMap Answer.bytes) =
      (if sent.isEmpty then [.incomplete]
        else sent.map fun answer => .message answer.arrived answer.bytes.length) ∧
    ∀ answer ∈ sent,
      let response := answer.response
      let arrived := answer.arrived
      arrived.version = response.version ∧ arrived.status.code = response.status.code ∧
      arrived.body = response.body ∧
      arrived.headers.fields =
        [⟨"Server", "ferry/0.0.1"⟩]
          ++ response.headers.fields.filter (fun field =>
            !sameName field.name "content-length" && !sameName field.name "connection")
          ++ [⟨"Content-Length", decimal response.body.length⟩,
              ⟨"Connection", if answer.keepAlive then "keep-alive" else "close"⟩] ∧
      arrived.keepAlive = answer.keepAlive := by
  constructor
  · refine decodeStream_flatMap sent (fun answer member => (fits answer member).decode)
      (fun answer => encodeResponse_ne_nil answer.response answer.keepAlive) ?_
    -- Where nothing is, a response may still come.
    simp [decodeResponse, scanResponseHead_nil]
  · intro answer _
    exact ⟨rfl, answer.response.status.code_read, rfl, rfl,
      keepAlive_lines answer.response answer.keepAlive answer.response.status.read⟩

/--
Three answers: one of the older version that stays open, one with a code that is not registered and
lines that would frame it otherwise, and one without a body.
-/
def threeAnswers : List Answer :=
  [⟨{ version := .http10, status := .ok, headers := ⟨[⟨"Content-Type", "text/plain"⟩]⟩
      body := utf8Bytes "HTTP/1.1 200 OK\r\n\r\n" }, true⟩,
    ⟨{ status := .other 299
       headers := ⟨[⟨"content-length", "0"⟩, ⟨"A", ""⟩, ⟨"CONNECTION", "close"⟩,
        ⟨"Transfer-Encoding", "Identity"⟩]⟩
       body := [0x00, 0xFF] }, true⟩,
    ⟨{ status := .other 204, headers := ⟨[⟨"Connection", "keep-alive"⟩]⟩ }, false⟩]

/-- Three answers come through, the first of which has a body that looks like a response. -/
theorem responses_come_through_three :
    (∀ answer ∈ threeAnswers, answer.Fits) ∧
      decodeStream (decodeResponse false false) (threeAnswers.flatMap Answer.bytes) =
        threeAnswers.map (fun answer => .message answer.arrived answer.bytes.length) ∧
      threeAnswers.map (fun answer => (answer.arrived.status, answer.arrived.keepAlive)) =
        [(.ok, true), (.other 299, true), (.noContent, false)] := by
  have fits : ∀ answer ∈ threeAnswers, answer.Fits := by decide +kernel
  exact ⟨fits, (responses_come_through threeAnswers fits).1, by decide +kernel⟩

end HttpEngine
