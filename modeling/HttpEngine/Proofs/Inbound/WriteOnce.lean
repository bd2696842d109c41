import HttpEngine.Proofs.Inbound.Answer

/-!
A sink is written once. The first sending of a handler writes all that is ever written, from the
headers that were set until then, and whatever the handler does behind it is not seen.
-/

namespace HttpEngine

/-- The headers after some actions of a handler. -/
def headersAfter (headers : Headers) : List WriterAction → Headers
  | [] => headers
  | .add name value :: rest => headersAfter (headers.append name value) rest
  | .insert name value :: rest => headersAfter (headers.insert name value) rest
  | .replace headers :: rest => headersAfter headers rest
  | .send _ _ :: rest => headersAfter headers rest

namespace ResponseWriter

variable {writer : ResponseWriter}

/-- A sink as a handler gets it, over what is to be written already. -/
def sinkOver (version : Version) (keepAlive : Bool) (out : Bytes) : ResponseWriter :=
  { version, keepAlive, out }

/-- The actions of a handler can be done in two parts. -/
theorem performAll_append (writer : ResponseWriter) (before after : List WriterAction) :
    writer.performAll (before ++ after) = (writer.performAll before).performAll after :=
  List.foldl_append

/-- The first sending writes the response, and takes the connection away if a header says so. -/
theorem send_first (fresh : writer.sends = 0) (status : Status) (body : Bytes) :
    let keepAlive := writer.keepAlive && !writer.headers.wantsClose
    writer.send status body =
      ({ writer with
          sends := 1
          keepAlive
          out := writer.out ++ encodeResponse
            { version := writer.version, status, headers := writer.headers, body } keepAlive },
        .ok ()) := by
  simp [send, fresh]

/-- Another sending is refused and counted. -/
theorem send_again (sent : writer.sends ≠ 0) (status : Status) (body : Bytes) :
    writer.send status body =
      ({ writer with sends := writer.sends + 1 }, .error .doubleSend) := by
  have second : 1 < writer.sends + 1 := by omega
  simp [send, second]

/-- As long as nothing is sent, only the headers change. -/
theorem performAll_of_unsent (writer : ResponseWriter) {actions : List WriterAction}
    (unsent : sendings actions = 0) :
    writer.performAll actions =
      { writer with headers := headersAfter writer.headers actions } := by
  induction actions generalizing writer with
  | nil => rfl
  | cons action rest ih =>
    -- The headers are what changes on the way, so they stay arbitrary.
    rw [sendings_cons] at unsent
    have later : sendings rest = 0 := by omega
    cases action with
    | add name value => exact ih (writer.addHeader name value) later
    | insert name value => exact ih (writer.insertHeader name value) later
    | replace headers => exact ih (writer.setHeaders headers) later
    | send status body => simp [WriterAction.isSending] at unsent

/-- Every sending is counted, also one that is refused. -/
theorem sends_performAll (writer : ResponseWriter) (actions : List WriterAction) :
    (writer.performAll actions).sends = writer.sends + sendings actions := by
  induction actions generalizing writer with
  | nil => rfl
  | cons action rest ih =>
    have counted : (writer.perform action).sends =
        writer.sends + if action.isSending then 1 else 0 := by
      cases action with
      | send status body =>
        by_cases fresh : writer.sends = 0
        · simp [perform, send_first fresh, fresh, WriterAction.isSending]
        · simp [perform, send_again fresh, WriterAction.isSending]
      | _ => rfl
    -- The count of the first action comes out of the rest's.
    rw [sendings_cons, ← Nat.add_assoc, ← counted]
    exact ih (writer.perform action)

/-- The end completes the output of a sink by a failure if nothing was sent. -/
theorem finish_of_unsent (unsent : writer.sends = 0) :
    writer.finish =
      (.violated, writer.out ++ encodeResponse (failureResponse writer.version) false) := by
  simp [finish, unsent]

/-- The end leaves what was sent as it is, and reports it if it was one response. -/
theorem finish_of_sent (sent : writer.sends ≠ 0) :
    writer.finish =
      (if writer.sends = 1 then .sent writer.keepAlive else .violated, writer.out) := by
  unfold finish
  split
  · contradiction
  · next once => rw [if_pos once]
  · next several => rw [if_neg several]

/--
A sink is written once.

As long as nothing was sent, the output is what it was. The first sending is accepted. It puts its
response, with the headers that were set until then, behind the output, where it stays as it is
whatever comes after it, and so does the decision on the connection, which is the one word on it
among the written header lines. Every later sending is refused, and changes neither. The end puts an
empty failure that closes the connection behind the output exactly if nothing was sent, and reports
a response exactly if there was one sending, with the decision that was written.
-/
theorem sink_written_once (version : Version) (keepAlive : Bool) (out : Bytes) :
    let sink := (sinkOver version keepAlive out).performAll
    (∀ before, sendings before = 0 → (sink before).out = out ∧
      ∀ status body,
        let headers := headersAfter .empty before
        let answer : Answer :=
          ⟨{ version, status, headers, body }, keepAlive && !headers.wantsClose⟩
        ((sink before).send status body).2 = .ok () ∧
        answer.connectionWords = [connectionWord answer.keepAlive] ∧
        ∀ after,
          let later := sink (before ++ .send status body :: after)
          later.out = out ++ answer.bytes ∧ later.keepAlive = answer.keepAlive ∧
          later.finish =
            (if sendings after = 0 then .sent answer.keepAlive else .violated,
              out ++ answer.bytes)) ∧
    (∀ before, sendings before ≠ 0 → ∀ status body,
      let sent := (sink before).send status body
      sent.2 = .error .doubleSend ∧ sent.1.out = (sink before).out ∧
        sent.1.keepAlive = (sink before).keepAlive) ∧
    ∀ actions,
      (sink actions).finish.2 = (sink actions).out ++
        (if sendings actions = 0 then
          encodeResponse { version, status := .internalServerError } false else []) ∧
      ((∃ stays, (sink actions).finish.1 = .sent stays) ↔ sendings actions = 1) := by
  intro sink
  -- A sink over bytes that are there already has sent nothing itself.
  have count : ∀ actions, (sink actions).sends = sendings actions := fun actions =>
    (sends_performAll _ actions).trans (Nat.zero_add _)
  have quiet : ∀ actions, sendings actions = 0 → sink actions =
      { sinkOver version keepAlive out with headers := headersAfter .empty actions } :=
    fun actions unsent => performAll_of_unsent _ unsent
  refine ⟨fun before unsent => ?_, fun before sent status body => ?_, fun actions => ?_⟩
  · -- Before the first sending there are only headers, and after it nothing is written.
    refine ⟨by rw [quiet before unsent]; rfl, fun status body => ?_⟩
    intro headers answer
    have first : (sink before).send status body =
        ({ version, headers, sends := 1, keepAlive := answer.keepAlive
           out := out ++ answer.bytes }, .ok ()) := by
      rw [quiet before unsent]
      exact send_first rfl status body
    refine ⟨by rw [first], answer.connectionWords_eq, fun after => ?_⟩
    -- What is behind the first sending runs on the writer that this one left.
    intro later
    have parts : later = ((sink before).send status body).1.performAll after :=
      performAll_append _ before _
    obtain ⟨same, kept, sends⟩ := performAll_of_sent ((sink before).send status body).1
      (by rw [first]; exact Nat.one_pos) after
    rw [← parts, first] at same kept sends
    dsimp only at same kept sends
    refine ⟨same, kept, ?_⟩
    -- The completion counts the sendings from the first one on.
    have once : (later.sends = 1) = (sendings after = 0) := propext (by omega)
    rw [finish_of_sent (by omega), same, kept]
    simp only [once]
  · -- A refused sending gives the writer back as it was.
    intro refused
    rw [show refused = _ from send_again (by rwa [count]) status body]
    exact ⟨rfl, rfl, rfl⟩
  · -- The end depends on the number of sendings alone.
    by_cases unsent : sendings actions = 0
    · rw [finish_of_unsent ((count actions).trans unsent), if_pos unsent, quiet actions unsent,
        unsent]
      exact ⟨rfl, by simp⟩
    · rw [finish_of_sent (by rwa [count]), if_neg unsent, count]
      exact ⟨(List.append_nil _).symm, by split <;> simp_all⟩

/--
A handler sets a header that closes the connection, sends, sets another header and sends again: the
second sending is refused, and of the two headers the response has the first.
-/
theorem sink_written_once_twice :
    let before : List WriterAction := [.add "Connection" "Close", .add "A" "b"]
    let after : List WriterAction := [.replace .empty, .add "C" "d", .send .notFound []]
    let sink := (sinkOver .http11 true (utf8Bytes "earlier")).performAll
    ((sink before).send .ok (utf8Bytes "x")).2 = .ok () ∧
    (sink (before ++ .send .ok (utf8Bytes "x") :: after)).finish =
      (.violated, utf8Bytes ("earlierHTTP/1.1 200 OK\r\nServer: ferry/0.0.1\r\nA: b\r\n"
        ++ "Content-Length: 1\r\nConnection: close\r\n\r\nx")) ∧
    ((sink (before ++ [.send .ok (utf8Bytes "x")])).send .notFound []).2 =
      .error .doubleSend := by
  intro before after sink
  have once := sink_written_once .http11 true (utf8Bytes "earlier")
  obtain ⟨accepted, -, written⟩ := (once.1 before (by decide)).2 .ok (utf8Bytes "x")
  refine ⟨accepted, ((written after).2.2).trans (by decide +kernel), ?_⟩
  exact (once.2.1 (before ++ [.send .ok (utf8Bytes "x")]) (by decide) .notFound []).1

end ResponseWriter

end HttpEngine
