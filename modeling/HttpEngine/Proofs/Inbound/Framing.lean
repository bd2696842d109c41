import HttpEngine.Inbound.Endpoint
import HttpEngine.Proofs.Inbound.Transcript
import HttpEngine.Proofs.Wire.RoundTrip

/-!
What a session has written is read again by a client: one response for each call, and nothing else
but the refusal with which the session may have ended.
-/

namespace HttpEngine

variable {σ : Type} {handler : Handler σ} {maxPayload : Nat} {timeouts : Timeouts}

namespace Call

/-- Whether a call is for a request for the head alone. -/
def asksForHead (call : Call) : Bool := call.request.method == .head

/-- A call whose answer a client can read. -/
def IsReadable (call : Call) : Prop := call.answer.response.IsReadable call.asksForHead

instance (call : Call) : Decidable call.IsReadable :=
  inferInstanceAs (Decidable (call.answer.response.IsReadable call.asksForHead))

/-- What a client has to see of the answer of a call. -/
def shows (call : Call) : Nat × Bytes :=
  (call.answer.response.status.code, call.answer.response.body)

end Call

/-- What a client sees of a response: its code and its body. -/
def Response.shows (response : Response) : Nat × Bytes := (response.status.code, response.body)

/-- The answer of a call is read as it was given, whatever stands behind it. -/
theorem Call.IsReadable.decode {call : Call} (readable : call.IsReadable)
    (size : call.answer.bytes.length < wordLimit) (ended : Bool) (rest : Bytes) :
    ∃ response, decodeResponse call.asksForHead ended (call.answer.bytes ++ rest) =
        .message response call.answer.bytes.length ∧
      response.shows = call.shows ∧ response.keepAlive = call.answer.keepAlive := by
  obtain ⟨status, code, decoded⟩ := decodeResponse_encodeResponse readable size ended rest
  exact ⟨_, decoded, Prod.ext code rfl, keepAlive_lines _ _ status⟩

/-- The answers of calls are read as they were given, and what stands behind them is left. -/
theorem readResponses_answerBytes {calls : List Call} (readable : ∀ call ∈ calls, call.IsReadable)
    {rest : Bytes} (size : (answerBytes calls ++ rest).length < wordLimit) (ended : Bool) :
    ∃ responses, readResponses ended (calls.map Call.asksForHead) (answerBytes calls ++ rest) =
        some (responses, rest) ∧
      responses.map Response.shows = calls.map Call.shows := by
  -- One answer after the other leaves the others behind it.
  induction calls with
  | nil => exact ⟨[], rfl, rfl⟩
  | cons call others ih =>
    have shape : answerBytes (call :: others) ++ rest =
        call.answer.bytes ++ (answerBytes others ++ rest) := by
      simp [answerBytes]
    rw [shape, List.length_append] at size
    -- The first answer is read in front of the others.
    obtain ⟨response, decoded, first, _⟩ := (readable call List.mem_cons_self).decode
      (by omega) ended (answerBytes others ++ rest)
    -- Then the others are, in front of what is left.
    obtain ⟨responses, read, same⟩ :=
      ih (fun other member => readable other (List.mem_cons_of_mem _ member)) (by omega)
    refine ⟨response :: responses, ?_, ?_⟩
    · rw [shape, List.map_cons, readResponses_cons decoded, List.drop_left, read]
      rfl
    · rw [List.map_cons, List.map_cons, first, same]

/-- A turn that refuses has come to bytes that it could not decode. -/
theorem Turn.failed_of_refusal (handler : Handler σ) (maxPayload : Nat) (kept : σ) (buffer : Bytes)
    (refused : (take handler maxPayload kept buffer).refusal.isSome = true) :
    ∃ rest error, RequestsOf maxPayload buffer
        ((take handler maxPayload kept buffer).calls.map Call.request) rest ∧
      decodeRequest maxPayload rest = .failed error := by
  -- A refusal is the last thing in a turn.
  fun_induction take handler maxPayload kept buffer with
  | case1 kept buffer waits => cases refused
  | case2 kept buffer error fails => exact ⟨buffer, error, .none buffer, fails⟩
  | case3 kept buffer request consumed comes call next keeps ih =>
    -- One more request stands in front of the others.
    obtain ⟨rest, error, these, fails⟩ := ih refused
    exact ⟨rest, error, .next comes these, fails⟩
  | case4 kept buffer request consumed comes call next shut => cases refused

namespace Service

/-- Behind the requests that were handled there came, at some time, what could not be decoded. -/
def MetFault (maxPayload : Nat) (service : Service σ) : Prop :=
  ∃ front rest error, front <+: service.received ∧
    RequestsOf maxPayload front (service.calls.map Call.request) rest ∧
    decodeRequest maxPayload rest = .failed error

/-- A service that is sound, and that has refused only what it could not decode. -/
structure Justified (maxPayload : Nat) (service : Service σ) (refusal : Option Status) : Prop where
  sound : service.Sound maxPayload refusal
  fault : refusal.isSome = true → service.MetFault maxPayload

/-- Every act but the passing of time keeps a service justified. -/
theorem Justified.step {service : Service σ} {refusal : Option Status}
    (justified : service.Justified maxPayload refusal) {act : ServiceAct}
    (untimed : act ≠ .timeOut) :
    ∃ refusal, (service.step handler maxPayload timeouts act).Justified maxPayload refusal := by
  cases act with
  | fill arrival =>
    -- The fault is still in front of what comes later.
    refine ⟨refusal, justified.sound.fill arrival, fun refused => ?_⟩
    obtain ⟨front, rest, error, before, these, fails⟩ := justified.fault refused
    exact ⟨front, rest, error, before.trans (List.prefix_append _ _), these, fails⟩
  | flush departure => exact ⟨refusal, justified.sound.flush departure, justified.fault⟩
  | timeOut => exact absurd rfl untimed
  | dispatch now =>
    cases shut : service.session.closing with
    | true =>
      -- Nothing more is called.
      obtain ⟨_, _, calls, _, received⟩ := dispatch_of_closing handler maxPayload shut now
      refine ⟨refusal, justified.sound.dispatch_of_closing shut now, fun refused => ?_⟩
      obtain ⟨front, rest, error, before, these, fails⟩ := justified.fault refused
      refine ⟨front, rest, error, ?_, ?_, fails⟩
      · exact received ▸ before
      · exact calls ▸ these
    | false =>
      -- The requests of the turn stand behind those that were handled before.
      obtain rfl := justified.sound.unrefused shut
      obtain ⟨_, _, calls, _, received, _⟩ := dispatch_of_open handler maxPayload shut now
      refine ⟨_, justified.sound.dispatch_of_open shut now, fun refused => ?_⟩
      obtain ⟨front, these, left⟩ := justified.sound.requests
      obtain ⟨rest, error, those, fails⟩ :=
        Turn.failed_of_refusal handler maxPayload service.kept service.session.readBuffer refused
      rw [left shut] at these
      refine ⟨service.received, rest, error, ?_, ?_, fails⟩
      · exact received ▸ List.prefix_rfl
      · show RequestsOf maxPayload service.received
          ((service.dispatch handler maxPayload now).calls.map Call.request) rest
        rw [calls, List.map_append]
        exact these.trans those

/-- A run without the passing of time keeps a service justified. -/
theorem Justified.run {service : Service σ} {refusal : Option Status}
    (justified : service.Justified maxPayload refusal) {acts : List ServiceAct}
    (untimed : .timeOut ∉ acts) :
    ∃ refusal, (service.run handler maxPayload timeouts acts).Justified maxPayload refusal := by
  -- The refusal is carried along, since a later act may bring one.
  induction acts generalizing service refusal with
  | nil => exact ⟨refusal, justified⟩
  | cons act rest ih =>
    rw [List.mem_cons, not_or] at untimed
    obtain ⟨next, justified⟩ :
        ∃ next, (service.step handler maxPayload timeouts act).Justified maxPayload next :=
      justified.step (Ne.symm untimed.1)
    exact ih justified untimed.2

/--
What a session has written is in step with what a client reads, whatever comes in, goes out and runs
out of time.

There is one response for each call, with the code and the body that the handler gave, and the calls
are for the requests that came in. Behind the responses there is nothing, unless the session has
refused something: then the time ran out, or something came that could not be decoded. The size is
that of the machine's memory.
-/
theorem responses_in_step (handler : Handler σ) (maxPayload : Nat) (timeouts : Timeouts) (kept : σ)
    (now : Instant) (acts : List ServiceAct) (ended : Bool)
    (readable : ∀ call ∈ ((opened kept now).run handler maxPayload timeouts acts).calls,
      call.IsReadable)
    (size : ((opened kept now).run handler maxPayload timeouts acts).output.length < wordLimit) :
    let service := (opened kept now).run handler maxPayload timeouts acts
    ∃ refusal responses,
      readResponses ended (service.calls.map Call.asksForHead) service.output =
        some (responses, refusalBytes refusal) ∧
      responses.map Response.shows = service.calls.map Call.shows ∧
      (∃ rest, RequestsOf maxPayload service.received (service.calls.map Call.request) rest) ∧
      (refusal.isSome = true → .timeOut ∈ acts ∨ service.MetFault maxPayload) := by
  intro service
  -- A run in which no time passes has refused with reason.
  obtain ⟨refusal, sound, justified⟩ : ∃ refusal, service.Sound maxPayload refusal ∧
      (refusal.isSome = true → .timeOut ∈ acts ∨ service.MetFault maxPayload) := by
    by_cases timed : .timeOut ∈ acts
    · obtain ⟨refusal, sound⟩ : ∃ refusal, service.Sound maxPayload refusal :=
        (sound_opened kept now).run acts
      exact ⟨refusal, sound, fun _ => .inl timed⟩
    · have fresh : (opened kept now).Justified maxPayload none :=
        ⟨sound_opened kept now, fun refused => by cases refused⟩
      obtain ⟨refusal, justified⟩ : ∃ refusal, service.Justified maxPayload refusal :=
        fresh.run timed
      exact ⟨refusal, justified.sound, fun refused => .inr (justified.fault refused)⟩
  -- The output is that of the answers, with the refusal behind them.
  have length : (answerBytes service.calls ++ refusalBytes refusal).length < wordLimit :=
    sound.output ▸ size
  obtain ⟨responses, read, same⟩ := readResponses_answerBytes readable length ended
  obtain ⟨rest, these, _⟩ := sound.requests
  exact ⟨refusal, responses, sound.output ▸ read, same, ⟨rest, these⟩, justified⟩

/-- Pipelined requests for a head and for a body are answered in step, and a fault is refused. -/
theorem responses_in_step_pipelined :
    let stream := utf8Bytes "HEAD /a HTTP/1.1\r\n\r\nGET /b HTTP/1.1\r\n\r\n?"
    let acts := [.fill ⟨stream, .blocked⟩, .dispatch ⟨1⟩, .fill ⟨[0x0D], .blocked⟩, .dispatch ⟨2⟩]
    let handler : Handler Nat := fun count request =>
      (⟨[.add "X" "y", .send .created (if request.method = .head then [] else [0x61])], false⟩,
        count + 1)
    let service := (opened 0 ⟨0⟩).run handler 0 EndpointOptions.standard.timeouts acts
    (∀ call ∈ service.calls, call.IsReadable) ∧ service.output.length < wordLimit ∧
      ∃ refusal responses,
        readResponses false [true, false] service.output = some (responses, refusalBytes refusal) ∧
        responses.map Response.shows = [(201, []), (201, [0x61])] := by
  intro stream acts handler service
  -- Both answers are such as a client can read, and they are short.
  have readable : ∀ call ∈ service.calls, call.IsReadable := by decide +kernel
  have size : service.output.length < wordLimit := by decide +kernel
  obtain ⟨refusal, responses, read, same, _⟩ :=
    responses_in_step handler 0 EndpointOptions.standard.timeouts 0 ⟨0⟩ acts false readable size
  -- One request was for a head, and the other one was not.
  refine ⟨readable, size, refusal, responses, ?_, ?_⟩
  · rw [← read]
    exact congrArg (readResponses false · service.output)
      (by decide +kernel : [true, false] = service.calls.map Call.asksForHead)
  · rw [same]
    decide +kernel

/--
Out of step, although each handler answers a request with one sending of a code of three digits and
legal header lines: a body where a client expects none stays in the way of the next response, and
with more than sixty-one header lines the response is not read at all.
-/
theorem responses_out_of_step :
    let service (line : String) (actions : List WriterAction) : Service Unit :=
      (opened () ⟨0⟩).run (fun _ _ => (⟨actions, false⟩, ())) 0 EndpointOptions.standard.timeouts
        [.fill ⟨utf8Bytes line, .blocked⟩, .dispatch ⟨0⟩]
    let toHead := service "HEAD / HTTP/1.1\r\n\r\n" [.send .ok [0x78]]
    let silent := service "GET / HTTP/1.1\r\n\r\n" [.send .noContent [0x78]]
    let crowded := service "GET / HTTP/1.1\r\n\r\n"
      [.replace ⟨List.replicate 62 ⟨"A", "b"⟩⟩, .send .ok []]
    (∀ served ∈ [toHead, silent, crowded],
      served.calls.length = 1 ∧ served.session.readBuffer = [] ∧ served.session.closing = false ∧
      ∀ call ∈ served.calls, sendings call.performance.actions = 1 ∧
        100 ≤ call.shows.1 ∧ call.shows.1 ≤ 999 ∧
        (∀ field ∈ call.answer.response.headers.fields, field.IsLegal) ∧
        call.answer.response.headers.get? "transfer-encoding" = none) ∧
    (readResponses false [true] toHead.output).map Prod.snd = some [0x78] ∧
    (readResponses false [false] silent.output).map Prod.snd = some [0x78] ∧
    readResponses false [false] crowded.output = none := by
  decide +kernel

end Service

end HttpEngine
