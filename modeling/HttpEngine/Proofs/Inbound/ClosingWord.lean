import HttpEngine.Proofs.Inbound.Transcript
import HttpEngine.Proofs.Wire.FirstField

/-!
Who asks for the end of a connection, and is heard. A request and a response say so by a field, of
which the first one with the name counts, so that a word behind another one is overlooked.
-/

namespace HttpEngine

/-- Some `Connection` field says a word, wherever it stands. -/
def Headers.Says (headers : Headers) (word : String) : Prop :=
  ∃ field ∈ headers.fields,
    sameName field.name "connection" = true ∧ sameName field.value word = true

/-- Some `Connection` field says a word, and so does the first one. -/
def Headers.SaysFirst (headers : Headers) (word : String) : Prop :=
  headers.Says word ∧ headers.FirstIs "connection" fun value => sameName value word = true

instance (headers : Headers) (word : String) : Decidable (headers.Says word) :=
  inferInstanceAs (Decidable (∃ field ∈ headers.fields,
    sameName field.name "connection" = true ∧ sameName field.value word = true))

/-- What is said first is what the lookup finds. -/
theorem Headers.saysFirst_iff {headers : Headers} {word : String} :
    headers.SaysFirst word ↔
      (headers.get? "connection").any (fun value => sameName value word) = true := by
  rw [SaysFirst, Headers.firstIs_iff, Option.any_eq_true]
  constructor
  · rintro ⟨⟨field, member, named, -⟩, first⟩
    -- Where there is a field with the name, there is a first one.
    obtain ⟨value, found⟩ := Headers.exists_get? member named
    exact ⟨value, found, first value found⟩
  · rintro ⟨value, found, said⟩
    obtain ⟨_, field, _, split, rfl, named, -⟩ := Headers.exists_of_get? found
    -- The field at which the lookup stops has the name, and every first one is that field.
    refine ⟨⟨field, by rw [split]; simp, named, said⟩, fun other same => ?_⟩
    obtain rfl := Option.some.inj (found.symm.trans same)
    exact said

/-- An answer keeps the connection if it was sent and neither side has asked for the end. -/
theorem Answer.keepAlive_ofActions (version : Version) (keepAlive : Bool) (headers : Headers)
    (actions : List WriterAction) :
    (ofActions version keepAlive headers actions).keepAlive = true ↔
      sendings actions ≠ 0 ∧ keepAlive = true ∧
        (ofActions version keepAlive headers actions).response.headers.wantsClose = false := by
  -- Up to the first sending there are only changes of the headers, which are no sendings.
  fun_induction ofActions version keepAlive headers actions with
  | case1 => simp [missing, sendings]
  | case2 headers name value rest ih => simpa [sendings_cons, WriterAction.isSending] using ih
  | case3 headers name value rest ih => simpa [sendings_cons, WriterAction.isSending] using ih
  | case4 old headers rest ih => simpa [sendings_cons, WriterAction.isSending] using ih
  | case5 headers status body rest => simp [sendings_cons, WriterAction.isSending]

/-- The word on the connection is one of two. -/
theorem Answer.connectionWords_close_iff {answer : Answer} :
    answer.connectionWords = ["close"] ↔ ¬ answer.keepAlive = true := by
  rw [answer.connectionWords_eq]
  cases answer.keepAlive <;> decide

/-- A request keeps the connection unless it says otherwise, or has to say so and does not. -/
theorem Request.keepAlive_iff {request : Request} :
    request.keepAlive = true ↔ ¬ request.headers.SaysFirst "close" ∧
      (request.version = .http10 → request.headers.SaysFirst "keep-alive") := by
  simp only [Headers.saysFirst_iff]
  show _ ↔ ¬ request.headers.wantsClose = true ∧ (_ → request.headers.wantsKeepAlive = true)
  unfold keepAlive
  cases request.version <;> simp [Version.keepsAlive]

/--
An answer says that the connection ends for one of four reasons: it was never sent, the request or
the handler says so first, or the request is of the older version and does not ask for it to stay.
-/
theorem Call.connectionWords_close_iff {call : Call} :
    call.answer.connectionWords = ["close"] ↔
      sendings call.performance.actions = 0 ∨ call.request.headers.SaysFirst "close" ∨
      call.answer.response.headers.SaysFirst "close" ∨
      call.request.version = .http10 ∧ ¬ call.request.headers.SaysFirst "keep-alive" := by
  have handler : call.answer.response.headers.wantsClose = false ↔
      ¬ call.answer.response.headers.SaysFirst "close" := by
    rw [Headers.saysFirst_iff]
    -- The claim about the handler's fields is that about the lookup, the other way round.
    exact Bool.not_eq_true _ |>.symm.to_iff
  rw [Answer.connectionWords_close_iff, answer, Answer.keepAlive_ofActions, Request.keepAlive_iff]
  rw [← answer, handler]
  tauto

namespace Service

variable {σ : Type}

/--
The word that ends a connection is heard where it stands first.

An answer says that the connection ends exactly if it was never sent, if the first `Connection`
field of the request or of those that the handler has set says so, or if the request is of the older
version and its first one does not ask for the connection to stay. Where one of them says so first,
the call is the last one, whatever is behind its request. The session is closing, nothing is written
behind the answer, and no later act makes a call or writes anything.
-/
theorem first_close_heard (handler : Handler σ) (maxPayload : Nat) (timeouts : Timeouts) (kept : σ)
    (accepted : Instant) (acts later : List ServiceAct) :
    let service := (opened kept accepted).run handler maxPayload timeouts acts
    (∀ call ∈ service.calls,
      call.answer.connectionWords = ["close"] ↔
        sendings call.performance.actions = 0 ∨ call.request.headers.SaysFirst "close" ∨
        call.answer.response.headers.SaysFirst "close" ∨
        call.request.version = .http10 ∧ ¬ call.request.headers.SaysFirst "keep-alive") ∧
    ∀ before call behind, service.calls = before ++ call :: behind →
      call.request.headers.SaysFirst "close" ∨ call.answer.response.headers.SaysFirst "close" →
      call.answer.connectionWords = ["close"] ∧ behind = [] ∧ service.session.closing = true ∧
      service.output = answerBytes (before ++ [call]) ∧
      (service.run handler maxPayload timeouts later).calls = service.calls ∧
      (service.run handler maxPayload timeouts later).output = service.output := by
  intro service
  -- A session is sound in all its states, so that a call that ends it can only be its last one.
  obtain ⟨refusal, sound⟩ : ∃ refusal, service.Sound maxPayload refusal :=
    (sound_opened kept accepted).run acts
  refine ⟨fun call _ => Call.connectionWords_close_iff, fun before call behind calls asks => ?_⟩
  have word : call.answer.connectionWords = ["close"] := by
    rw [Call.connectionWords_close_iff]
    tauto
  -- Such a call does not keep the session open, so that it is no earlier one than the last.
  have ends : ¬ call.keepsOpen = true := fun keeps => by
    have stays := (Call.clean_iff.2 keeps).saysKeepAlive
    rw [word] at stays
    exact absurd stays (by decide)
  have member : call ∈ service.calls := by rw [calls]; simp
  have last : behind = [] := by
    by_contra more
    refine ends (sound.before call ?_)
    rw [calls, List.dropLast_append_of_ne_nil (List.cons_ne_nil _ _),
      List.dropLast_cons_of_ne_nil more]
    simp
  -- If it were open, or had refused, then no call would have ended it.
  have quiet : ¬ (service.session.closing = false ∨ refusal.isSome = true) :=
    fun goes => ends (sound.all goes call member)
  obtain ⟨shut, unrefused⟩ := not_or.1 quiet
  rw [Bool.not_eq_false] at shut
  -- A closing session does nothing more, whatever happens to it.
  obtain ⟨-, called, wrote⟩ := run_of_closing handler maxPayload timeouts shut later
  refine ⟨word, last, shut, ?_, called, wrote⟩
  rw [sound.output, calls, last, Option.not_isSome_iff_eq_none.1 unrefused]
  exact List.append_nil _

/-- Two requests come in one piece, of which the first one ends the connection. -/
theorem first_close_heard_pipelined :
    let timeouts : Timeouts := ⟨⟨1000⟩, ⟨2000⟩, ⟨3000⟩⟩
    let handler : Handler Unit := fun _ _ => (⟨[.send .ok []], false⟩, ())
    let call : Call := ⟨⟨.get, "/a", .http11, ⟨[⟨"connection", "Close"⟩]⟩, []⟩,
      [.send .ok []], false⟩
    let service := (opened () ⟨0⟩).run handler 0 timeouts
      [.fill ⟨utf8Bytes ("GET /a HTTP/1.1\r\nconnection: Close\r\n\r\n"
        ++ "GET /b HTTP/1.1\r\n\r\n"), .blocked⟩, .dispatch ⟨1⟩]
    service.calls = [call] ∧ call.answer.connectionWords = ["close"] ∧
      service.session.closing = true ∧ service.output = answerBytes [call] ∧
      (service.run handler 0 timeouts [.dispatch ⟨2⟩]).calls = [call] := by
  intro timeouts handler call service
  have once : service.calls = [call] := by decide +kernel
  have asks : call.request.headers.SaysFirst "close" := Headers.saysFirst_iff.2 (by decide +kernel)
  obtain ⟨word, -, shut, wrote, called, -⟩ :=
    (first_close_heard handler 0 timeouts () ⟨0⟩
      [.fill ⟨utf8Bytes ("GET /a HTTP/1.1\r\nconnection: Close\r\n\r\n"
        ++ "GET /b HTTP/1.1\r\n\r\n"), .blocked⟩, .dispatch ⟨1⟩] [.dispatch ⟨2⟩]).2
      [] call [] once (.inl asks)
  exact ⟨once, word, shut, wrote, called.trans once⟩

/--
A word that stands behind another one is overlooked, in a request and in a response: both requests
are answered, the answers say that the connection stays, and the session is open.
-/
theorem later_close_overlooked :
    let timeouts : Timeouts := ⟨⟨1000⟩, ⟨2000⟩, ⟨3000⟩⟩
    let serve (headers : List WriterAction) (stream : String) : Service Unit :=
      (opened () ⟨0⟩).run (fun _ _ => (⟨headers ++ [.send .ok []], false⟩, ())) 0 timeouts
        [.fill ⟨utf8Bytes stream, .blocked⟩, .dispatch ⟨1⟩]
    let asked := serve [] ("GET /a HTTP/1.1\r\nConnection: keep-alive\r\n"
      ++ "Connection: close\r\n\r\nGET /b HTTP/1.1\r\n\r\n")
    let told := serve [.add "Connection" "keep-alive", .add "Connection" "close"]
      "GET /a HTTP/1.1\r\n\r\nGET /b HTTP/1.1\r\n\r\n"
    (∃ call ∈ asked.calls.dropLast, call.request.headers.Says "close") ∧
    (∀ call ∈ told.calls, call.answer.response.headers.Says "close") ∧
    ∀ service ∈ [asked, told],
      service.calls.length = 2 ∧
      (∀ call ∈ service.calls, call.answer.connectionWords = ["keep-alive"]) ∧
      service.session.closing = false := by
  decide +kernel

end Service

end HttpEngine
