import HttpEngine.Proofs.Link.Stage
import HttpEngine.Proofs.Wire.HeadLimit

/-!
A whole conversation over a link: whatever happens when, what was called and what came back is what
was planned, and no exchange is stuck. All heads have to keep the limit, those of the answers too.
-/

namespace HttpEngine

variable {σ : Type}

namespace Link

variable {handler : Handler σ} {maxPayload : Nat} {authority : String} {kept : σ}
  {enquiries before : List Enquiry} {stage : Stage} {link : Link σ}

/-- Whatever happens, a link stands somewhere in the conversation. -/
theorem View.Stands.step (stands : link.view.Stands handler authority kept enquiries before stage)
    (fits : ∀ enquiry ∈ enquiries, enquiry.Fits authority maxPayload)
    (answers : ∀ call ∈ plannedCalls handler authority kept enquiries, call.Fits) (act : LinkAct) :
    ∃ before stage, (link.step handler maxPayload act).view.Stands handler authority kept enquiries
      before stage := by
  -- Where the bytes are does not matter.
  have moved (moves : act.moves = true) : ∃ before stage,
      (link.step handler maxPayload act).view.Stands handler authority kept enquiries
        before stage :=
    ⟨before, stage, (view_step_of_moves handler maxPayload link moves).symm ▸ stands⟩
  -- Only three of the acts do more than move bytes.
  cases act with
  | start => exact ⟨before, stands.start⟩
  | dispatch now =>
    obtain ⟨after, stands, _⟩ := stands.dispatch fits answers now
    exact ⟨before, after, stands⟩
  | poll =>
    obtain ⟨before, after, stands, _⟩ := stands.poll answers
    exact ⟨before, after, stands⟩
  | sendUp room => exact moved rfl
  | readUp count => exact moved rfl
  | sendDown room => exact moved rfl
  | readDown count => exact moved rfl

/-- After any acts a link stands somewhere in the conversation. -/
theorem View.Stands.run (stands : link.view.Stands handler authority kept enquiries before stage)
    (fits : ∀ enquiry ∈ enquiries, enquiry.Fits authority maxPayload)
    (answers : ∀ call ∈ plannedCalls handler authority kept enquiries, call.Fits)
    (acts : List LinkAct) :
    ∃ before stage, (link.run handler maxPayload acts).view.Stands handler authority kept enquiries
      before stage := by
  -- Each act leads from somewhere in the conversation to somewhere in it.
  induction acts generalizing link before stage with
  | nil => exact ⟨before, stage, stands⟩
  | cons act rest ih =>
    obtain ⟨before, stage, stands⟩ := stands.step fits answers act
    exact ih stands

/-- An exchange that is under way can be brought to its end, wherever its bytes are. -/
theorem View.Stands.finish
    (stands : link.view.Stands handler authority kept enquiries before stage)
    (fits : ∀ enquiry ∈ enquiries, enquiry.Fits authority maxPayload)
    (answers : ∀ call ∈ plannedCalls handler authority kept enquiries, call.Fits) :
    ∃ more, .start ∉ more ∧ ∃ before,
      (link.run handler maxPayload more).view.Stands handler authority kept enquiries before
        .resting := by
  -- All bytes of the request are delivered, and the handler is called.
  let sent := link.step handler maxPayload (.sendUp link.client.writeBuffer.length)
  let come := sent.step handler maxPayload (.readUp sent.upstream.length)
  have there : come.view.Stands handler authority kept enquiries before stage := by
    rw [view_step_of_moves handler maxPayload sent rfl,
      view_step_of_moves handler maxPayload link rfl]
    exact stands
  -- Nothing is left on the way to the session.
  have up : come.upstream ++ come.client.writeBuffer = [] := by
    have read : come.upstream = [] := List.drop_length
    have written : come.client.writeBuffer = [] := List.drop_length
    rw [read, written]
    rfl
  obtain ⟨called, standing, reached⟩ := there.dispatch fits answers ⟨0⟩
  -- Then all bytes of the answer are delivered, and it is taken.
  let served := come.step handler maxPayload (.dispatch ⟨0⟩)
  let given := served.step handler maxPayload (.sendDown served.service.session.writeBuffer.length)
  let back := given.step handler maxPayload (.readDown given.downstream.length)
  have here : back.view.Stands handler authority kept enquiries before called := by
    rw [view_step_of_moves handler maxPayload given rfl,
      view_step_of_moves handler maxPayload served rfl]
    exact standing
  -- Nothing is left on the way to the client.
  have down : back.downstream ++ back.service.session.writeBuffer = [] := by
    have read : back.downstream = [] := List.drop_length
    have written : back.service.session.writeBuffer = [] := List.drop_length
    rw [read, written]
    rfl
  obtain ⟨before, after, ends, rests⟩ := here.poll answers
  obtain rfl := rests down (reached up)
  refine ⟨[.sendUp link.client.writeBuffer.length, .readUp sent.upstream.length, .dispatch ⟨0⟩,
    .sendDown served.service.session.writeBuffer.length, .readDown given.downstream.length, .poll],
    by simp, before, ends⟩

/-- Nothing is left to be done: everything was delivered, and looked at by both sides. -/
structure Drained (maxPayload : Nat) (link : Link σ) : Prop where
  sentUp : link.client.writeBuffer = []
  readUp : link.upstream = []
  dispatched : decodeRequest maxPayload link.service.session.readBuffer = .incomplete
  sentDown : link.service.session.writeBuffer = []
  readDown : link.downstream = []
  polled : decodeResponse link.client.asksForHead link.client.peerClosed link.client.readBuffer =
    .incomplete

/-- A link on which nothing is left to be done rests. -/
theorem View.Stands.resting_of_drained
    (stands : link.view.Stands handler authority kept enquiries before stage)
    (fits : ∀ enquiry ∈ enquiries, enquiry.Fits authority maxPayload)
    (answers : ∀ call ∈ plannedCalls handler authority kept enquiries, call.Fits)
    (drained : link.Drained maxPayload) : stage = .resting := by
  cases stage with
  | resting => rfl
  | asking enquiry =>
    -- The whole request would be there, and the handler would have been called.
    have come : link.service.session.readBuffer ++ link.upstream ++ link.client.writeBuffer =
        enquiry.bytes authority := stands.outgoing
    rw [drained.sentUp, drained.readUp, List.append_nil, List.append_nil] at come
    have whole := (fits enquiry (stands.mem_enquiries enquiry List.mem_cons_self)).whole
    have waits := drained.dispatched
    rw [come, whole] at waits
    cases waits
  | answering enquiry =>
    -- The whole answer would be there, and would have been taken.
    have come : link.client.readBuffer ++ link.downstream ++ link.service.session.writeBuffer =
        (enquiry.call handler authority
          (plannedMemory handler authority kept before)).answer.bytes := stands.incoming
    rw [drained.sentDown, drained.readDown, List.append_nil, List.append_nil] at come
    obtain ⟨response, whole, _⟩ :=
      (answers _ (stands.mem_plannedCalls enquiry List.mem_cons_self)).whole
    have waits := drained.polled
    rw [stands.goesOn.1, Connection.asksForHead, stands.carried, come] at waits
    cases whole.symm.trans waits

/-- A link carries an exchange exactly while an enquiry is under way. -/
theorem View.Stands.isBusy_eq
    (stands : link.view.Stands handler authority kept enquiries before stage) :
    link.client.isBusy = !stage.begun.isEmpty := by
  rw [Connection.isBusy, stands.carried]
  cases stage <;> rfl

/--
A conversation over one connection, however its bytes are delivered and whatever else happens when.

The enquiries that were begun are the first ones, and all but the last of them are over. The handler
was called at most once for each, in their order, with the request as it was meant and the added
header lines in front, and each response that came back has the code and the body that the handler
gave. None is stuck: when nothing is left to be done about the bytes, no exchange is under way, and
it can always come to that. Between two exchanges everything that was begun was called and answered,
and the connection may be used again exactly if all answers have left it open.
-/
theorem conversation (handler : Handler σ) (maxPayload : Nat) (authority : String) (kept : σ)
    (now : Instant) (enquiries : List Enquiry)
    (fits : ∀ enquiry ∈ enquiries, enquiry.Fits authority maxPayload)
    (answers : ∀ call ∈ plannedCalls handler authority kept enquiries, call.Fits)
    (acts : List LinkAct) :
    let link := (opened authority kept now enquiries).run handler maxPayload acts
    ∃ begun, enquiries = begun ++ link.waiting ∧
      begun.length ≤ link.outcomes.length + 1 ∧
      link.service.calls <+: plannedCalls handler authority kept begun ∧
      link.outcomes.map (Except.map Response.shows) <+:
        link.service.calls.map (fun call => .ok call.shows) ∧
      (link.Drained maxPayload → link.client.isBusy = false) ∧
      (∃ more, .start ∉ more ∧ (link.run handler maxPayload more).client.isBusy = false) ∧
      (link.client.isBusy = false →
        link.service.calls = plannedCalls handler authority kept begun ∧
        link.outcomes.map (Except.map Response.shows) =
          link.service.calls.map (fun call => .ok call.shows) ∧
        link.usable = keepAlives link.service.calls ∧
        link.service.session.closing = !link.usable) := by
  intro link
  obtain ⟨before, stage, stands⟩ : ∃ before stage,
      link.view.Stands handler authority kept enquiries before stage :=
    (stands_opened now).run fits answers acts
  have calls : link.service.calls = plannedCalls handler authority kept (before ++ stage.called) :=
    stands.calls
  have outcomes : link.outcomes.map (Except.map Response.shows) =
      (plannedCalls handler authority kept before).map fun call => .ok call.shows :=
    stands.outcomes
  -- There is one outcome for each enquiry that is over.
  have ended : link.outcomes.length = before.length := by
    simpa [length_plannedCalls] using congrArg List.length outcomes
  refine ⟨before ++ stage.begun, stands.plan, ?_, ?_, ?_, ?_, ?_, ?_⟩
  · -- There is room for one enquiry under way, and no more.
    rw [List.length_append, ended]
    cases stage <;> simp [Stage.begun]
  · -- The enquiry under way has reached the handler, or has not.
    rw [calls]
    cases stage with
    | resting => exact List.prefix_rfl
    | answering enquiry => exact List.prefix_rfl
    | asking enquiry =>
      rw [Stage.called, List.append_nil, plannedCalls_append]
      exact List.prefix_append _ _
  · -- The outcomes are those of the calls before the enquiry under way.
    rw [calls, outcomes, plannedCalls_append, List.map_append]
    exact List.prefix_append _ _
  · -- Where nothing is left to be done the link rests.
    intro drained
    obtain rfl := stands.resting_of_drained fits answers drained
    exact stands.isBusy_eq
  · -- Whatever is under way can be brought to its end.
    obtain ⟨more, unstarted, before, ends⟩ := stands.finish fits answers
    exact ⟨more, unstarted, ends.isBusy_eq⟩
  · intro idle
    -- Without an exchange nothing is under way.
    have resting : stage = .resting := by
      rw [stands.isBusy_eq] at idle
      cases stage with
      | resting => rfl
      | asking enquiry => cases idle
      | answering enquiry => cases idle
    subst resting
    rw [Stage.called, List.append_nil] at calls
    have usable : link.usable = keepAlives link.service.calls := calls ▸ stands.usable
    refine ⟨calls.trans (by rw [Stage.begun, List.append_nil]), calls ▸ outcomes, usable, ?_⟩
    rw [usable]
    exact stands.closing

/-- Two requests one after the other, and their answers, each in two pieces. -/
theorem conversation_in_pieces :
    let exchange (request : Request) : Exchange := ⟨0, request, "h:1", .ofSecs 1, ⟨0⟩, false⟩
    let enquiries : List Enquiry :=
      [⟨exchange { method := .post, target := "/a", headers := ⟨[⟨"X", "y"⟩]⟩, body := [0x62] },
          true⟩,
        ⟨exchange { method := .head, target := "/b" }, false⟩]
    let handler : Handler Nat := fun count request =>
      (⟨[.add "N" (decimal count), .send .created request.body], false⟩, count + 1)
    let round : List LinkAct :=
      [.start, .sendUp 30, .readUp 17, .dispatch ⟨1⟩, .sendUp 500, .readUp 500, .dispatch ⟨2⟩,
        .sendDown 30, .readDown 17, .poll, .sendDown 500, .readDown 500, .poll]
    let link := (opened "h:1" 0 ⟨0⟩ enquiries).run handler 9 (round ++ round)
    (∀ enquiry ∈ enquiries, enquiry.Fits "h:1" 9) ∧
      (∀ call ∈ plannedCalls handler "h:1" 0 enquiries, call.Fits) ∧
      link.client.isBusy = false ∧ link.waiting = [] ∧
      link.service.calls = plannedCalls handler "h:1" 0 enquiries ∧
      link.outcomes.map (Except.map Response.shows) = [.ok (201, [0x62]), .ok (201, [])] ∧
      link.usable = false := by
  intro exchange enquiries handler round link
  have fits : ∀ enquiry ∈ enquiries, enquiry.Fits "h:1" 9 := by decide +kernel
  have answers : ∀ call ∈ plannedCalls handler "h:1" 0 enquiries, call.Fits := by decide +kernel
  -- The run itself is computed, and the rest follows from it.
  obtain ⟨idle, allBegun, seen, closes⟩ : link.client.isBusy = false ∧ link.waiting = [] ∧
      link.service.calls.map Call.shows = [(201, [0x62]), (201, [])] ∧
      keepAlives link.service.calls = false := by
    decide +kernel
  obtain ⟨begun, plan, _, _, _, _, _, rests⟩ :=
    conversation handler 9 "h:1" 0 ⟨0⟩ enquiries fits answers (round ++ round)
  obtain ⟨calls, outcomes, usable, _⟩ := rests idle
  -- Nothing waits, so that all enquiries were begun.
  have all : enquiries = begun ++ link.waiting := plan
  rw [allBegun, List.append_nil] at all
  let box (shown : Nat × Bytes) : Except DecodeError (Nat × Bytes) := .ok shown
  have boxed : link.service.calls.map (fun call => box call.shows) =
      [box (201, [0x62]), box (201, [])] := by
    have each := congrArg (List.map box) seen
    rw [List.map_map] at each
    exact each
  refine ⟨fits, answers, idle, allBegun, ?_, ?_, ?_⟩
  · rw [all]
    exact calls
  · rw [outcomes]
    exact boxed
  · rw [usable]
    exact closes

/--
The first answer is refused if its head is longer than a head may be, and some of it is read beyond
the limit before all of it is there.
-/
theorem refused_of_long_head (handler : Handler σ) (kept : σ) (now : Instant) {enquiry : Enquiry}
    (fits : enquiry.Fits authority maxPayload) {room count : Nat}
    (enough : (enquiry.bytes authority).length ≤ room)
    (readable : (enquiry.call handler authority kept).IsReadable)
    (beyond : maxHeadLength < count)
    (inside : count < (responseHeadBytes (enquiry.call handler authority kept).answer.response
      ((enquiry.call handler authority kept).answer.response.lines
        (enquiry.call handler authority kept).answer.keepAlive)).length) :
    let link := (opened authority kept now [enquiry]).run handler maxPayload
      [.start, .sendUp room, .readUp room, .dispatch now, .sendDown count, .readDown count, .poll]
    link.service.calls = [enquiry.call handler authority kept] ∧
      link.outcomes = [.error (.malformed .headTooLong)] := by
  intro link
  -- The request is delivered, and the handler gives its answer.
  let asked := (opened authority kept now [enquiry]).run handler maxPayload
    [.start, .sendUp room, .readUp room]
  have come : asked.service.session.readBuffer = enquiry.bytes authority := by
    show [] ++ ([] ++ ([] ++ enquiry.bytes authority).take room).take room = _
    simp only [List.nil_append, List.take_of_length_le enough]
  have isOpen : asked.service.session.closing = false := rfl
  have whole := come.symm ▸ fits.whole
  obtain ⟨-, -, calls, written, -, -⟩ := Service.dispatch_of_whole handler isOpen rfl whole now
  -- Of the answer one piece is delivered, which is too long for a head and not yet all of it.
  let served := asked.step handler maxPayload (.dispatch now)
  let heard := (served.step handler maxPayload (.sendDown count)).step handler maxPayload
    (.readDown count)
  have piece : heard.client.readBuffer =
      (enquiry.call handler authority kept).answer.bytes.take count := by
    show [] ++ ([] ++ served.service.session.writeBuffer.take count).take count = _
    rw [List.nil_append, List.nil_append, List.take_take, Nat.min_self]
    exact congrArg (List.take count) written
  have refused : heard.client.poll = (heard.client, .malformed .headTooLong) := by
    have decoded := readable.refused_take beyond inside
    rw [← Answer.bytes, ← piece] at decoded
    have head : heard.client.asksForHead = (enquiry.call handler authority kept).asksForHead := rfl
    have goesOn : heard.client.peerClosed = false := rfl
    rw [Connection.poll, head, goesOn, decoded]
    rfl
  have polled : link = { heard with
      client := heard.client.release, usable := false
      outcomes := [.error (.malformed .headTooLong)] } := by
    show heard.poll = _
    rw [Link.poll, if_pos (show heard.client.isBusy = true from rfl), refused]
    rfl
  rw [polled]
  exact ⟨calls, rfl⟩

/-- An enquiry for nothing special, which wants the connection to stay. -/
def rootEnquiry : Enquiry :=
  ⟨⟨0, { method := .get, target := "/" }, "h:1", .ofSecs 1, ⟨0⟩, false⟩, true⟩

/-- A handler that answers everything with one long header line. -/
def longWinded (n : Nat) : Handler Unit :=
  fun _ _ => (⟨[.add "X" (filler n), .send .ok []], false⟩, ())

/-- Its answer is the long response, and leaves the connection open. -/
theorem answer_longWinded (n : Nat) :
    (rootEnquiry.call (longWinded n) "h:1" ()).answer = ⟨longResponse n, true⟩ := by
  -- Neither the request nor the long header line asks for the end of the connection.
  have asks : (rootEnquiry.request "h:1").keepAlive = true := by decide +kernel
  have silent : (longResponse n).headers.wantsClose = false := by
    have other : sameName "X" "connection" = false := by decide
    simp [longResponse, Headers.wantsClose, Headers.get?, other]
  show Answer.mk (longResponse n) ((rootEnquiry.request "h:1").keepAlive &&
    !(longResponse n).headers.wantsClose) = _
  rw [asks, silent]
  rfl

/-- An answer that fits but for its head is refused where the head is cut behind the limit. -/
theorem refused_longWinded {n count : Nat} (beyond : maxHeadLength < count)
    (inside : count < n + 88) (size : n + 88 < wordLimit) :
    let link := (opened "h:1" () ⟨0⟩ [rootEnquiry]).run (longWinded n) 0
      [.start, .sendUp 500, .readUp 500, .dispatch ⟨0⟩, .sendDown count, .readDown count, .poll]
    rootEnquiry.Fits "h:1" 0 ∧
      (∀ call ∈ plannedCalls (longWinded n) "h:1" () [rootEnquiry],
        call.performance.crashes = false ∧ sendings call.performance.actions = 1 ∧
        call.IsReadable ∧ call.answer.keepAlive = true ∧ call.answer.bytes.length < wordLimit) ∧
      link.service.calls = plannedCalls (longWinded n) "h:1" () [rootEnquiry] ∧
      link.outcomes = [.error (.malformed .headTooLong)] := by
  have fits : rootEnquiry.Fits "h:1" 0 := by decide +kernel
  have readable : (rootEnquiry.call (longWinded n) "h:1" ()).IsReadable := isReadable_longResponse n
  have length : (encodeResponse (longResponse n) true).length = n + 88 :=
    length_longResponse n true
  -- There is no body, so that all of the answer is its head.
  have head : (responseHeadBytes (longResponse n) ((longResponse n).lines true)).length =
      n + 88 := by
    have empty : (longResponse n).body = [] := rfl
    rw [encodeResponse_eq, empty, List.append_nil] at length
    exact length
  refine ⟨fits, fun other member => ?_, refused_of_long_head (longWinded n) () ⟨0⟩ fits
    (by decide +kernel) readable beyond ?_⟩
  · obtain rfl := List.mem_singleton.1 member
    refine ⟨rfl, rfl, readable, by rw [answer_longWinded], ?_⟩
    rw [answer_longWinded, Answer.bytes, length]
    exact size
  · rw [answer_longWinded, head]
    exact inside

/-- So an answer whose head has 8280 bytes is lost when 8200 of them are read first. -/
theorem long_answer_refused :
    let link := (opened "h:1" () ⟨0⟩ [rootEnquiry]).run (longWinded 8192) 0
      [.start, .sendUp 500, .readUp 500, .dispatch ⟨0⟩, .sendDown 8200, .readDown 8200, .poll]
    rootEnquiry.Fits "h:1" 0 ∧
      (∀ call ∈ plannedCalls (longWinded 8192) "h:1" () [rootEnquiry],
        call.performance.crashes = false ∧ sendings call.performance.actions = 1 ∧
        call.IsReadable ∧ call.answer.keepAlive = true ∧ call.answer.bytes.length < wordLimit) ∧
      link.service.calls = plannedCalls (longWinded 8192) "h:1" () [rootEnquiry] ∧
      link.outcomes = [.error (.malformed .headTooLong)] :=
  refused_longWinded (by decide) (by decide) (by decide)

end Link

end HttpEngine
