import HttpEngine.Proofs.Link.Exchange

/-!
Where a link stands in a conversation: between two exchanges, or in one whose request is on its way,
or in one whose answer is. Each act keeps to what was planned.
-/

namespace HttpEngine

variable {σ : Type}

section Plan

variable (handler : Handler σ) (authority : String)

/-- The call to which an enquiry leads. -/
def Enquiry.call (kept : σ) (enquiry : Enquiry) : Call :=
  ⟨enquiry.request authority, (handler kept (enquiry.request authority)).1⟩

/-- What a handler keeps after some enquiries. -/
def plannedMemory (kept : σ) : List Enquiry → σ
  | [] => kept
  | enquiry :: rest => plannedMemory (handler kept (enquiry.request authority)).2 rest

/-- The calls to which some enquiries lead, one after the other. -/
def plannedCalls (kept : σ) : List Enquiry → List Call
  | [] => []
  | enquiry :: rest =>
    enquiry.call handler authority kept ::
      plannedCalls (handler kept (enquiry.request authority)).2 rest

/-- Enquiries that follow upon others start from what these have left. -/
theorem plannedMemory_append (kept : σ) (enquiries others : List Enquiry) :
    plannedMemory handler authority kept (enquiries ++ others) =
      plannedMemory handler authority (plannedMemory handler authority kept enquiries) others := by
  -- The memory is handed on from each call to the next.
  induction enquiries generalizing kept with
  | nil => rfl
  | cons enquiry rest ih => exact ih _

/-- The calls of enquiries that follow upon others stand behind those of the others. -/
theorem plannedCalls_append (kept : σ) (enquiries others : List Enquiry) :
    plannedCalls handler authority kept (enquiries ++ others) =
      plannedCalls handler authority kept enquiries ++
        plannedCalls handler authority (plannedMemory handler authority kept enquiries) others := by
  -- The calls of the first enquiries come first, and leave the memory to the others.
  induction enquiries generalizing kept with
  | nil => rfl
  | cons enquiry rest ih => exact congrArg (enquiry.call handler authority kept :: ·) (ih _)

/-- Every enquiry leads to one call. -/
theorem length_plannedCalls (kept : σ) (enquiries : List Enquiry) :
    (plannedCalls handler authority kept enquiries).length = enquiries.length := by
  induction enquiries generalizing kept with
  | nil => rfl
  | cons enquiry rest ih => exact congrArg (· + 1) (ih _)

end Plan

/-- How far the exchange that is under way has come, if one is. -/
inductive Stage where
  | resting
  | asking (enquiry : Enquiry)
  | answering (enquiry : Enquiry)

namespace Stage

/-- The enquiry that is under way. -/
def begun : Stage → List Enquiry
  | resting => []
  | asking enquiry | answering enquiry => [enquiry]

/-- The enquiry that is under way and has reached the handler. -/
def called : Stage → List Enquiry
  | resting | asking _ => []
  | answering enquiry => [enquiry]

/-- The bytes that are on the way to the session. -/
def outgoing (authority : String) : Stage → Bytes
  | resting | answering _ => []
  | asking enquiry => enquiry.bytes authority

/-- The bytes that are on the way to the client. -/
def incoming (handler : Handler σ) (authority : String) (kept : σ) : Stage → Bytes
  | resting | asking _ => []
  | answering enquiry => (enquiry.call handler authority kept).answer.bytes

end Stage

/-- Whether every call has left the connection open. -/
def keepAlives (calls : List Call) : Bool := calls.all fun call => call.answer.keepAlive

/-- Where a link stands, after some enquiries that are over. -/
structure Link.View.Stands (handler : Handler σ) (authority : String) (kept : σ)
    (enquiries : List Enquiry) (view : Link.View σ) (before : List Enquiry) (stage : Stage) :
    Prop where
  plan : enquiries = before ++ stage.begun ++ view.waiting
  exchange : view.exchange = stage.begun.head?.map Enquiry.exchange
  host : view.authority = authority
  outgoing : view.outgoing = stage.outgoing authority
  incoming : view.incoming =
    stage.incoming handler authority (plannedMemory handler authority kept before)
  calls : view.calls = plannedCalls handler authority kept (before ++ stage.called)
  memory : view.kept = plannedMemory handler authority kept (before ++ stage.called)
  /-- The session closes with the first call that does not leave it open. -/
  closing : view.closing = !keepAlives view.calls
  peersClosed : view.peersClosed = (false, false)
  /-- The client knows of the calls whose answers have come. -/
  usable : view.usable = keepAlives (plannedCalls handler authority kept before)
  /-- Nothing is begun on a connection that was not left open. -/
  going : stage.begun ≠ [] → view.usable = true
  outcomes : view.outcomes.map (Except.map Response.shows) =
    (plannedCalls handler authority kept before).map fun call => .ok call.shows

namespace Link

variable {handler : Handler σ} {maxPayload : Nat} {authority : String} {kept : σ}
  {enquiries before : List Enquiry} {stage : Stage} {link : Link σ}

/-- A new link rests. -/
theorem stands_opened (now : Instant) :
    (opened authority kept now enquiries).view.Stands handler authority kept enquiries []
      .resting where
  -- Nothing was begun, nothing is on the way, and both sides are open.
  plan := rfl
  exchange := rfl
  host := rfl
  outgoing := rfl
  incoming := rfl
  calls := rfl
  memory := rfl
  closing := rfl
  peersClosed := rfl
  usable := rfl
  going := fun begun => absurd rfl begun
  outcomes := rfl

/-- The enquiry under way is one of those that were planned. -/
theorem View.Stands.mem_enquiries {view : View σ}
    (stands : view.Stands handler authority kept enquiries before stage) :
    ∀ enquiry ∈ stage.begun, enquiry ∈ enquiries := by
  intro enquiry member
  rw [stands.plan]
  exact List.mem_append_left _ (List.mem_append_right _ member)

/-- The call of the enquiry under way is one of those that were planned. -/
theorem View.Stands.mem_plannedCalls {view : View σ}
    (stands : view.Stands handler authority kept enquiries before stage) :
    ∀ enquiry ∈ stage.begun,
      enquiry.call handler authority (plannedMemory handler authority kept before) ∈
        plannedCalls handler authority kept enquiries := by
  intro enquiry member
  -- No more than one enquiry is under way.
  have alone : stage.begun = [enquiry] := by
    cases stage <;> simp_all [Stage.begun]
  rw [stands.plan, alone, List.append_assoc, plannedCalls_append]
  exact List.mem_append_right _ List.mem_cons_self

/-- The client carries the exchange of the enquiry under way. -/
theorem View.Stands.carried
    (stands : link.view.Stands handler authority kept enquiries before stage) :
    link.client.exchange = stage.begun.head?.map Enquiry.exchange :=
  stands.exchange

/-- Neither side has seen the end of the bytes. -/
theorem View.Stands.goesOn
    (stands : link.view.Stands handler authority kept enquiries before stage) :
    link.client.peerClosed = false ∧ link.service.session.peerClosed = false :=
  ⟨congrArg Prod.fst stands.peersClosed, congrArg Prod.snd stands.peersClosed⟩

/-- While an enquiry is under way, all calls before it have left the connection open. -/
theorem View.Stands.left_open {view : View σ}
    (stands : view.Stands handler authority kept enquiries before stage)
    (begun : stage.begun ≠ []) :
    keepAlives (plannedCalls handler authority kept before) = true :=
  stands.usable.symm.trans (stands.going begun)

/-- An exchange is only started where nothing is under way. -/
theorem View.Stands.start
    (stands : link.view.Stands handler authority kept enquiries before stage) :
    ∃ stage, link.start.view.Stands handler authority kept enquiries before stage := by
  unfold Link.start
  split
  · -- Nothing waits to be started.
    exact ⟨stage, stands⟩
  · rename_i enquiry rest waits
    split
    · -- The connection is not free, or not to be used again.
      exact ⟨stage, stands⟩
    · rename_i free
      have idle : link.client.exchange = none ∧ link.usable = true := by
        simpa [Connection.isBusy] using free
      have carried := stands.carried
      rw [idle.1] at carried
      cases stage with
      | asking other => cases carried
      | answering other => cases carried
      | resting =>
        -- The bytes of the request are all that is on its way.
        refine ⟨.asking enquiry, ?_⟩
        constructor
        · exact stands.plan.trans (by simp [Stage.begun, view, waits])
        · rfl
        · exact stands.host
        · -- Nothing was on its way before.
          have nothing : link.service.session.readBuffer ++ link.upstream ++
              link.client.writeBuffer = [] := stands.outgoing
          have same : link.client.authority = authority := stands.host
          show link.service.session.readBuffer ++ link.upstream ++
            (link.client.writeBuffer ++ enquiry.bytes link.client.authority) =
              enquiry.bytes authority
          rw [← List.append_assoc, nothing, List.nil_append, same]
        · exact stands.incoming
        · exact stands.calls
        · exact stands.memory
        · exact stands.closing
        · exact stands.peersClosed
        · exact stands.usable
        · exact fun _ => idle.2
        · exact stands.outcomes

/-- Where nothing is on the way, nothing has come. -/
theorem nothing_read {read pipe waiting : Bytes} (nothing : read ++ pipe ++ waiting = []) :
    read = [] := by
  rw [List.append_eq_nil_iff, List.append_eq_nil_iff] at nothing
  exact nothing.1.1

/-- One more call that left the connection open, or did not. -/
theorem keepAlives_append (calls : List Call) (call : Call) :
    keepAlives (calls ++ [call]) = (keepAlives calls && call.answer.keepAlive) := by
  simp [keepAlives]

/-- A session that waits is as before when it was looked at. -/
theorem view_dispatch_of_waits
    (waits : decodeRequest maxPayload link.service.session.readBuffer = .incomplete)
    (goesOn : link.service.session.peerClosed = false) (now : Instant) :
    (link.step handler maxPayload (.dispatch now)).view = link.view := by
  obtain ⟨started, headReceived, idleSince, same⟩ :=
    Service.dispatch_of_waits handler waits goesOn now
  unfold step
  dsimp only
  rw [same]
  rfl

/-- When the whole of a request has come, the handler is called and its answer is on the way. -/
theorem View.Stands.whole_request {enquiry : Enquiry}
    (stands : link.view.Stands handler authority kept enquiries before (.asking enquiry))
    (fits : enquiry.Fits authority maxPayload)
    (answers : (enquiry.call handler authority
      (plannedMemory handler authority kept before)).Fits)
    (come : link.service.session.readBuffer = enquiry.bytes authority)
    (all : link.upstream ++ link.client.writeBuffer = []) (now : Instant) :
    (link.step handler maxPayload (.dispatch now)).view.Stands handler authority kept enquiries
      before (.answering enquiry) := by
  obtain ⟨quiet, goesOn⟩ := stands.goesOn
  -- Up to now the enquiry has not reached the handler.
  have memory : link.service.kept = plannedMemory handler authority kept before :=
    stands.memory.trans (by rw [Stage.called, List.append_nil])
  have calls : link.service.calls = plannedCalls handler authority kept before :=
    stands.calls.trans (by rw [Stage.called, List.append_nil])
  -- The session is open, since nothing is begun otherwise.
  have usable := stands.left_open (List.cons_ne_nil _ _)
  have isOpen : link.service.session.closing = false := by
    have closing : link.service.session.closing = !keepAlives link.service.calls := stands.closing
    rw [closing, calls, usable]
    rfl
  -- The session finds one request, and nothing behind it.
  have whole : decodeRequest maxPayload link.service.session.readBuffer =
      .message (enquiry.request authority) link.service.session.readBuffer.length := by
    rw [come]
    exact fits.whole
  obtain ⟨closing, keeps, called, wrote, read, peer⟩ :=
    Service.dispatch_of_whole handler isOpen goesOn whole now
  rw [memory] at closing keeps called wrote
  obtain ⟨up, written⟩ := List.append_eq_nil_iff.1 all
  constructor
  · exact stands.plan
  · exact stands.exchange
  · exact stands.host
  · -- Nothing of the request is left.
    show (link.service.dispatch handler maxPayload now).session.readBuffer ++ link.upstream ++
      link.client.writeBuffer = []
    rw [read, up, written]
    rfl
  · -- The answer is all that is on the way back.
    have nothing : link.client.readBuffer ++ link.downstream ++
        link.service.session.writeBuffer = [] := stands.incoming
    show link.client.readBuffer ++ link.downstream ++
      (link.service.dispatch handler maxPayload now).session.writeBuffer =
        (enquiry.call handler authority
          (plannedMemory handler authority kept before)).answer.bytes
    rw [wrote, ← List.append_assoc, nothing, List.nil_append]
    rfl
  · show (link.service.dispatch handler maxPayload now).calls = _
    rw [called, calls, plannedCalls_append]
    rfl
  · show (link.service.dispatch handler maxPayload now).kept = _
    rw [keeps, plannedMemory_append]
    rfl
  · -- Whether the session stays open is decided by this answer alone.
    show (link.service.dispatch handler maxPayload now).session.closing =
      !keepAlives (link.service.dispatch handler maxPayload now).calls
    rw [closing, called, calls, keepAlives_append, usable, Bool.true_and]
    exact congrArg (!·) answers.keepsOpen_eq
  · show (link.client.peerClosed,
      (link.service.dispatch handler maxPayload now).session.peerClosed) = (false, false)
    rw [peer, quiet]
  · exact stands.usable
  · exact stands.going
  · exact stands.outcomes

/-- The handler is called when the whole of a request is there, and not before. -/
theorem View.Stands.dispatch
    (stands : link.view.Stands handler authority kept enquiries before stage)
    (fits : ∀ enquiry ∈ enquiries, enquiry.Fits authority maxPayload)
    (answers : ∀ call ∈ plannedCalls handler authority kept enquiries, call.Fits) (now : Instant) :
    ∃ after, (link.step handler maxPayload (.dispatch now)).view.Stands handler authority kept
        enquiries before after ∧
      (link.upstream ++ link.client.writeBuffer = [] → after.begun = after.called) := by
  obtain ⟨_, goesOn⟩ := stands.goesOn
  -- Without bytes on the way to the session there is nothing to do.
  have silent (nothing : link.outgoing = []) :
      (link.step handler maxPayload (.dispatch now)).view = link.view := by
    refine view_dispatch_of_waits ?_ goesOn now
    rw [nothing_read nothing]
    rfl
  -- Only where a request is on its way can the session find anything.
  cases stage with
  | resting => exact ⟨.resting, silent stands.outgoing ▸ stands, fun _ => rfl⟩
  | answering enquiry =>
    exact ⟨.answering enquiry, silent stands.outgoing ▸ stands, fun _ => rfl⟩
  | asking enquiry =>
    have fit := fits enquiry (stands.mem_enquiries enquiry List.mem_cons_self)
    have split : link.service.session.readBuffer ++ (link.upstream ++ link.client.writeBuffer) =
        enquiry.bytes authority := by
      rw [← List.append_assoc]
      exact stands.outgoing
    by_cases rest : link.upstream ++ link.client.writeBuffer = []
    · -- The whole request has come.
      have come : link.service.session.readBuffer = enquiry.bytes authority := by
        rw [← split, rest, List.append_nil]
      have answer := answers _ (stands.mem_plannedCalls enquiry List.mem_cons_self)
      exact ⟨.answering enquiry, stands.whole_request fit answer come rest now, fun _ => rfl⟩
    · -- A part of the request has come.
      have waits := fit.part split rest
      exact ⟨.asking enquiry, view_dispatch_of_waits waits goesOn now ▸ stands,
        fun all => absurd all rest⟩

/-- Looking for a response that is not there yet changes nothing. -/
theorem poll_of_incomplete
    (waits : decodeResponse link.client.asksForHead link.client.peerClosed link.client.readBuffer =
      .incomplete)
    (quiet : link.client.peerClosed = false)
    (solicited : link.client.exchange = none → link.client.readBuffer = []) : link.poll = link := by
  have polled : link.client.poll = (link.client, .incomplete) := by
    rw [Connection.poll, waits]
  unfold Link.poll
  -- With an exchange a response is looked for, and without one there is nothing to read.
  split
  · rw [polled]
  · rename_i idle
    have nothing := solicited (by simpa [Connection.isBusy] using idle)
    simp [quiet, Connection.hasUnsolicited, nothing]

/-- Taking a response behind which there is nothing ends the exchange. -/
theorem poll_of_message {exchange : Exchange} {response : Response}
    (carried : link.client.exchange = some exchange) (quiet : link.client.peerClosed = false)
    (found : decodeResponse link.client.asksForHead link.client.peerClosed link.client.readBuffer =
      .message response link.client.readBuffer.length) :
    link.poll =
      { link with
        client := { link.client with
          exchange := none, readBuffer := [], served := link.client.served + 1 }
        usable := response.keepAlive
        outcomes := link.outcomes ++ [.ok response] } := by
  have polled : link.client.poll =
      ({ link.client with readBuffer := [], served := link.client.served + 1 },
        .message response link.client.readBuffer.length) := by
    rw [Connection.poll, found]
    dsimp only
    rw [List.drop_length]
  have busy : link.client.isBusy = true := by
    rw [Connection.isBusy, carried]
    rfl
  -- Nothing unsolicited is left, so that the response alone decides about the connection.
  rw [Link.poll, if_pos busy, polled]
  simp [Connection.release, Connection.isReusable, Connection.hasUnsolicited, quiet]

/-- When the whole of an answer has come, the exchange is over. -/
theorem View.Stands.whole_answer {enquiry : Enquiry}
    (stands : link.view.Stands handler authority kept enquiries before (.answering enquiry))
    (fits : (enquiry.call handler authority
      (plannedMemory handler authority kept before)).Fits)
    (come : link.client.readBuffer = (enquiry.call handler authority
      (plannedMemory handler authority kept before)).answer.bytes)
    (all : link.downstream ++ link.service.session.writeBuffer = []) :
    link.poll.view.Stands handler authority kept enquiries (before ++ [enquiry]) .resting := by
  obtain ⟨quiet, _⟩ := stands.goesOn
  have usable := stands.left_open (List.cons_ne_nil _ _)
  have planned : plannedCalls handler authority kept (before ++ [enquiry]) =
      plannedCalls handler authority kept before ++
        [enquiry.call handler authority (plannedMemory handler authority kept before)] :=
    plannedCalls_append handler authority kept before [enquiry]
  -- The client finds one response, and nothing behind it.
  obtain ⟨response, decoded, shows, word⟩ := fits.whole
  have found : decodeResponse link.client.asksForHead link.client.peerClosed
      link.client.readBuffer = .message response link.client.readBuffer.length := by
    rw [quiet, Connection.asksForHead, stands.carried, come]
    exact decoded
  obtain ⟨down, written⟩ := List.append_eq_nil_iff.1 all
  rw [poll_of_message stands.carried quiet found]
  constructor
  · exact stands.plan.trans (by simp [Stage.begun, view])
  · rfl
  · exact stands.host
  · exact stands.outgoing
  · -- Nothing of the answer is left.
    show [] ++ link.downstream ++ link.service.session.writeBuffer = []
    rw [down, written]
    rfl
  · exact stands.calls.trans (by simp [Stage.called])
  · exact stands.memory.trans (by simp [Stage.called])
  · exact stands.closing
  · exact stands.peersClosed
  · -- The response says of the connection what the answer does.
    show response.keepAlive = _
    rw [planned, keepAlives_append, usable, Bool.true_and]
    exact word
  · exact fun begun => absurd rfl begun
  · -- One more outcome stands behind those of the calls before.
    have earlier : link.outcomes.map (Except.map Response.shows) =
        (plannedCalls handler authority kept before).map fun call => .ok call.shows :=
      stands.outcomes
    show (link.outcomes ++ [Except.ok response]).map (Except.map Response.shows) = _
    rw [planned, List.map_append, List.map_append, earlier, List.map_singleton,
      List.map_singleton, ← shows]
    rfl

/-- An answer is taken when the whole of it is there, and not before. -/
theorem View.Stands.poll
    (stands : link.view.Stands handler authority kept enquiries before stage)
    (answers : ∀ call ∈ plannedCalls handler authority kept enquiries, call.Fits) :
    ∃ before after, link.poll.view.Stands handler authority kept enquiries before after ∧
      (link.downstream ++ link.service.session.writeBuffer = [] → stage.begun = stage.called →
        after = .resting) := by
  obtain ⟨quiet, _⟩ := stands.goesOn
  -- Without bytes on the way to the client there is nothing to do.
  have silent (nothing : link.incoming = []) : link.poll = link := by
    have empty := nothing_read nothing
    refine poll_of_incomplete ?_ quiet fun _ => empty
    rw [empty, quiet]
    rfl
  -- Only where an answer is on its way can the client find anything.
  cases stage with
  | resting =>
    exact ⟨before, .resting, (silent stands.incoming).symm ▸ stands, fun _ _ => rfl⟩
  | asking enquiry =>
    exact ⟨before, .asking enquiry, (silent stands.incoming).symm ▸ stands,
      fun _ called => absurd called (List.cons_ne_nil _ _)⟩
  | answering enquiry =>
    have fit := answers _ (stands.mem_plannedCalls enquiry List.mem_cons_self)
    have split : link.client.readBuffer ++
        (link.downstream ++ link.service.session.writeBuffer) =
        (enquiry.call handler authority
          (plannedMemory handler authority kept before)).answer.bytes := by
      rw [← List.append_assoc]
      exact stands.incoming
    by_cases rest : link.downstream ++ link.service.session.writeBuffer = []
    · -- The whole answer has come.
      have come : link.client.readBuffer = (enquiry.call handler authority
          (plannedMemory handler authority kept before)).answer.bytes := by
        rw [← split, rest, List.append_nil]
      exact ⟨before ++ [enquiry], .resting, stands.whole_answer fit come rest, fun _ _ => rfl⟩
    · -- A part of the answer has come.
      have waits := fit.part split rest
      have same : link.poll = link := by
        refine poll_of_incomplete ?_ quiet fun idle => ?_
        · rw [quiet, Connection.asksForHead, stands.carried]
          exact waits
        · -- An exchange is carried.
          rw [stands.carried] at idle
          cases idle
      exact ⟨before, .answering enquiry, same.symm ▸ stands, fun all => absurd all rest⟩

end Link

end HttpEngine
