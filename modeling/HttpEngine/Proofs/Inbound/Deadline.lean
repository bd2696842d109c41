import HttpEngine.Proofs.Inbound.BlankLine
import HttpEngine.Proofs.Inbound.Transcript

/-!
The time that a session may still take. It runs from the first dispatch that left something of the
request that is being received, whatever comes after that, and how long it is goes by the blank
lines of what is left.
-/

namespace HttpEngine

variable {σ : Type} {handler : Handler σ} {maxPayload : Nat} {timeouts : Timeouts}

namespace Duration

/-- The shorter of two lengths is no longer than the second one. -/
theorem nanos_shorter_le (a b : Duration) : (a.shorter b).nanos ≤ b.nanos := by
  unfold shorter
  split <;> omega

end Duration

/-- A later point lies as much later as was asked for. -/
theorem Instant.nanos_of_add? {since due : Instant} {length : Duration}
    (counted : since.add? length = some due) : due.nanos = since.nanos + length.nanos := by
  -- Only a point that the clock cannot count is no point.
  unfold add? at counted
  dsimp only at counted
  split at counted <;> cases counted
  rfl

namespace Session

variable {session : Session}

/-- A request that is being received has the time of a head, or else that of a body. -/
theorem deadline?_of_begun (isOpen : session.closing = false) {since : Instant}
    (begun : session.started = some since) (timeouts : Timeouts) :
    session.deadline? timeouts =
      since.add? (if session.headReceived then timeouts.body
        else timeouts.header.shorter timeouts.body) := by
  rw [deadline?, isOpen, if_neg Bool.false_ne_true, allowance, begun]
  dsimp only
  split <;> rfl

/-- A session that reports a deadline is open. -/
theorem open_of_deadline? {due : Instant} (reported : session.deadline? timeouts = some due) :
    session.closing = false := by
  unfold deadline? at reported
  split at reported
  · cases reported
  · rename_i isOpen
    exact Bool.eq_false_iff.2 isOpen

/-- A request that is being received has a deadline no later than its body may come. -/
theorem nanos_deadline?_le {since due : Instant} (begun : session.started = some since)
    (reported : session.deadline? timeouts = some due) :
    due.nanos ≤ since.nanos + timeouts.body.nanos := by
  rw [deadline?_of_begun (open_of_deadline? reported) begun] at reported
  rw [Instant.nanos_of_add? reported]
  split
  · exact le_rfl
  · -- The head may have less time than the body, but not more.
    have shorter := Duration.nanos_shorter_le timeouts.header timeouts.body
    omega

/-- Between requests the deadline is that of the next one. -/
theorem nanos_deadline?_idle {due : Instant} (idle : session.started = none)
    (reported : session.deadline? timeouts = some due) :
    due.nanos = session.idleSince.nanos + timeouts.keepAlive.nanos := by
  unfold deadline? allowance at reported
  rw [idle] at reported
  split at reported
  · cases reported
  · exact Instant.nanos_of_add? reported

end Session

namespace Turn

/-- A turn without a call or a refusal leaves everything. -/
theorem rest_of_no_calls {kept : σ} {buffer : Bytes}
    (isOpen : (take handler maxPayload kept buffer).closes = false)
    (uncalled : (take handler maxPayload kept buffer).calls = []) :
    (take handler maxPayload kept buffer).rest = buffer := by
  cases decoded : decodeRequest maxPayload buffer with
  | incomplete => rw [take_incomplete decoded]
  | failed error =>
    -- A refusal would have closed the session.
    rw [take_failed decoded] at isOpen
    cases isOpen
  | message request consumed =>
    -- The request would have been handed over.
    rw [take_message decoded] at uncalled
    split at uncalled <;> cases uncalled

end Turn

namespace Service

/-- A run that ends with a dispatch is that dispatch behind the acts in front of it. -/
theorem run_append_dispatch (service : Service σ) (acts : List ServiceAct) (now : Instant) :
    service.run handler maxPayload timeouts (acts ++ [.dispatch now]) =
      (service.run handler maxPayload timeouts acts).dispatch handler maxPayload now := by
  rw [run, List.foldl_append]
  rfl

/--
A dispatch ends in one of two ways: with nothing left, when the time between requests begins anew,
or with a request that is being received, which goes by the blank lines of what is left.
-/
theorem dispatch_cases (handler : Handler σ) (maxPayload : Nat) (service : Service σ)
    (now : Instant) :
    let session := (service.dispatch handler maxPayload now).session
    (session.readBuffer = [] ∧ session.started = none ∧ session.headReceived = false ∧
      session.idleSince = now) ∨
    (session.readBuffer ≠ [] ∧ session.started ≠ none ∧
      session.headReceived = hasBlankLine session.readBuffer) := by
  -- The times are taken last, of whatever the answers have left.
  unfold dispatch Session.dispatch
  dsimp only
  split
  · rename_i empty
    exact .inl ⟨List.isEmpty_iff.1 empty, rfl, rfl, rfl⟩
  · rename_i left
    exact .inr ⟨mt List.isEmpty_iff.2 left, Option.some_ne_none _, rfl⟩

/-- After a dispatch the session goes by the blank lines of what is left. -/
theorem headReceived_dispatch (handler : Handler σ) (maxPayload : Nat) (service : Service σ)
    (now : Instant) :
    let session := (service.dispatch handler maxPayload now).session
    session.headReceived = hasBlankLine session.readBuffer := by
  intro session
  rcases dispatch_cases handler maxPayload service now with ⟨empty, -, unnoticed, -⟩ | ⟨-, -, noticed⟩
  · -- Where nothing is left, there is no blank line.
    exact unnoticed.trans (congrArg hasBlankLine empty).symm
  · exact noticed

/-- After a dispatch a request is being received exactly if something is left. -/
theorem started_dispatch_eq_none_iff (handler : Handler σ) (maxPayload : Nat) (service : Service σ)
    (now : Instant) :
    let session := (service.dispatch handler maxPayload now).session
    session.started = none ↔ session.readBuffer = [] := by
  intro session
  rcases dispatch_cases handler maxPayload service now with ⟨empty, idle, -⟩ | ⟨left, begun, -⟩
  · exact iff_of_true idle empty
  · exact iff_of_false begun left

/-- After a dispatch the request from before is received, unless it was answered. -/
theorem started_dispatch_of_open {service : Service σ} (isOpen : service.session.closing = false)
    (now : Instant) (left : (service.dispatch handler maxPayload now).session.readBuffer ≠ []) :
    (service.dispatch handler maxPayload now).session.started =
      some (if (Turn.take handler maxPayload service.kept service.session.readBuffer).calls.isEmpty
        then service.session.started.getD now else now) := by
  have answered := Session.answerAll_logged handler maxPayload
    service.session isOpen service.kept service.calls
  revert left
  unfold dispatch Session.dispatch
  rw [answered]
  dsimp only
  split
  · -- Nothing is left by the turn, against what is asked for.
    rename_i empty
    intro left
    exact absurd (List.isEmpty_iff.1 empty) left
  · intro _
    dsimp only
    split <;> rfl

/-- What an act adds to the dispatches: itself, if it is one, with its time and what came of it. -/
def dispatchOf (act : ServiceAct) (after : Service σ) : List (Instant × Service σ) :=
  match act with
  | .dispatch now => [(now, after)]
  | .fill _ | .flush _ | .timeOut => []

/-- The dispatches of a run: the time of each, and the service right after it. -/
def dispatches (handler : Handler σ) (maxPayload : Nat) (timeouts : Timeouts) :
    Service σ → List ServiceAct → List (Instant × Service σ)
  | _, [] => []
  | service, act :: rest =>
    let after := service.step handler maxPayload timeouts act
    dispatchOf act after ++ dispatches handler maxPayload timeouts after rest

/-- After as many calls as some, a part of the next request is there. -/
def hasPart (calls : List Call) (service : Service σ) : Bool :=
  decide (service.calls = calls) && !service.session.readBuffer.isEmpty

/-- When the first part of the request behind some calls was left by a dispatch. -/
def begun? (past : List (Instant × Service σ)) (calls : List Call) : Option Instant :=
  (past.find? fun seen => seen.2.hasPart calls).map Prod.fst

/-- When the last dispatch was, or else the session was accepted. -/
def lastTime (accepted : Instant) (past : List (Instant × Service σ)) : Instant :=
  (past.getLast?.map Prod.fst).getD accepted

/-- How the times of an open session go with the dispatches so far. -/
structure Paced (accepted : Instant) (past : List (Instant × Service σ)) (service : Service σ) :
    Prop where
  started : service.session.started = begun? past service.calls
  idle : service.session.started = none → service.session.idleSince = lastTime accepted past
  left : service.session.started ≠ none → service.session.readBuffer ≠ []
  /-- No dispatch made more calls than there are. -/
  calls : ∀ seen ∈ past, seen.2.calls.length ≤ service.calls.length

/-- A session that was just accepted has not been dispatched. -/
theorem paced_opened (kept : σ) (accepted : Instant) :
    (opened kept accepted).Paced accepted [] where
  started := rfl
  idle _ := rfl
  left nonempty := absurd rfl nonempty
  calls := by simp

/-- Later dispatches count only if none before them has left a part of the request. -/
theorem begun?_append (past more : List (Instant × Service σ)) (calls : List Call) :
    begun? (past ++ more) calls = (begun? past calls).or (begun? more calls) := by
  unfold begun?
  rw [List.find?_append, Option.map_or]

/-- One dispatch is the first one if it left a part of the request. -/
theorem begun?_singleton (now : Instant) (after : Service σ) (calls : List Call) :
    begun? [(now, after)] calls = if after.hasPart calls then some now else none := by
  unfold begun?
  rw [List.find?_singleton]
  split <;> rfl

/-- Nothing was left yet of a request that is behind more calls. -/
theorem Paced.begun?_behind {accepted : Instant} {past : List (Instant × Service σ)}
    {service : Service σ} (paced : service.Paced accepted past) (more : List Call) :
    begun? past (service.calls ++ more) =
      if more.isEmpty then service.session.started else none := by
  cases more with
  | nil =>
    rw [List.append_nil]
    exact paced.started.symm
  | cons call others =>
    have unseen : past.find? (fun seen => seen.2.hasPart (service.calls ++ call :: others)) =
        none := by
      rw [List.find?_eq_none]
      intro seen member part
      -- Earlier dispatches had fewer calls behind them.
      have fewer := paced.calls seen member
      have same : seen.2.calls = service.calls ++ call :: others := by
        simp only [hasPart, Bool.and_eq_true, decide_eq_true_eq] at part
        exact part.1
      rw [same, List.length_append, List.length_cons] at fewer
      omega
    rw [begun?, unseen]
    rfl

/-- The time after a dispatch is that of the first one with a part of the same request. -/
theorem Paced.started_dispatch {accepted : Instant} {past : List (Instant × Service σ)}
    {service : Service σ} (paced : service.Paced accepted past) (now : Instant)
    (isOpen : (service.dispatch handler maxPayload now).session.closing = false) :
    (service.dispatch handler maxPayload now).session.started =
      begun? (past ++ [(now, service.dispatch handler maxPayload now)])
        (service.dispatch handler maxPayload now).calls := by
  have before := open_of_open_dispatch handler maxPayload isOpen
  obtain ⟨closing, -, calls, -, -, buffer, -⟩ := dispatch_of_open handler maxPayload before now
  rw [begun?_append, begun?_singleton, calls, paced.begun?_behind, ← calls]
  -- Either nothing is left and nothing has begun, or something is and its time is known.
  rcases dispatch_cases handler maxPayload service now with ⟨empty, idle, -⟩ | ⟨left, -, -⟩
  · have nothing : hasPart (service.dispatch handler maxPayload now).calls
        (service.dispatch handler maxPayload now) = false := by simp [hasPart, empty]
    rw [idle, nothing, if_neg Bool.false_ne_true, Option.or_none]
    split
    · -- Nothing was answered and nothing is left, so that there was nothing before.
      rename_i uncalled
      rw [closing, Bool.or_eq_false_iff] at isOpen
      rw [buffer, Turn.rest_of_no_calls isOpen.1 (List.isEmpty_iff.1 uncalled)] at empty
      by_contra begun
      exact paced.left (Ne.symm begun) empty
    · rfl
  · have part : hasPart (service.dispatch handler maxPayload now).calls
        (service.dispatch handler maxPayload now) = true := by simp [hasPart, left]
    -- A request that goes on keeps its time, and a new one begins now.
    rw [started_dispatch_of_open before now left, part, if_pos rfl, Option.or_some]
    split <;> rfl

/-- A dispatch that leaves the session open keeps its times. -/
theorem Paced.dispatch {accepted : Instant} {past : List (Instant × Service σ)}
    {service : Service σ} (paced : service.Paced accepted past) (now : Instant)
    (isOpen : (service.dispatch handler maxPayload now).session.closing = false) :
    (service.dispatch handler maxPayload now).Paced accepted
      (past ++ [(now, service.dispatch handler maxPayload now)]) := by
  have before := open_of_open_dispatch handler maxPayload isOpen
  obtain ⟨-, -, calls, -⟩ := dispatch_of_open handler maxPayload before now
  refine ⟨paced.started_dispatch now isOpen, fun idle => ?_, fun begun => ?_,
    fun seen member => ?_⟩
  · rcases dispatch_cases handler maxPayload service now with ⟨-, -, -, anew⟩ | ⟨-, begun, -⟩
    · rw [anew, lastTime, List.getLast?_concat]
      rfl
    · exact absurd idle begun
  · exact mt (started_dispatch_eq_none_iff handler maxPayload service now).2 begun
  · -- The calls only become more.
    rcases List.mem_append.1 member with earlier | last
    · have fewer := paced.calls seen earlier
      rw [calls, List.length_append]
      omega
    · rw [List.mem_singleton.1 last]

/-- An act that leaves the session open keeps its times. -/
theorem Paced.step {accepted : Instant} {past : List (Instant × Service σ)}
    {service : Service σ} (paced : service.Paced accepted past) (act : ServiceAct)
    (isOpen : (service.step handler maxPayload timeouts act).session.closing = false) :
    (service.step handler maxPayload timeouts act).Paced accepted
      (past ++ dispatchOf act (service.step handler maxPayload timeouts act)) := by
  cases act with
  | fill arrival =>
    -- More bytes are there, and nobody has looked at them yet.
    rw [dispatchOf, List.append_nil]
    exact ⟨paced.started, paced.idle,
      fun nonempty => List.append_ne_nil_of_left_ne_nil (paced.left nonempty) _, paced.calls⟩
  | dispatch now => exact paced.dispatch now isOpen
  | flush departure =>
    -- What is sent has nothing to do with what has come in.
    rw [dispatchOf, List.append_nil]
    exact ⟨paced.started, paced.idle, paced.left, paced.calls⟩
  | timeOut =>
    rw [dispatchOf, List.append_nil]
    simp only [Service.step, timeOut] at isOpen ⊢
    split
    · -- Giving up on the peer closes the session.
      rename_i due
      rw [if_pos due] at isOpen
      simp only [Session.timeOut] at isOpen
      split at isOpen <;> cases isOpen
    · exact paced

/-- A run that leaves the session open keeps its times. -/
theorem Paced.run {accepted : Instant} {past : List (Instant × Service σ)} {service : Service σ}
    (paced : service.Paced accepted past) (acts : List ServiceAct)
    (isOpen : (service.run handler maxPayload timeouts acts).session.closing = false) :
    (service.run handler maxPayload timeouts acts).Paced accepted
      (past ++ service.dispatches handler maxPayload timeouts acts) := by
  induction acts generalizing service past with
  | nil => rwa [dispatches, List.append_nil]
  | cons act rest ih =>
    -- A session that closed would be closed at the end as well.
    have between : (service.step handler maxPayload timeouts act).session.closing = false := by
      rw [Bool.eq_false_iff]
      intro shut
      obtain ⟨closing, -⟩ := run_of_closing handler maxPayload timeouts shut rest
      exact Bool.false_ne_true (isOpen.symm.trans closing)
    rw [dispatches, ← List.append_assoc]
    exact ih (paced.step act between) isOpen

/--
A slow peer cannot put off the deadline of a request.

While a session is open, its time runs from the first dispatch that left a part of the request
behind the calls so far, however many pieces came after that one. Right after a dispatch a request is
being received exactly if something is left, and if calls were made, its time begins then. As long as
no more calls are made, its time does not change. The deadline that is reported is no later than that
time and the limit for a body. Without a request it is no later than the last dispatch, or the
acceptance, and the limit between requests.
-/
theorem deadline_stands (handler : Handler σ) (maxPayload : Nat) (timeouts : Timeouts) (kept : σ)
    (accepted : Instant) (acts : List ServiceAct)
    (isOpen :
      ((opened kept accepted).run handler maxPayload timeouts acts).session.closing = false) :
    let start := opened kept accepted
    let service := start.run handler maxPayload timeouts acts
    let past := start.dispatches handler maxPayload timeouts acts
    let session := service.session
    session.started = begun? past service.calls ∧
    (session.readBuffer = [] → session.started = none) ∧
    (∀ earlier now, acts = earlier ++ [.dispatch now] →
      (session.started = none ↔ session.readBuffer = []) ∧
      (service.calls ≠ (start.run handler maxPayload timeouts earlier).calls →
        session.readBuffer ≠ [] → session.started = some now)) ∧
    (∀ later, (service.run handler maxPayload timeouts later).session.closing = false →
      (service.run handler maxPayload timeouts later).calls = service.calls →
      ∀ since, session.started = some since →
        (service.run handler maxPayload timeouts later).session.started = some since) ∧
    ∀ due, session.deadline? timeouts = some due →
      (∀ since, session.started = some since →
        due.nanos ≤ since.nanos + timeouts.body.nanos) ∧
      (session.started = none →
        due.nanos ≤ (lastTime accepted past).nanos + timeouts.keepAlive.nanos) := by
  intro start service past session
  have paced : service.Paced accepted past := (paced_opened kept accepted).run acts isOpen
  refine ⟨paced.started, fun empty => ?_, fun earlier now ends => ?_,
    fun later goesOn same since begun => ?_,
    fun due reported => ⟨fun since begun => ?_, fun idle => ?_⟩⟩
  · by_contra begun
    exact paced.left begun empty
  · have last : service =
        (start.run handler maxPayload timeouts earlier).dispatch handler maxPayload now := by
      simp only [service, ends]
      exact run_append_dispatch start earlier now
    have before : (start.run handler maxPayload timeouts earlier).session.closing = false := by
      apply open_of_open_dispatch handler maxPayload
      rw [← last]
      exact isOpen
    simp only [session, last]
    refine ⟨started_dispatch_eq_none_iff handler maxPayload _ now, fun more left => ?_⟩
    -- The turn has made the calls that there are more.
    obtain ⟨-, -, calls, -⟩ := dispatch_of_open handler maxPayload before now
    rw [started_dispatch_of_open before now left, if_neg]
    intro uncalled
    rw [List.isEmpty_iff.1 uncalled, List.append_nil] at calls
    exact more calls
  · -- The dispatch that was the first one is the first one still.
    have after := paced.run later goesOn
    rw [after.started, same, begun?_append, ← paced.started]
    exact Option.or_eq_some_iff.2 (.inl begun)
  · exact Session.nanos_deadline?_le begun reported
  · rw [Session.nanos_deadline?_idle idle reported, paced.idle idle]

/-- A request is answered, and the next one comes in drops: its time is that of the first drop. -/
theorem deadline_stands_dripping :
    let timeouts : Timeouts := ⟨⟨1000⟩, ⟨2000⟩, ⟨3000⟩⟩
    let handler : Handler Nat := fun count _ => (⟨[.send .ok []], false⟩, count + 1)
    let acts : List ServiceAct :=
      [.fill ⟨utf8Bytes "GET /a HTTP/1.1\r\n\r\nGET /b HT", .blocked⟩, .dispatch ⟨10⟩,
        .fill ⟨utf8Bytes "TP/1.1", .blocked⟩, .dispatch ⟨500⟩,
        .fill ⟨utf8Bytes "\r\nA:", .blocked⟩, .dispatch ⟨900⟩]
    let service := (opened 0 ⟨0⟩).run handler 0 timeouts acts
    service.session.closing = false ∧ service.calls.length = 1 ∧
      service.session.started = some ⟨10⟩ ∧
      service.session.deadline? timeouts = some ⟨1010⟩ ∧ 1010 ≤ 10 + timeouts.body.nanos := by
  intro timeouts handler acts service
  have isOpen : service.session.closing = false := by decide +kernel
  obtain ⟨started, -, -, -, bound⟩ := deadline_stands handler 0 timeouts 0 ⟨0⟩ acts isOpen
  -- Of the three dispatches the first one found the second request begun.
  have first : service.session.started = some ⟨10⟩ := started.trans (by decide +kernel)
  have due : service.session.deadline? timeouts = some ⟨1010⟩ := by decide +kernel
  exact ⟨isOpen, by decide +kernel, first, due, (bound ⟨1010⟩ due).1 ⟨10⟩ first⟩

/--
Which limit a request has, right after a dispatch that leaves the session open.

The head counts as received if a blank line is among the empty lines in front of the request, or if
the head is there and a blank line ends with it or behind it, and then only. So the session agrees
with the decoder on every request in front of which no blank line stands and whose head, if it is
there, ends with one.
-/
theorem head_noticed (handler : Handler σ) (maxPayload : Nat) (timeouts : Timeouts) (kept : σ)
    (accepted now : Instant) (acts : List ServiceAct)
    (isOpen : ((opened kept accepted).run handler maxPayload timeouts
      (acts ++ [.dispatch now])).session.closing = false) :
    let session := ((opened kept accepted).run handler maxPayload timeouts
      (acts ++ [.dispatch now])).session
    let buffer := session.readBuffer
    (session.headReceived = true ↔
      hasBlankLine (emptyLines buffer) = true ∨
        headIsThere buffer = true ∧
          ∃ front, front <+: buffer ∧ headExtent buffer ≤ front.length ∧ blankLine <:+ front) ∧
    (hasBlankLine (emptyLines buffer) = false →
      (headIsThere buffer = true → blankLine <:+ buffer.take (headExtent buffer)) →
      session.headReceived = headIsThere buffer) ∧
    (buffer ≠ [] → ∃ since, session.started = some since ∧
      session.deadline? timeouts = since.add? (if session.headReceived then timeouts.body
        else timeouts.header.shorter timeouts.body)) := by
  intro session buffer
  let before := (opened kept accepted).run handler maxPayload timeouts acts
  have last : session = (before.dispatch handler maxPayload now).session :=
    congrArg Service.session (run_append_dispatch (opened kept accepted) acts now)
  -- What is left may still become a request, so that its head is there or awaited.
  have waits : decodeRequest maxPayload buffer = .incomplete := by
    simp only [buffer, last]
    apply incomplete_of_open_dispatch
    rw [← last]
    exact isOpen
  have noticed : session.headReceived = hasBlankLine buffer := by
    simp only [buffer, last]
    exact headReceived_dispatch handler maxPayload before now
  have fine : ∀ fault, scanRequestHead buffer ≠ .wrong fault := by
    intro fault wrong
    rw [decodeRequest_eq, wrong] at waits
    cases waits
  refine ⟨?_, fun plain ends => ?_, fun left => ?_⟩
  · rw [noticed]
    exact hasBlankLine_iff_of_request fine
  · rw [noticed, Bool.eq_iff_iff, hasBlankLine_iff_of_request fine, plain]
    constructor
    · rintro (empty | ⟨there, -⟩)
      · cases empty
      · exact there
    · -- The blank line at the end of the head is in the buffer.
      intro there
      have length : (buffer.take (headExtent buffer)).length = headExtent buffer :=
        List.length_take_of_le (headExtent_le buffer)
      exact .inr ⟨there, _, List.take_prefix _ _, length.ge, ends there⟩
  · -- What is left has begun at some time.
    have begun : session.started ≠ none := by
      simp only [buffer, last] at left ⊢
      exact mt (started_dispatch_eq_none_iff handler maxPayload before now).1 left
    obtain ⟨since, begun⟩ := Option.ne_none_iff_exists'.1 begun
    exact ⟨since, begun, Session.deadline?_of_begun isOpen begun timeouts⟩

/-- A head that comes in two pieces is noticed with the second one, and the body has its time. -/
theorem head_noticed_pieces :
    let timeouts : Timeouts := ⟨⟨1000⟩, ⟨2000⟩, ⟨3000⟩⟩
    let handler : Handler Unit := fun _ _ => (⟨[], false⟩, ())
    let acts : List ServiceAct :=
      [.fill ⟨utf8Bytes "\r\nPOST / HTTP/1.1\r\nContent-Length: 5\r\n", .blocked⟩, .dispatch ⟨1⟩,
        .fill ⟨utf8Bytes "\r\nhe", .blocked⟩]
    let session := ((opened () ⟨0⟩).run handler 8 timeouts (acts ++ [.dispatch ⟨7⟩])).session
    session.closing = false ∧ session.headReceived = headIsThere session.readBuffer ∧
      session.headReceived = true ∧ session.deadline? timeouts = some ⟨2001⟩ := by
  intro timeouts handler acts session
  have isOpen : session.closing = false := by decide +kernel
  obtain ⟨-, agrees, begun⟩ := head_noticed handler 8 timeouts () ⟨0⟩ ⟨7⟩ acts isOpen
  have same : session.headReceived = headIsThere session.readBuffer :=
    agrees (by decide +kernel) (by decide +kernel)
  have there : session.headReceived = true := same.trans (by decide +kernel)
  obtain ⟨since, started, due⟩ := begun (by decide +kernel)
  have first : session.started = some ⟨1⟩ := by decide +kernel
  obtain rfl : (⟨1⟩ : Instant) = since := Option.some.inj (first.symm.trans started)
  have reported : session.deadline? timeouts = some ⟨2001⟩ := by
    refine due.trans ?_
    rw [there, if_pos rfl]
    decide +kernel
  exact ⟨isOpen, same, there, reported⟩

/--
A head whose lines end with line feeds alone is there and goes unnoticed. Two empty lines in front
of a request are taken for the end of a head that is not there.
-/
theorem head_mistaken :
    let timeouts : Timeouts := ⟨⟨1000⟩, ⟨2000⟩, ⟨3000⟩⟩
    let session (stream : String) : Session :=
      ((opened () ⟨0⟩).run (fun _ _ => (⟨[], false⟩, ())) 8 timeouts
        [.fill ⟨utf8Bytes stream, .blocked⟩, .dispatch ⟨0⟩]).session
    let bare := session "POST / HTTP/1.1\nContent-Length: 5\n\nhe"
    let early := session "\r\n\r\nGET"
    (bare.closing = false ∧ headIsThere bare.readBuffer = true ∧ bare.headReceived = false ∧
      bare.deadline? timeouts = some ⟨1000⟩) ∧
    early.closing = false ∧ headIsThere early.readBuffer = false ∧ early.headReceived = true ∧
      early.deadline? timeouts = some ⟨2000⟩ := by
  decide +kernel

end Service

end HttpEngine
