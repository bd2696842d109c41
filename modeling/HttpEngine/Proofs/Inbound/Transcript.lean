import HttpEngine.Proofs.Inbound.Service

/-!
What a session has written at any time: one answer for each call in the order of the requests, and
at most one refusal behind them. After its end nothing more is called or written.
-/

namespace HttpEngine

variable {σ : Type} {handler : Handler σ} {maxPayload : Nat} {timeouts : Timeouts}

/-- A call that leaves the connection open: it came back, sent once, and the response says so. -/
structure Call.Clean (call : Call) : Prop where
  returned : call.performance.crashes = false
  sentOnce : sendings call.performance.actions = 1
  saysKeepAlive : call.answer.connectionWords = ["keep-alive"]

/-- Clean calls keep a session open, and only they do. -/
theorem Call.clean_iff {call : Call} : call.Clean ↔ call.keepsOpen = true := by
  -- The header lines say of the connection what becomes of it.
  have said : call.answer.connectionWords = ["keep-alive"] ↔ call.answer.keepAlive = true := by
    rw [Answer.connectionWords_eq]
    cases call.answer.keepAlive <;> decide
  simp only [keepsOpen, Bool.and_eq_true, Bool.not_eq_true', beq_iff_eq, ← said]
  exact ⟨fun ⟨returned, sentOnce, stays⟩ => ⟨⟨returned, sentOnce⟩, stays⟩,
    fun ⟨⟨returned, sentOnce⟩, stays⟩ => ⟨returned, sentOnce, stays⟩⟩

/-- The statuses of refusals. -/
def refusalStatuses : List Status := [.badRequest, .contentTooLarge, .requestTimeout]

namespace Turn

/-- Only the last call of a turn may fail to keep the session open, and then nothing is refused. -/
theorem keepsOpen_of_mem_take (handler : Handler σ) (maxPayload : Nat) (kept : σ)
    (buffer : Bytes) :
    (∀ call ∈ (take handler maxPayload kept buffer).calls.dropLast, call.keepsOpen = true) ∧
      ((take handler maxPayload kept buffer).refusal.isSome = true →
        ∀ call ∈ (take handler maxPayload kept buffer).calls, call.keepsOpen = true) := by
  fun_induction take handler maxPayload kept buffer with
  | case1 kept buffer waits => exact ⟨by simp, by simp⟩
  | case2 kept buffer error fails => exact ⟨by simp, by simp⟩
  | case3 kept buffer request consumed comes call next keeps ih =>
    -- The first call keeps the session open, since the turn went on.
    obtain ⟨before, refused⟩ := ih
    refine ⟨fun found member => ?_, fun isRefused found member => ?_⟩
    · rw [behind, List.singleton_append] at member
      cases others : (take handler maxPayload next (buffer.drop consumed)).calls with
      | nil =>
        -- Then the first call is the last one, of which nothing is said.
        simp [others] at member
      | cons second rest =>
        rw [others, List.dropLast_cons_cons] at member
        rcases List.mem_cons.1 member with rfl | member
        · exact keeps
        · exact before found (by rw [others]; exact member)
    · rcases List.mem_cons.1 member with rfl | member
      · exact keeps
      · exact refused isRefused found member
  | case4 kept buffer request consumed comes call next shut => exact ⟨by simp, by simp⟩

/-- A turn refuses with the status that goes with a fault. -/
theorem refusal_take (kept : σ) (buffer : Bytes) :
    ∀ status ∈ (take handler maxPayload kept buffer).refusal, status ∈ refusalStatuses := by
  -- Only a fault is refused, and there are two kinds of faults.
  fun_induction take handler maxPayload kept buffer with
  | case1 kept buffer waits => simp
  | case2 kept buffer error fails =>
    intro status refused
    cases refused
    cases error <;> simp [Session.refusalStatus, refusalStatuses]
  | case3 kept buffer request consumed comes call next keeps ih => exact ih
  | case4 kept buffer request consumed comes call next shut => simp

end Turn

namespace Service

/-- What is true of a service at any time, with the refusal that was written, if there was one. -/
structure Sound (maxPayload : Nat) (service : Service σ) (refusal : Option Status) : Prop where
  output : service.output = answerBytes service.calls ++ refusalBytes refusal
  status : ∀ status ∈ refusal, status ∈ refusalStatuses
  refused : refusal.isSome = true → service.session.closing = true
  before : ∀ call ∈ service.calls.dropLast, call.keepsOpen = true
  all : service.session.closing = false ∨ refusal.isSome = true →
    ∀ call ∈ service.calls, call.keepsOpen = true
  requests : ∃ rest, RequestsOf maxPayload service.received (service.calls.map Call.request) rest ∧
    (service.session.closing = false → rest = service.session.readBuffer)

/-- Nothing was refused on a session that is open. -/
theorem Sound.unrefused {service : Service σ} {refusal : Option Status}
    (sound : service.Sound maxPayload refusal) (isOpen : service.session.closing = false) :
    refusal = none := by
  cases refusal with
  | none => rfl
  | some status =>
    -- A refusal ends the session.
    rw [sound.refused rfl] at isOpen
    cases isOpen

/-- A new session has written nothing. -/
theorem sound_opened (kept : σ) (now : Instant) : (opened kept now).Sound maxPayload none where
  output := rfl
  status := by simp
  refused := by simp
  before := by simp [opened]
  all := by simp [opened]
  requests := ⟨[], .none [], fun _ => rfl⟩

/-- What comes in stands behind everything that has come before. -/
theorem Sound.fill {service : Service σ} {refusal : Option Status}
    (sound : service.Sound maxPayload refusal) (arrival : Arrival) :
    (service.fill arrival).Sound maxPayload refusal where
  output := sound.output
  status := sound.status
  refused := sound.refused
  before := sound.before
  all := sound.all
  requests := by
    -- The requests are found again in front of the bytes that come in.
    obtain ⟨rest, these, left⟩ := sound.requests
    exact ⟨rest ++ arrival.bytes, these.append arrival.bytes,
      fun isOpen => congrArg (· ++ arrival.bytes) (left isOpen)⟩

/-- What goes out was written before. -/
theorem Sound.flush {service : Service σ} {refusal : Option Status}
    (sound : service.Sound maxPayload refusal) (departure : Departure) :
    (service.flush departure).Sound maxPayload refusal where
  output := (output_flush service departure).trans sound.output
  status := sound.status
  refused := sound.refused
  before := sound.before
  all := sound.all
  requests := sound.requests

/-- Looking at a session that is closing changes nothing about it. -/
theorem Sound.dispatch_of_closing {service : Service σ} {refusal : Option Status}
    (sound : service.Sound maxPayload refusal) (shut : service.session.closing = true)
    (now : Instant) : (service.dispatch handler maxPayload now).Sound maxPayload refusal := by
  obtain ⟨closing, _, calls, output, received⟩ :=
    Service.dispatch_of_closing handler maxPayload shut now
  constructor
  · rw [output, calls]
    exact sound.output
  · exact sound.status
  · exact fun _ => closing
  · rw [calls]
    exact sound.before
  · -- The session stays closed, so that only a refusal can say something about the last call.
    rw [calls]
    rintro (isOpen | refused)
    · rw [closing] at isOpen
      cases isOpen
    · exact sound.all (.inr refused)
  · obtain ⟨rest, these, _⟩ := sound.requests
    rw [calls, received]
    refine ⟨rest, these, fun isOpen => ?_⟩
    rw [closing] at isOpen
    cases isOpen

/-- One turn adds the answers of its calls, and its refusal if it ends with one. -/
theorem Sound.dispatch_of_open {service : Service σ} (sound : service.Sound maxPayload none)
    (isOpen : service.session.closing = false) (now : Instant) :
    (service.dispatch handler maxPayload now).Sound maxPayload
      (Turn.take handler maxPayload service.kept service.session.readBuffer).refusal := by
  -- Every call so far has kept the session open, and the turn goes on with what is left.
  have clean := sound.all (.inl isOpen)
  obtain ⟨closing, _, calls, output, received, buffer, _⟩ :=
    Service.dispatch_of_open handler maxPayload isOpen now
  obtain ⟨last, refusedAfter⟩ := Turn.keepsOpen_of_mem_take handler maxPayload
    service.kept service.session.readBuffer
  constructor
  · rw [output, calls, sound.output, answerBytes_append, Turn.output, refusalBytes,
      List.append_nil, List.append_assoc]
  · exact Turn.refusal_take service.kept service.session.readBuffer
  · intro refused
    rw [closing, Turn.closes, refused]
    rfl
  · -- The last call of all is the last one of the turn, unless the turn has none.
    rw [calls]
    intro call member
    cases taken : (Turn.take handler maxPayload service.kept service.session.readBuffer).calls with
    | nil =>
      rw [taken, List.append_nil] at member
      exact clean call (List.dropLast_subset _ member)
    | cons first others =>
      rw [List.dropLast_append_of_ne_nil (by rw [taken]; exact List.cons_ne_nil _ _)] at member
      rcases List.mem_append.1 member with member | member
      · exact clean call member
      · exact last call member
  · rw [calls]
    intro goes call member
    rcases List.mem_append.1 member with member | member
    · exact clean call member
    · -- Either the session is open still, or a refusal came behind all the calls.
      rcases goes with goesOn | refused
      · rw [closing, Bool.or_eq_false_iff, Turn.closes_eq_false_iff] at goesOn
        exact goesOn.1.2 call member
      · exact refusedAfter refused call member
  · -- The requests of the turn stand behind those that were handed over before.
    obtain ⟨front, these, left⟩ := sound.requests
    obtain ⟨rest, those, leftover, _⟩ := Turn.requestsOf_take handler maxPayload
      service.kept service.session.readBuffer
    rw [left isOpen] at these
    refine ⟨rest, ?_, fun goesOn => ?_⟩
    · rw [calls, received, List.map_append]
      exact these.trans those
    · rw [closing] at goesOn
      rw [buffer]
      exact leftover (Bool.or_eq_false_iff.1 goesOn).1

/-- Whatever is answered adds the answers of calls, and possibly a refusal. -/
theorem Sound.dispatch {service : Service σ} {refusal : Option Status}
    (sound : service.Sound maxPayload refusal) (now : Instant) :
    ∃ refusal, (service.dispatch handler maxPayload now).Sound maxPayload refusal := by
  cases shut : service.session.closing with
  | true => exact ⟨refusal, sound.dispatch_of_closing shut now⟩
  | false =>
    obtain rfl := sound.unrefused shut
    exact ⟨_, sound.dispatch_of_open shut now⟩

/-- Giving up on the peer may add a refusal, and ends the session. -/
theorem Sound.timeOut {service : Service σ} {refusal : Option Status}
    (sound : service.Sound maxPayload refusal) (timeouts : Timeouts) :
    ∃ refusal, (service.timeOut timeouts).Sound maxPayload refusal := by
  unfold Service.timeOut
  split
  · rename_i due
    -- Only a session that is open has a deadline.
    have isOpen : service.session.closing = false := by
      cases shut : service.session.closing with
      | false => rfl
      | true => simp [Session.deadline?, shut] at due
    obtain rfl := sound.unrefused isOpen
    have clean := sound.all (.inl isOpen)
    obtain ⟨rest, these, _⟩ := sound.requests
    unfold Session.timeOut
    split
    · -- A request was begun, and is refused.
      refine ⟨some .requestTimeout, ?_, ?_, fun _ => rfl, sound.before, fun _ => clean,
        rest, these, fun goesOn => Bool.noConfusion goesOn⟩
      · rw [output_refuse, sound.output, refusalBytes, List.append_nil]
      · intro status refused
        cases refused
        simp [refusalStatuses]
    · -- Nothing was begun, and the session ends without a word.
      refine ⟨none, sound.output, ?_, fun _ => rfl, sound.before, fun _ => clean, rest, these,
        fun goesOn => Bool.noConfusion goesOn⟩
      intro status refused
      cases refused
  · exact ⟨refusal, sound⟩

/-- Every act keeps what is true of a service. -/
theorem Sound.step (handler : Handler σ) (timeouts : Timeouts) {service : Service σ}
    {refusal : Option Status} (sound : service.Sound maxPayload refusal) (act : ServiceAct) :
    ∃ refusal, (service.step handler maxPayload timeouts act).Sound maxPayload refusal := by
  cases act with
  | fill arrival => exact ⟨refusal, sound.fill arrival⟩
  | dispatch now => exact sound.dispatch now
  | flush departure => exact ⟨refusal, sound.flush departure⟩
  | timeOut => exact sound.timeOut timeouts

/-- A run keeps what is true of a service. -/
theorem Sound.run {service : Service σ} {refusal : Option Status}
    (sound : service.Sound maxPayload refusal) (acts : List ServiceAct) :
    ∃ refusal, (service.run handler maxPayload timeouts acts).Sound maxPayload refusal := by
  -- The refusal is carried along, since a later act may bring one.
  induction acts generalizing service refusal with
  | nil => exact ⟨refusal, sound⟩
  | cons act rest ih =>
    obtain ⟨next, sound⟩ := sound.step handler timeouts act
    exact ih sound

/-- A session that is closing does not time out, since it has no deadline. -/
theorem timeOut_of_closing (timeouts : Timeouts) {service : Service σ}
    (shut : service.session.closing = true) : service.timeOut timeouts = service := by
  have untimed : (service.session.deadline? timeouts).isSome = false := by
    simp [Session.deadline?, shut]
  simp [Service.timeOut, untimed]

/-- A session that is closing stays so under every act, makes no call and writes nothing. -/
theorem step_of_closing (handler : Handler σ) (maxPayload : Nat) (timeouts : Timeouts)
    {service : Service σ} (shut : service.session.closing = true) (act : ServiceAct) :
    (service.step handler maxPayload timeouts act).session.closing = true ∧
      (service.step handler maxPayload timeouts act).calls = service.calls ∧
      (service.step handler maxPayload timeouts act).output = service.output := by
  cases act with
  | fill arrival => exact ⟨shut, rfl, rfl⟩
  | dispatch now =>
    obtain ⟨closing, _, calls, output, _⟩ :=
      dispatch_of_closing handler maxPayload shut now
    exact ⟨closing, calls, output⟩
  | flush departure => exact ⟨shut, rfl, output_flush service departure⟩
  | timeOut =>
    rw [step, timeOut_of_closing timeouts shut]
    exact ⟨shut, rfl, rfl⟩

/-- A session that is closing stays so in every run, makes no call and writes nothing. -/
theorem run_of_closing (handler : Handler σ) (maxPayload : Nat) (timeouts : Timeouts)
    {service : Service σ} (shut : service.session.closing = true) (acts : List ServiceAct) :
    (service.run handler maxPayload timeouts acts).session.closing = true ∧
      (service.run handler maxPayload timeouts acts).calls = service.calls ∧
      (service.run handler maxPayload timeouts acts).output = service.output := by
  induction acts generalizing service with
  | nil => exact ⟨shut, rfl, rfl⟩
  | cons act rest ih =>
    obtain ⟨closing, calls, output⟩ :=
      step_of_closing handler maxPayload timeouts shut act
    obtain ⟨stays, called, wrote⟩ := ih closing
    exact ⟨stays, called.trans calls, wrote.trans output⟩

/-- At some time in a run, nothing was begun and the time for beginning something was up. -/
def Lapsed (handler : Handler σ) (maxPayload : Nat) (timeouts : Timeouts) (service : Service σ)
    (acts : List ServiceAct) : Prop :=
  ∃ before after, acts = before ++ .timeOut :: after ∧
    (service.run handler maxPayload timeouts before).session.started = none ∧
    ((service.run handler maxPayload timeouts before).session.deadline? timeouts).isSome = true

/-- Why a service that was open closes in some acts. -/
inductive ClosesFor (handler : Handler σ) (maxPayload : Nat) (timeouts : Timeouts)
    (start service : Service σ) (acts : List ServiceAct) : Prop where
  /-- Behind the answers of the calls something was refused. -/
  | refusal {status : Status}
      (output : service.output = answerBytes service.calls ++ refusalBytes (some status))
  | unclean {call : Call} (called : call ∈ service.calls) (unclean : ¬call.Clean)
  /-- The peer sends nothing more. -/
  | peer (ended : service.session.peerClosed = true)
  | lapse (lapsed : start.Lapsed handler maxPayload timeouts acts)

/-- An act does not take back that the peer sends nothing more. -/
theorem peerClosed_step (handler : Handler σ) (maxPayload : Nat) (timeouts : Timeouts)
    {service : Service σ} (ended : service.session.peerClosed = true) (act : ServiceAct) :
    (service.step handler maxPayload timeouts act).session.peerClosed = true := by
  cases act with
  | fill arrival =>
    show (service.session.peerClosed || _) = true
    rw [ended, Bool.true_or]
  | dispatch now =>
    cases shut : service.session.closing with
    | false =>
      obtain ⟨_, _, _, _, _, _, peer⟩ := dispatch_of_open handler maxPayload shut now
      exact peer.trans ended
    | true =>
      -- Nothing is answered, and the time is taken.
      show (service.dispatch handler maxPayload now).session.peerClosed = true
      unfold dispatch Session.dispatch
      rw [Session.answerAll_of_closing shut]
      dsimp only
      split <;> exact ended
  | flush departure => exact ended
  | timeOut =>
    show (service.timeOut timeouts).session.peerClosed = true
    unfold timeOut Session.timeOut
    repeat' split
    all_goals exact ended

/-- No run takes back that the peer sends nothing more. -/
theorem peerClosed_run (handler : Handler σ) (maxPayload : Nat) (timeouts : Timeouts)
    {service : Service σ} (ended : service.session.peerClosed = true) (acts : List ServiceAct) :
    (service.run handler maxPayload timeouts acts).session.peerClosed = true := by
  induction acts generalizing service with
  | nil => exact ended
  | cons act rest ih => exact ih (peerClosed_step handler maxPayload timeouts ended act)

/-- An act that closes an open session does so for a reason. -/
theorem Sound.closesFor_step {start service : Service σ} {before : List ServiceAct}
    (reached : start.run handler maxPayload timeouts before = service)
    (sound : service.Sound maxPayload none) (isOpen : service.session.closing = false)
    {act : ServiceAct} (after : List ServiceAct)
    (shut : (service.step handler maxPayload timeouts act).session.closing = true) :
    ClosesFor handler maxPayload timeouts start (service.step handler maxPayload timeouts act)
      (before ++ act :: after) := by
  cases act with
  | fill arrival => exact absurd (shut.symm.trans isOpen) nofun
  | flush departure => exact absurd (shut.symm.trans isOpen) nofun
  | dispatch now =>
    -- The turn closes it, or the end of the stream.
    obtain ⟨closing, _, calls, _, _, _, peer⟩ :=
      Service.dispatch_of_open handler maxPayload isOpen now
    have ends := closing.symm.trans shut
    rw [Bool.or_eq_true] at ends
    rcases ends with ends | ended
    · have turned : (service.dispatch handler maxPayload now).Sound maxPayload _ :=
        sound.dispatch_of_open isOpen now
      have output := turned.output
      cases refused : (Turn.take handler maxPayload service.kept
          service.session.readBuffer).refusal with
      | some status =>
        rw [refused] at output
        exact .refusal output
      | none =>
        -- Without a refusal it is one of the calls that closes the session.
        rw [Turn.closes, refused, Option.isSome_none, Bool.false_or, Bool.not_eq_true',
          List.all_eq_false] at ends
        obtain ⟨call, called, shuts⟩ := ends
        have unclean : ¬call.Clean := fun clean => shuts (Call.clean_iff.1 clean)
        exact .unclean (calls.symm ▸ List.mem_append_right _ called) unclean
    · exact .peer (peer.trans ended)
  | timeOut =>
    change (service.timeOut timeouts).session.closing = true at shut
    show ClosesFor handler maxPayload timeouts start (service.timeOut timeouts) _
    unfold Service.timeOut at shut ⊢
    split at shut
    · rename_i due
      rw [if_pos due]
      cases begun : service.session.started with
      | none => exact .lapse ⟨before, after, rfl, reached.symm ▸ begun, reached.symm ▸ due⟩
      | some since =>
        -- The request that was begun is refused.
        have refused : service.session.timeOut = service.session.refuse .requestTimeout := by
          rw [Session.timeOut, begun]
          rfl
        rw [refused]
        exact .refusal (by rw [output_refuse, sound.output, refusalBytes, List.append_nil])
    · exact absurd (shut.symm.trans isOpen) nofun

/-- A run that ends with a closing session has one act that closes it, before which it is open. -/
theorem exists_closing_act {service : Service σ} (isOpen : service.session.closing = false)
    {acts : List ServiceAct}
    (shut : (service.run handler maxPayload timeouts acts).session.closing = true) :
    ∃ before act after, acts = before ++ act :: after ∧
      (service.run handler maxPayload timeouts before).session.closing = false ∧
      ((service.run handler maxPayload timeouts before).step handler maxPayload timeouts
        act).session.closing = true := by
  induction acts generalizing service with
  | nil => exact absurd (shut.symm.trans isOpen) nofun
  | cons act rest ih =>
    cases next : (service.step handler maxPayload timeouts act).session.closing with
    | true => exact ⟨[], act, rest, rfl, isOpen, next⟩
    | false =>
      obtain ⟨before, last, after, rfl, goesOn, shuts⟩ := ih next shut
      exact ⟨act :: before, last, after, rfl, goesOn, shuts⟩

/-- A new session that is closing after some acts has closed for a reason. -/
theorem closesFor_run (handler : Handler σ) (maxPayload : Nat) (timeouts : Timeouts) (kept : σ)
    (now : Instant) {acts : List ServiceAct}
    (shut : ((opened kept now).run handler maxPayload timeouts acts).session.closing = true) :
    ClosesFor handler maxPayload timeouts (opened kept now)
      ((opened kept now).run handler maxPayload timeouts acts) acts := by
  obtain ⟨before, act, after, rfl, isOpen, shuts⟩ := exists_closing_act rfl shut
  obtain ⟨refusal, sound⟩ : ∃ refusal,
      ((opened kept now).run handler maxPayload timeouts before).Sound maxPayload refusal :=
    (sound_opened kept now).run before
  obtain rfl := sound.unrefused isOpen
  have reason := sound.closesFor_step rfl isOpen after shuts
  -- From there on nothing is called or written any more.
  obtain ⟨_, calls, output⟩ := run_of_closing handler maxPayload timeouts shuts after
  have whole : (opened kept now).run handler maxPayload timeouts (before ++ act :: after) =
      (((opened kept now).run handler maxPayload timeouts before).step handler maxPayload timeouts
        act).run handler maxPayload timeouts after := by
    rw [run, List.foldl_append]
    rfl
  rw [whole]
  cases reason with
  | refusal wrote => exact .refusal (by rw [output, calls]; exact wrote)
  | unclean called unclean => exact .unclean (calls.symm ▸ called) unclean
  | peer ended => exact .peer (peerClosed_run handler maxPayload timeouts ended after)
  | lapse lapsed => exact .lapse lapsed

/--
The transcript of a session, whatever comes in, goes out and runs out of time, and whatever the
handler does.

What was written is one answer for each call, and at most one refusal behind them, which ends the
session. The calls are for the requests that came in, in their order, and what is behind them waits
in the buffer until it is answered or the session closes. Every call after which the session went on
was clean. Once the session is closing, there are no more calls and no more output. It closes for
nothing but a refusal, an unclean call, the end of what the peer sends, or a time in which nothing
was begun.
-/
theorem transcript (handler : Handler σ) (maxPayload : Nat) (timeouts : Timeouts) (kept : σ)
    (now : Instant) (acts later : List ServiceAct) :
    let service := (opened kept now).run handler maxPayload timeouts acts
    (∃ refusal : Option Status,
      service.output = answerBytes service.calls ++ refusalBytes refusal ∧
      (∀ status ∈ refusal, status ∈ refusalStatuses ∧ service.session.closing = true) ∧
      (service.session.closing = false ∨ refusal ≠ none → ∀ call ∈ service.calls, call.Clean)) ∧
    (∀ call ∈ service.calls.dropLast, call.Clean) ∧
    (∃ rest, RequestsOf maxPayload service.received (service.calls.map Call.request) rest ∧
      (service.session.closing = false → rest = service.session.readBuffer)) ∧
    (∀ time,
      (service.dispatch handler maxPayload time).session.closing = false →
        decodeRequest maxPayload
          (service.dispatch handler maxPayload time).session.readBuffer = .incomplete) ∧
    (service.session.closing = true →
      (service.run handler maxPayload timeouts later).calls = service.calls ∧
      (service.run handler maxPayload timeouts later).output = service.output ∧
      (service.run handler maxPayload timeouts later).session.closing = true) ∧
    (service.session.closing = true →
      ClosesFor handler maxPayload timeouts (opened kept now) service acts) := by
  intro service
  -- Everything but what is said of a session that is closing is what every act keeps.
  obtain ⟨refusal, sound⟩ : ∃ refusal, service.Sound maxPayload refusal :=
    (sound_opened kept now).run acts
  refine ⟨⟨refusal, sound.output, ?_, ?_⟩, ?_, sound.requests, ?_, ?_, ?_⟩
  · intro status refused
    exact ⟨sound.status status refused, sound.refused (by rw [refused]; rfl)⟩
  · intro goes call member
    refine Call.clean_iff.2 (sound.all ?_ call member)
    exact goes.imp id Option.isSome_iff_ne_none.2
  · exact fun call member => Call.clean_iff.2 (sound.before call member)
  · exact fun time isOpen => incomplete_of_open_dispatch handler maxPayload time isOpen
  · intro shut
    obtain ⟨closing, calls, output⟩ := run_of_closing handler maxPayload timeouts shut later
    exact ⟨calls, output, closing⟩
  · exact closesFor_run handler maxPayload timeouts kept now

end Service

end HttpEngine
