import HttpEngine.Inbound.Worker
import HttpEngine.Proofs.Inbound.Deadline
import HttpEngine.Proofs.Roster
import Mathlib.Data.List.Basic
import Mathlib.Tactic.Tauto

/-!
What a worker does about the sessions whose time has run out. Giving up on one of them touches no
other, so that giving up on all of them, one after the other, comes to the same for each as giving
up on that one alone.
-/

namespace HttpEngine

variable {σ : Type}

namespace Instant

/-- The earliest of some points is one of them. -/
theorem mem_of_earliest? {times : List Instant} {time : Instant}
    (first : earliest? times = some time) : time ∈ times := by
  have among (rest : List Instant) (t : Instant) : rest.foldl earlier t ∈ t :: rest := by
    induction rest generalizing t with
    | nil => exact List.mem_singleton_self t
    | cons next rest ih =>
      -- The earlier of the first two is one of the two.
      have either : t.earlier next = t ∨ t.earlier next = next := by
        unfold earlier
        split
        · exact .inl rfl
        · exact .inr rfl
      -- The fold goes on from the earlier one of the first two, which is one of the times.
      have here := ih (t.earlier next)
      rw [List.foldl_cons]
      rw [List.mem_cons] at here
      rcases here with here | behind
      · rw [here]
        rcases either with same | same <;> simp [same]
      · exact List.mem_cons_of_mem t (List.mem_cons_of_mem next behind)
  cases times with
  | nil => cases first
  | cons t rest =>
    cases first
    exact among rest t

end Instant

/-- A write fails only while bytes are left. -/
theorem Departure.isNone_result_iff {departure : Departure} {buffer : Bytes} :
    (departure.result buffer).toOption.isNone = true ↔
      departure.failure ≠ none ∧ departure.room < buffer.length := by
  unfold result
  -- Without an error a departure has a result, however little it took.
  cases departure.failure with
  | none => exact iff_of_false Bool.false_ne_true fun fails => fails.1 rfl
  | some error =>
    dsimp only
    by_cases short : departure.room < buffer.length
    · rw [if_pos short]
      exact iff_of_true rfl ⟨nofun, short⟩
    · rw [if_neg short]
      exact iff_of_false Bool.false_ne_true fun fails => short fails.2

namespace Session

variable {session : Session} {io : SessionIo}

/-- The answer to a request that has not come in time. -/
def timeoutBytes : Bytes := utf8Bytes
  "HTTP/1.1 408 Request Timeout\r\nServer: ferry/0.0.1\r\nContent-Length: 0\r\nConnection: close\r\n\r\n"

/-- Whether the time of a session has run out. -/
def IsDue (session : Session) (timeouts : Timeouts) (now : Instant) : Prop :=
  ∃ due, session.deadline? timeouts = some due ∧ due.nanos ≤ now.nanos

/--
Everything that a session has to write when it is given up on: its earlier output, and behind it the
answer to a request that was begun.
-/
def lastWords (session : Session) : Bytes :=
  session.writeBuffer ++ if session.started.isSome then timeoutBytes else []

/-- Whether a session that is given up on may write the rest of its last words later. -/
def Lingers (session : Session) (io : SessionIo) : Prop :=
  io.departure.room < session.lastWords.length ∧ io.departure.failure = none ∧
    io.watchFailure = none

/-- While it is open, a session has begun a request exactly if a part of one is there. -/
def IsTimed (session : Session) : Prop :=
  session.closing = false → (session.started = none ↔ session.readBuffer = [])

/-- What is left of a session when the socket has taken what it takes, unless it is over. -/
def settled? (session : Session) (io : SessionIo) : Option Session :=
  if (io.departure.result session.writeBuffer).toOption.isNone ||
      (session.flush io.departure).isDone || io.watchFailure.isSome then none
  else some (session.flush io.departure)

/-- A request that was begun is answered, and an idle session writes nothing more. -/
theorem writeBuffer_timeOut (session : Session) :
    session.timeOut.writeBuffer = session.lastWords := by
  have answer : encodeResponse (refusal .requestTimeout) false = timeoutBytes := by
    decide +kernel
  -- Only a session that is in the middle of a request is told anything.
  unfold timeOut lastWords
  split
  · rw [refuse, answer]
  · rw [List.append_nil]

/-- A session that is given up on is closing. -/
theorem closing_timeOut (session : Session) : session.timeOut.closing = true := by
  unfold timeOut
  split <;> rfl

/-- A session that is given up on is done if the socket has room for its last words. -/
theorem isDone_timeOut_iff {departure : Departure} :
    (session.timeOut.flush departure).isDone = true ↔
      session.lastWords.length ≤ departure.room := by
  rw [isDone, flush, closing_timeOut, writeBuffer_timeOut, Departure.left, Bool.true_and,
    List.isEmpty_iff, List.drop_eq_nil_iff]

/-- A session that is given up on stays only to write the rest of its last words. -/
theorem settled?_timeOut_eq_some_iff {left : Session} :
    session.timeOut.settled? io = some left ↔
      session.Lingers io ∧ session.timeOut.flush io.departure = left := by
  have ends : ((io.departure.result session.timeOut.writeBuffer).toOption.isNone ||
      (session.timeOut.flush io.departure).isDone || io.watchFailure.isSome) = true ↔
      ¬ session.Lingers io := by
    rw [Bool.or_eq_true, Bool.or_eq_true, Departure.isNone_result_iff, isDone_timeOut_iff,
      writeBuffer_timeOut, Option.isSome_iff_ne_none, Lingers]
    -- What has room for everything does not fail.
    by_cases short : io.departure.room < session.lastWords.length
    · have more : ¬ session.lastWords.length ≤ io.departure.room := by omega
      simp only [short, more]
      tauto
    · simp [short, Nat.not_lt.1 short]
  unfold settled?
  -- A session lingers if it is left with something to write and nobody fails.
  by_cases lingers : session.Lingers io
  · rw [if_neg (mt ends.1 (not_not_intro lingers)), Option.some_inj]
    simp [lingers]
  · rw [if_pos (ends.2 lingers)]
    simp [lingers]

/-- What is left of a session that is given up on has the rest of its last words to write. -/
theorem settled?_timeOut_cases (session : Session) (io : SessionIo) :
    (session.Lingers io ∧ ∃ left, session.timeOut.settled? io = some left ∧
      left.closing = true ∧
      io.departure.taken session.lastWords ++ left.writeBuffer = session.lastWords) ∨
    ¬ session.Lingers io ∧ session.timeOut.settled? io = none := by
  by_cases lingers : session.Lingers io
  · refine .inl ⟨lingers, session.timeOut.flush io.departure,
      settled?_timeOut_eq_some_iff.2 ⟨lingers, rfl⟩, session.closing_timeOut, ?_⟩
    rw [flush, writeBuffer_timeOut]
    exact io.departure.taken_append_left session.lastWords
  · refine .inr ⟨lingers, ?_⟩
    rw [Option.eq_none_iff_forall_ne_some]
    exact fun left stays => lingers (settled?_timeOut_eq_some_iff.1 stays).1

/-- A session that is closing is never due. -/
theorem not_isDue_of_closing (shut : session.closing = true) (timeouts : Timeouts)
    (now : Instant) : ¬ session.IsDue timeouts now := by
  rintro ⟨due, reported, -⟩
  rw [open_of_deadline? reported] at shut
  cases shut

end Session

namespace Worker

variable {worker : Worker} {key : Nat} {session : Session}

section Settling

/-- Settling one session touches no other one. -/
theorem get?_settle {old : Session} (present : worker.sessions.get? key = some old)
    (session : Session) (io : SessionIo) (other : Nat) :
    (worker.settle key session io).1.sessions.get? other =
      if key = other then session.settled? io else worker.sessions.get? other := by
  unfold settle Session.settled?
  dsimp only
  split
  · rw [close, Roster.get?_erase]
  · rw [Roster.get?_set present]

/-- A session that is settled sends what the socket takes of its output. -/
theorem sent_settle (worker : Worker) (key : Nat) (session : Session) (io : SessionIo) :
    (worker.settle key session io).2 = io.departure.taken session.writeBuffer := by
  unfold settle
  dsimp only
  split <;> rfl

/-- Settling a session does not touch the limits of the worker. -/
theorem limits_settle (worker : Worker) (key : Nat) (session : Session) (io : SessionIo) :
    (worker.settle key session io).1.timeouts = worker.timeouts ∧
      (worker.settle key session io).1.maxPayload = worker.maxPayload := by
  unfold settle
  dsimp only
  split <;> exact ⟨rfl, rfl⟩

end Settling

section GivingUp

variable {io : Nat → SessionIo} {keys : List Nat}

/-- A key without a session is passed over. -/
theorem giveUp_of_absent (absent : worker.sessions.get? key = none) :
    worker.giveUp io (key :: keys) = worker.giveUp io keys := by
  rw [giveUp, absent]

/-- A session is given up on in front of the others. -/
theorem giveUp_of_present (present : worker.sessions.get? key = some session) :
    worker.giveUp io (key :: keys) =
      let next := worker.settle key session.timeOut (io key)
      ((next.1.giveUp io keys).1, (key, next.2) :: (next.1.giveUp io keys).2) := by
  rw [giveUp, present]

/-- Giving up on some sessions comes to the same for each of them as giving up on it alone. -/
theorem get?_giveUp (distinct : keys.Nodup) (worker : Worker) (other : Nat) :
    (worker.giveUp io keys).1.sessions.get? other =
      if other ∈ keys then
        (worker.sessions.get? other).bind fun session => session.timeOut.settled? (io other)
      else worker.sessions.get? other := by
  induction keys generalizing worker with
  | nil => rfl
  | cons key rest ih =>
    obtain ⟨once, distinct⟩ := List.nodup_cons.1 distinct
    cases present : worker.sessions.get? key with
    | none =>
      -- A key without a session is passed over.
      rw [giveUp_of_absent present, ih distinct]
      by_cases same : other = key
      · subst same
        simp [once, present]
      · simp [same]
    | some session =>
      rw [giveUp_of_present present]
      dsimp only
      rw [ih distinct, get?_settle present]
      by_cases same : other = key
      · -- The key does not come again, so that the session stays as it was settled.
        subst same
        simp [once, present]
      · simp [same, Ne.symm same]

/-- Each session that is given up on sends what the socket takes of its last words. -/
theorem sent_giveUp (distinct : keys.Nodup) (worker : Worker) :
    (worker.giveUp io keys).2 = keys.filterMap fun key =>
      (worker.sessions.get? key).map fun session =>
        (key, (io key).departure.taken session.lastWords) := by
  induction keys generalizing worker with
  | nil => rfl
  | cons key rest ih =>
    obtain ⟨once, distinct⟩ := List.nodup_cons.1 distinct
    cases present : worker.sessions.get? key with
    | none =>
      -- An absent session is not told anything.
      rw [giveUp_of_absent present, ih distinct, List.filterMap_cons, present]
      rfl
    | some session =>
      rw [giveUp_of_present present, List.filterMap_cons, present]
      dsimp only [Option.map_some]
      rw [ih distinct, sent_settle, Session.writeBuffer_timeOut]
      congr 1
      refine List.filterMap_congr fun other member => ?_
      -- The others were not touched when this one was settled.
      have differs : key ≠ other := by
        rintro rfl
        exact once member
      rw [get?_settle present, if_neg differs]

/-- Nothing else is sent. -/
theorem mem_sent_giveUp (distinct : keys.Nodup) {bytes : Bytes} :
    (key, bytes) ∈ (worker.giveUp io keys).2 ↔
      key ∈ keys ∧ ∃ session, worker.sessions.get? key = some session ∧
        bytes = (io key).departure.taken session.lastWords := by
  -- What is sent is looked for at the keys that are given up.
  rw [sent_giveUp distinct, List.mem_filterMap]
  constructor
  · rintro ⟨given, member, sends⟩
    obtain ⟨session, present, same⟩ := Option.map_eq_some_iff.1 sends
    cases same
    exact ⟨member, session, present, rfl⟩
  · rintro ⟨member, session, present, rfl⟩
    exact ⟨key, member, Option.map_eq_some_iff.2 ⟨session, present, rfl⟩⟩

/-- No session sends its last words twice. -/
theorem nodup_sent_giveUp (distinct : keys.Nodup) :
    ((worker.giveUp io keys).2.map Prod.fst).Nodup := by
  rw [sent_giveUp distinct, List.Nodup, List.pairwise_map]
  refine List.Pairwise.filterMap _ (fun key other differs entry sends last also => ?_) distinct
  obtain ⟨_, _, rfl⟩ := Option.map_eq_some_iff.1 sends
  obtain ⟨_, _, rfl⟩ := Option.map_eq_some_iff.1 also
  exact differs

/-- Giving up on sessions does not touch the limits of the worker. -/
theorem limits_giveUp (io : Nat → SessionIo) (keys : List Nat) (worker : Worker) :
    (worker.giveUp io keys).1.timeouts = worker.timeouts ∧
      (worker.giveUp io keys).1.maxPayload = worker.maxPayload := by
  induction keys generalizing worker with
  | nil => exact ⟨rfl, rfl⟩
  | cons key rest ih =>
    -- The limits are those of the worker, which no session can change.
    cases present : worker.sessions.get? key with
    | none =>
      rw [giveUp_of_absent present]
      exact ih worker
    | some session =>
      obtain ⟨timeouts, maxPayload⟩ := limits_settle worker key session.timeOut (io key)
      rw [giveUp_of_present present]
      exact ⟨(ih _).1.trans timeouts, (ih _).2.trans maxPayload⟩

end GivingUp

section Expiring

/-- A worker looks for the sessions that are due. -/
theorem isExpired_iff {timeouts : Timeouts} {now : Instant} :
    isExpired timeouts now session = true ↔ session.IsDue timeouts now := by
  unfold isExpired Session.IsDue
  rw [Option.any_eq_true]
  simp [Instant.notAfter]

/-- The keys that a worker finds are those of the sessions that are due. -/
theorem mem_expiredKeys {now : Instant} :
    key ∈ worker.expiredKeys now ↔ ∃ session, worker.sessions.get? key = some session ∧
      session.IsDue worker.timeouts now := by
  simp only [expiredKeys, List.mem_map, List.mem_filter, Prod.exists, Roster.mem_entries,
    isExpired_iff]
  -- Expired are exactly those sessions that are due.
  constructor
  · rintro ⟨found, session, ⟨present, due⟩, rfl⟩
    exact ⟨session, present, due⟩
  · rintro ⟨session, present, due⟩
    exact ⟨key, session, ⟨present, due⟩, rfl⟩

/-- A worker finds each key once. -/
theorem nodup_expiredKeys (worker : Worker) (now : Instant) : (worker.expiredKeys now).Nodup := by
  unfold expiredKeys
  rw [List.Nodup, List.pairwise_map]
  exact worker.sessions.keys_distinct.filter _

/-- Each session that is due is given up on, and nothing else changes under any key. -/
theorem get?_expire (worker : Worker) (now : Instant) (io : Nat → SessionIo) (key : Nat) :
    (worker.expire now io).1.sessions.get? key =
      if key ∈ worker.expiredKeys now then
        (worker.sessions.get? key).bind fun session => session.timeOut.settled? (io key)
      else worker.sessions.get? key :=
  get?_giveUp (nodup_expiredKeys worker now) worker key

/-- Expiry does not touch the limits of the worker. -/
theorem limits_expire (worker : Worker) (now : Instant) (io : Nat → SessionIo) :
    (worker.expire now io).1.timeouts = worker.timeouts ∧
      (worker.expire now io).1.maxPayload = worker.maxPayload :=
  limits_giveUp io (worker.expiredKeys now) worker

/-- After expiry a session is closing, or it was there before and is not due. -/
theorem closing_or_of_expire {now : Instant} {io : Nat → SessionIo}
    (found : (worker.expire now io).1.sessions.get? key = some session) :
    session.closing = true ∨
      worker.sessions.get? key = some session ∧ ¬ session.IsDue worker.timeouts now := by
  rw [get?_expire] at found
  split at found
  · -- What is left of a session that was given up on is closing.
    obtain ⟨old, -, stays⟩ := Option.bind_eq_some_iff.1 found
    obtain ⟨-, rfl⟩ := Session.settled?_timeOut_eq_some_iff.1 stays
    exact .inl old.closing_timeOut
  · rename_i spared
    exact .inr ⟨found, fun due => spared (mem_expiredKeys.2 ⟨session, found, due⟩)⟩

/-- After expiry no session is due. -/
theorem not_isDue_of_expire {now : Instant} {io : Nat → SessionIo}
    (found : (worker.expire now io).1.sessions.get? key = some session) :
    ¬ session.IsDue (worker.expire now io).1.timeouts now := by
  rw [(limits_expire worker now io).1]
  rcases closing_or_of_expire found with shut | ⟨-, spared⟩
  · exact Session.not_isDue_of_closing shut _ now
  · exact spared

/-- A worker wakes up next for a session that has the deadline. -/
theorem exists_of_nextDeadline? {due : Instant} (next : worker.nextDeadline? = some due) :
    ∃ key session, worker.sessions.get? key = some session ∧
      session.deadline? worker.timeouts = some due := by
  have member := Instant.mem_of_earliest? next
  simp only [List.mem_filterMap, Prod.exists, Roster.mem_entries] at member
  exact member

end Expiring

section Run

/-- What a worker does, and what the operating system answers meanwhile. -/
inductive Act where
  | accept (now : Instant)
  | ready (now : Instant) (key : Nat) (ready : Readiness) (io : SessionIo)
  | expire (now : Instant) (io : Nat → SessionIo)

/-- One act of a worker, which keeps something for its handler. -/
def step (handler : Handler σ) : Worker × σ → Act → Worker × σ
  | (worker, kept), .accept now => (worker.accept now, kept)
  | (worker, kept), .ready now key ready io =>
    let (worker, _, kept) := worker.onReady handler now key ready io kept
    (worker, kept)
  | (worker, kept), .expire now io => ((worker.expire now io).1, kept)

/-- Acts of a worker that has accepted nobody yet. -/
def run (timeouts : Timeouts) (maxPayload : Nat) (handler : Handler σ) (kept : σ)
    (acts : List Act) : Worker × σ :=
  acts.foldl (step handler) ({ timeouts, maxPayload }, kept)

/-- All sessions tell by their times whether a part of a request is there. -/
def Timed (worker : Worker) : Prop :=
  ∀ key session, worker.sessions.get? key = some session → session.IsTimed

/-- A session that is accepted has begun nothing. -/
theorem Timed.accept (timed : worker.Timed) (now : Instant) : (worker.accept now).Timed := by
  intro key session found isOpen
  rcases Roster.get?_insert_cases found with ⟨-, rfl⟩ | before
  · exact iff_of_true rfl rfl
  · exact timed key session before isOpen

/-- The sessions that are left when one is closed are as before. -/
theorem Timed.close (timed : worker.Timed) (key : Nat) : (worker.close key).Timed := by
  intro other session found isOpen
  exact timed other session (Roster.get?_erase_cases found).2 isOpen

/-- Settling a session does not change its times. -/
theorem Timed.settle (timed : worker.Timed) {old : Session}
    (present : worker.sessions.get? key = some old) {session : Session}
    (right : session.IsTimed) (io : SessionIo) : (worker.settle key session io).1.Timed := by
  -- A session that is left was settled, and the others were timed before.
  intro other left found isOpen
  rw [get?_settle present] at found
  split at found
  · unfold Session.settled? at found
    split at found
    · cases found
    · -- Only bytes that were to be written are gone.
      cases found
      exact right isOpen
  · exact timed other left found isOpen

/-- A session whose socket is ready takes its times from what is left of its bytes. -/
theorem Timed.onReady (timed : worker.Timed) (handler : Handler σ) (now : Instant) (key : Nat)
    (ready : Readiness) (io : SessionIo) (kept : σ) :
    (worker.onReady handler now key ready io kept).1.Timed := by
  unfold Worker.onReady
  cases present : worker.sessions.get? key with
  | none => exact timed
  | some session =>
    dsimp only
    -- A connection that failed is closed, and only one that is ready is filled and dispatched.
    split
    · exact timed.close key
    · have settled : (worker.settle key (if ready.reads then
          (session.fill io.arrival).dispatch handler worker.maxPayload now kept
          else (session, kept)).1 io).1.Timed := by
        refine timed.settle present ?_ io
        split
        · -- A dispatch takes the times last.
          intro _
          have taken := Service.started_dispatch_eq_none_iff handler worker.maxPayload
            { session := session.fill io.arrival, kept } now
          dsimp only at taken
          rw [(Service.dispatch_unlogged handler worker.maxPayload _ now).1] at taken
          exact taken
        · exact timed key session present
      split
      · exact settled.close key
      · exact settled

/-- A session that is given up on is open no more, and all others are as before. -/
theorem Timed.expire (timed : worker.Timed) (now : Instant) (io : Nat → SessionIo) :
    (worker.expire now io).1.Timed := by
  intro key session found isOpen
  rcases closing_or_of_expire found with shut | ⟨before, -⟩
  · rw [shut] at isOpen
    cases isOpen
  · exact timed key session before isOpen

/-- Every act keeps the times of all sessions right. -/
theorem Timed.step (timed : worker.Timed) (handler : Handler σ) (kept : σ) (act : Act) :
    (Worker.step handler (worker, kept) act).1.Timed := by
  cases act with
  | accept now => exact timed.accept now
  | ready now key ready io => exact timed.onReady handler now key ready io kept
  | expire now io => exact timed.expire now io

/-- In every run the times of all sessions are right. -/
theorem timed_run (timeouts : Timeouts) (maxPayload : Nat) (handler : Handler σ) (kept : σ)
    (acts : List Act) : (run timeouts maxPayload handler kept acts).1.Timed := by
  have keeps (acts : List Act) (state : Worker × σ) (timed : state.1.Timed) :
      (acts.foldl (Worker.step handler) state).1.Timed := by
    -- What one act keeps, a run of acts keeps.
    induction acts generalizing state with
    | nil => exact timed
    | cons act rest ih => exact ih _ (timed.step handler state.2 act)
  refine keeps acts _ ?_
  -- Nobody was accepted yet.
  intro key session found
  cases found

end Run

/--
A worker gives up on exactly the sessions that are due, whatever their sockets take.

It gives up on each of them once, and sends what its socket takes of its last words: its earlier
output, and behind it the answer to a request that was begun, if one was. The session is closing
afterwards and has the rest of its last words to write, if that can be done later, and is gone if
not. No session is due any more, so that the worker sleeps for some time, and whatever is under
another key stays as it is. If the worker has come to its sessions by a run, those that are due have
begun a request exactly if they have received a part of one.
-/
theorem expire_exact (worker : Worker) (now : Instant) (io : Nat → SessionIo) :
    let after := (worker.expire now io).1
    let sent := (worker.expire now io).2
    (sent.map Prod.fst).Nodup ∧
    (∀ key bytes, (key, bytes) ∈ sent ↔ ∃ session, worker.sessions.get? key = some session ∧
      session.IsDue worker.timeouts now ∧
        bytes = (io key).departure.taken session.lastWords) ∧
    (∀ key session, worker.sessions.get? key = some session →
      session.IsDue worker.timeouts now →
        (session.Lingers (io key) ∧ ∃ left, after.sessions.get? key = some left ∧
          left.closing = true ∧
          (io key).departure.taken session.lastWords ++ left.writeBuffer = session.lastWords) ∨
        ¬ session.Lingers (io key) ∧ after.sessions.get? key = none) ∧
    (∀ key session, after.sessions.get? key = some session →
      ¬ session.IsDue after.timeouts now) ∧
    (∀ due, after.nextDeadline? = some due → now.nanos < due.nanos) ∧
    (∀ key, (∀ session, worker.sessions.get? key = some session →
      ¬ session.IsDue worker.timeouts now) →
        after.sessions.get? key = worker.sessions.get? key) ∧
    after.timeouts = worker.timeouts ∧ after.maxPayload = worker.maxPayload ∧
    ∀ (σ : Type) (handler : Handler σ) (kept : σ) (acts : List Act),
      (run worker.timeouts worker.maxPayload handler kept acts).1 = worker →
        ∀ key session, worker.sessions.get? key = some session →
          session.IsDue worker.timeouts now →
            (session.started.isSome = true ↔ session.readBuffer ≠ []) := by
  intro after sent
  have distinct := nodup_expiredKeys worker now
  obtain ⟨timeouts, maxPayload⟩ := limits_expire worker now io
  refine ⟨nodup_sent_giveUp distinct, fun key bytes => ?_, fun key session present due => ?_,
    fun key session found => not_isDue_of_expire found, fun due next => ?_, fun key others => ?_,
    timeouts, maxPayload, ?_⟩
  · -- What is sent are the last words of the sessions that were due.
    show (key, bytes) ∈ (worker.giveUp io (worker.expiredKeys now)).2 ↔ _
    rw [mem_sent_giveUp distinct, mem_expiredKeys]
    constructor
    · rintro ⟨⟨session, present, due⟩, same, there, sends⟩
      -- There is only one session under a key.
      obtain rfl : session = same := Option.some.inj (present.symm.trans there)
      exact ⟨session, present, due, sends⟩
    · rintro ⟨session, present, due, sends⟩
      exact ⟨⟨session, present, due⟩, session, present, sends⟩
  · -- A session that was given up on is settled as it stands after its time-out.
    have given : key ∈ worker.expiredKeys now := mem_expiredKeys.2 ⟨session, present, due⟩
    have settled : after.sessions.get? key = session.timeOut.settled? (io key) := by
      rw [get?_expire, if_pos given, present, Option.bind_some]
    rw [settled]
    exact session.settled?_timeOut_cases (io key)
  · -- The next time-out is that of some session, which is not due any more.
    obtain ⟨key, session, found, reported⟩ := exists_of_nextDeadline? next
    by_contra early
    exact not_isDue_of_expire found ⟨due, reported, by omega⟩
  · -- A session that is not due is not given up on.
    rw [get?_expire, if_neg]
    intro given
    obtain ⟨session, present, due⟩ := mem_expiredKeys.1 given
    exact others session present due
  · intro σ handler kept acts reached key session present due
    -- A session that is due is open, and the times of an open session are right.
    obtain ⟨time, reported, -⟩ := due
    have timed := timed_run worker.timeouts worker.maxPayload handler kept acts
    rw [reached] at timed
    rw [Option.isSome_iff_ne_none]
    exact not_congr (timed key session present (Session.open_of_deadline? reported))

/--
Three sessions: one has answered a request and received a part of the next, one was never used, and
one was accepted later. The first is told to go, of which its socket takes five bytes for now.
-/
theorem expire_exact_three :
    let handler : Handler Unit := fun _ _ => (⟨[.send .ok []], false⟩, ())
    let stuck : SessionIo :=
      { arrival := ⟨utf8Bytes "GET /a HTTP/1.1\r\n\r\nGET /b HT", .blocked⟩, departure := ⟨0, none⟩ }
    let acts : List Act :=
      [.accept ⟨0⟩, .accept ⟨0⟩, .ready ⟨10⟩ 0 { readable := true } stuck, .accept ⟨2500⟩]
    let worker := (run ⟨⟨1000⟩, ⟨2000⟩, ⟨3000⟩⟩ 0 handler () acts).1
    let after := (worker.expire ⟨3000⟩ fun _ => { departure := ⟨5, none⟩ }).1
    (∃ first left, worker.sessions.get? 0 = some first ∧ first.readBuffer ≠ [] ∧
      after.sessions.get? 0 = some left ∧ left.closing = true ∧
      utf8Bytes "HTTP/" ++ left.writeBuffer = first.writeBuffer ++ Session.timeoutBytes) ∧
    (worker.sessions.get? 1).isSome = true ∧ after.sessions.get? 1 = none ∧
    (worker.sessions.get? 2).isSome = true ∧
      after.sessions.get? 2 = worker.sessions.get? 2 := by
  intro handler stuck acts worker after
  let first : Session :=
    { readBuffer := utf8Bytes "GET /b HT"
      writeBuffer := utf8Bytes
        "HTTP/1.1 200 OK\r\nServer: ferry/0.0.1\r\nContent-Length: 0\r\nConnection: keep-alive\r\n\r\n"
      started := some ⟨10⟩
      idleSince := ⟨0⟩ }
  have timeouts : worker.timeouts = ⟨⟨1000⟩, ⟨2000⟩, ⟨3000⟩⟩ := by decide +kernel
  have maxPayload : worker.maxPayload = 0 := by decide +kernel
  have partly : worker.sessions.get? 0 = some first := by decide +kernel
  have unused : worker.sessions.get? 1 = some (.accepted ⟨0⟩) := by decide +kernel
  have later : worker.sessions.get? 2 = some (.accepted ⟨2500⟩) := by decide +kernel
  obtain ⟨-, -, given, -, -, others, -, -, begun⟩ :=
    expire_exact worker ⟨3000⟩ fun _ => { departure := ⟨5, none⟩ }
  have due : first.IsDue worker.timeouts ⟨3000⟩ := by
    rw [timeouts]
    exact ⟨⟨1010⟩, by decide, by decide⟩
  have idle : (Session.accepted ⟨0⟩).IsDue worker.timeouts ⟨3000⟩ := by
    rw [timeouts]
    exact ⟨⟨3000⟩, by decide, by decide⟩
  refine ⟨?_, ?_, ?_, ?_, ?_⟩
  · rcases given 0 first partly due with ⟨-, left, there, shut, whole⟩ | ⟨gone, -⟩
    · have reached : (run worker.timeouts worker.maxPayload handler () acts).1 = worker := by
        rw [timeouts, maxPayload]
      have received := (begun Unit handler () acts reached 0 first partly due).1 rfl
      have taken : (⟨5, none⟩ : Departure).taken first.lastWords = utf8Bytes "HTTP/" := by
        decide +kernel
      refine ⟨first, left, partly, received, there, shut, ?_⟩
      rw [← taken]
      exact whole
    · exact absurd ⟨by decide +kernel, rfl, rfl⟩ gone
  · rw [unused]
    rfl
  · rcases given 1 _ unused idle with ⟨⟨more, -⟩, -⟩ | ⟨-, gone⟩
    · -- It has nothing to write.
      exact absurd more (by decide)
    · exact gone
  · rw [later]
    rfl
  · refine others 2 fun session there => ?_
    obtain rfl : Session.accepted ⟨2500⟩ = session := Option.some.inj (later.symm.trans there)
    rintro ⟨time, reported, early⟩
    have counted := Session.nanos_deadline?_idle rfl reported
    rw [counted, timeouts] at early
    exact absurd early (by decide)

end Worker

end HttpEngine
