import HttpEngine.Proofs.Outbound.Reach
import HttpEngine.Proofs.Outbound.Regular

/-!
What becomes of an exchange that is put back into its queue: it is handed out at once. A connection
that rests is taken first, and only without one is another connection opened.
-/

namespace HttpEngine

/-- Whether an event puts an exchange back. -/
def Transit.isRequeue : Transit → Bool
  | requeued _ => true
  | _ => false

namespace Journal

/-- What can happen to an exchange that was put back. -/
inductive Heeded (before : List Transit) (exchange : Exchange) : List Transit → Prop where
  /-- A connection that rests takes it. -/
  | reused {key : Nat} {after : List Transit} (rests : Rests before exchange.authority key) :
      Heeded before exchange (.started key exchange :: after)
  /-- No connection rests, and a new one takes it. -/
  | opened {key : Nat} {after : List Transit}
      (full : ∀ other, ¬Rests before exchange.authority other) :
      Heeded before exchange
        (.opened key exchange.authority :: .started key exchange :: after)
  /-- No connection rests, and none can be opened. -/
  | refused {error : IoError} {after : List Transit}
      (full : ∀ other, ¬Rests before exchange.authority other) :
      Heeded before exchange
        (.settled exchange.promise (.error (.transport error)) :: after)

/-- What happens later changes nothing. -/
theorem Heeded.append {before after : List Transit} {exchange : Exchange}
    (heeded : Heeded before exchange after) (notes : List Transit) :
    Heeded before exchange (after ++ notes) := by
  cases heeded with
  | reused rests => exact .reused rests
  | opened full => exact .opened full
  | refused full => exact .refused full

/--
A journal in which every exchange that was put back is handed out at once, but for one perhaps that
was put back last.
-/
def Prompt (journal : List Transit) (awaits : Exchange → Prop) : Prop :=
  ∀ before exchange after, journal = before ++ .requeued exchange :: after →
    Heeded before exchange after ∨ after = [] ∧ awaits exchange

namespace Prompt

variable {journal notes : List Transit} {awaits : Exchange → Prop}

/-- The exchange that was put back last is handed out, if there is one. -/
theorem heed (prompt : Prompt journal awaits) (notes : List Transit)
    (quiet : ∀ note ∈ notes, note.isRequeue = false)
    (heeded : ∀ before exchange, journal = before ++ [.requeued exchange] → awaits exchange →
      Heeded before exchange notes) : Prompt (journal ++ notes) fun _ => False := by
  intro before exchange after whole
  -- Nothing is put back by these notes, so that it was put back before.
  have absent : .requeued exchange ∉ notes := by
    intro member
    cases quiet _ member
  obtain ⟨rest, split, rfl⟩ := split_of_not_mem whole absent
  rcases prompt before exchange rest split with done | ⟨rfl, waits⟩
  · -- It was handed out before, or is the last one that was put back, and is handed out now.
    exact .inl (done.append notes)
  · exact .inl (heeded before exchange split waits)

/-- If nothing waits that was put back, nothing waits for any reason. -/
theorem mono (prompt : Prompt journal fun _ => False) (awaits : Exchange → Prop) :
    Prompt journal awaits := fun before exchange after whole =>
  (prompt before exchange after whole).imp_right fun last => last.2.elim

/-- Nothing is put back. -/
theorem append (prompt : Prompt journal fun _ => False)
    (quiet : ∀ note ∈ notes, note.isRequeue = false) (awaits : Exchange → Prop) :
    Prompt (journal ++ notes) awaits :=
  (prompt.heed notes quiet fun _ _ _ nobody => nobody.elim).mono awaits

/-- Another exchange is put back. -/
theorem concat (prompt : Prompt journal fun _ => False) {exchange : Exchange}
    (waits : awaits exchange) : Prompt (journal ++ [.requeued exchange]) awaits := by
  intro before other after whole
  -- Every other exchange that was put back was handed out before.
  rcases split_append whole with ⟨rest, split, rfl⟩ | ⟨more, _, single⟩
  · have done := (prompt before other rest split).resolve_right And.right
    exact .inl (done.append _)
  · -- The last one is this one, and waits.
    obtain ⟨rfl, ⟨⟩⟩ := (List.append_eq_singleton_iff.1 single.symm).resolve_right (by simp)
    exact .inr ⟨rfl, waits⟩

end Prompt

/--
A journal in which every exchange that was put back and is started again is started on a connection
that was opened in between.
-/
def Renewed (journal : List Transit) : Prop :=
  ∀ before exchange between key again after,
    journal = before ++ .requeued exchange :: (between ++ .started key again :: after) →
      again.promise = exchange.promise → .opened key exchange.authority ∈ between

/-- To put an exchange back tells nothing of the connections. -/
theorem rests_requeued {before : List Transit} {exchange : Exchange} {host : String} {key : Nat} :
    Rests (before ++ [.requeued exchange]) host key ↔ Rests before host key := by
  rw [Rests, line_concat]
  rfl

end Journal

namespace Dispatcher

/-- An exchange waits in front of all others, and can be handed out. -/
def Awaits (dispatcher : Dispatcher) (host : String) (exchange : Exchange) : Prop :=
  exchange.authority = host ∧ ∃ pool waiting, dispatcher.pools.get? host = some pool ∧
    pool.queue = exchange :: waiting ∧
    (pool.idle = [] → pool.connections < dispatcher.maxConnectionsPerHost)

section Handovers

variable {dispatcher next : Dispatcher} {host : String} {key : Nat} {connection : Connection}

/-- The connections of a host that rest are those that its pool keeps as idle. -/
theorem Regular.mem_idle (regular : dispatcher.Regular) {pool : Pool}
    (found : dispatcher.pools.get? host = some pool) (key : Nat) :
    key ∈ pool.idle ↔ Journal.Rests dispatcher.journal host key :=
  ((regular.accounted.fits found).mem_idle key).trans regular.recorded.rests_iff.symm

/-- A stale exchange is put back where it can be handed out at once. -/
theorem Parting.prompt {error : Error} (parting : dispatcher.Parting key error next)
    (regular : dispatcher.Regular)
    (present : dispatcher.connections.get? key = some connection)
    (prompt : Journal.Prompt dispatcher.journal fun _ => False) :
    Journal.Prompt next.journal (next.Awaits connection.authority) := by
  have accounted := regular.accounted
  cases parting with
  | freed there free =>
    -- What ends a connection that carries nothing puts nothing back.
    rw [accounted.journal_drop there]
    exact prompt.append (by simp [Transit.isRequeue]) _
  | rejected there carried =>
    -- A rejected exchange is not put back either.
    rw [reject, settle, record, accounted.journal_drop there, List.append_assoc]
    exact prompt.append (by simp [Transit.isRequeue]) _
  | requeued there carried stale found =>
    rename_i lost exchange pool
    rw [present] at there
    cases there
    have closed : Journal.Prompt (dispatcher.journal ++ [.closed key]) fun _ => False :=
      prompt.append (by simp [Transit.isRequeue]) _
    have home : exchange.authority = connection.authority :=
      regular.housed.travels present carried
    rw [record, modifyPool, accounted.journal_drop present]
    refine closed.concat
      ⟨home, (pool.forget key).requeue exchange.again, pool.queue, ?_, rfl, fun _ => ?_⟩
    · simp [drop, Pools.get?_modify, found]
    · -- The connection that ended leaves room for another one.
      have fits := accounted.fits found
      have live : 0 < dispatcher.connections.count (·.authority == connection.authority) :=
        Roster.count_pos present (by simp)
      have counted := fits.counted
      have bounded := fits.bounded
      show pool.connections - 1 < dispatcher.maxConnectionsPerHost
      omega

/-- A launch hands out the exchange that was put back last. -/
theorem Launch.prompt {exchange : Exchange} (launch : dispatcher.Launch host key exchange next)
    (regular : dispatcher.Regular)
    (prompt : Journal.Prompt dispatcher.journal (dispatcher.Awaits host)) :
    Journal.Prompt next.journal fun _ => False := by
  cases launch with
  | reused found queued rested present =>
    refine prompt.heed [.started key exchange] (by simp [Transit.isRequeue]) ?_
    -- The exchange in front of the pool is the one that was put back last.
    rintro before other whole ⟨rfl, pool, waiting, there, front, _⟩
    rw [found] at there
    cases there
    rw [queued] at front
    cases front
    -- A connection that rests takes it.
    have rests := (regular.mem_idle found key).1 (rested ▸ List.mem_cons_self)
    rw [whole, Journal.rests_requeued] at rests
    exact .reused rests
  | opened found queued rested room same =>
    subst same
    rw [setConnection, record, openConnection, record, List.append_assoc]
    refine prompt.heed _ (by simp [Transit.isRequeue]) ?_
    rintro before other whole ⟨rfl, pool, waiting, there, front, _⟩
    rw [found] at there
    cases there
    rw [queued] at front
    cases front
    -- A connection is opened, because none rests.
    refine .opened fun other rests => ?_
    rw [← Journal.rests_requeued, ← whole, ← regular.mem_idle found, rested] at rests
    cases rests

/-- Every handover heeds the exchange that was put back last, and puts another one back perhaps. -/
theorem Handover.prompt (handover : dispatcher.Handover host next)
    (regular : dispatcher.Regular)
    (prompt : Journal.Prompt dispatcher.journal (dispatcher.Awaits host)) :
    Journal.Prompt next.journal (next.Awaits host) := by
  cases handover with
  | refused found queued rested error =>
    rename_i pool exchange waiting
    refine (prompt.heed [.settled exchange.promise (.error (.transport error))]
      (by simp [Transit.isRequeue]) ?_).mono _
    -- The exchange that was put back is the one that is refused, and no connection rests.
    rintro before other whole ⟨rfl, known, others, there, front, _⟩
    rw [found] at there
    cases there
    rw [queued] at front
    cases front
    refine .refused fun key rests => ?_
    rw [← Journal.rests_requeued, ← whole, ← regular.mem_idle found, rested] at rests
    cases rests
  | misdirected found queued rested gone error =>
    exact absurd (regular.accounted.idle found rested) (not_idleAt gone)
  | given launch landing =>
    rename_i key exchange launched
    have heeded := launch.prompt regular prompt
    -- The launch is a move, and leaves the dispatcher regular.
    have later : launched.Regular :=
      Leads.regular (fun hand => (launch.move hand).leads) regular
    cases landing with
    | stays present writeBuffer => exact heeded.mono _
    | parts present writeBuffer error parting =>
      -- The connection ends in its first writing, and another exchange may be put back.
      rename_i connection
      have same := launch.authority regular.accounted present
      have still : (launched.setConnection key { connection with writeBuffer }).Regular :=
        Leads.regular (fun _ => (Move.tended present _ id writeBuffer).leads) later
      have parted := parting.prompt still (Roster.get?_set_self present _) heeded
      exact same ▸ parted

/-- After a pump, nothing that was put back waits any more. -/
theorem prompt_pump (net : Nat → HandoverIo) (regular : dispatcher.Regular)
    (prompt : Journal.Prompt dispatcher.journal (dispatcher.Awaits host)) :
    Journal.Prompt (dispatcher.pump net host).journal fun _ => False := by
  -- Each handover of the pump keeps both facts.
  obtain ⟨regular, prompt⟩ := pump_keeps
    (fun reached => reached.Regular ∧ Journal.Prompt reached.journal (reached.Awaits host)) host
    (fun _ _ handover kept => ⟨handover.leads.regular kept.1, handover.prompt kept.1 kept.2⟩)
    net dispatcher ⟨regular, prompt⟩
  intro before exchange after whole
  rcases prompt before exchange after whole with done | ⟨_, _, pool, waiting, found, front, room⟩
  · exact .inl done
  · -- No exchange can be handed out, but one that waits in front of all others could be.
    rcases full_of_handOut_eq_none (handOut_pump net dispatcher host) found with
      empty | ⟨rested, full⟩
    · rw [front] at empty
      cases empty
    · have less := room rested
      omega

end Handovers

/-- An exchange that comes in is not one that was put back. -/
theorem Entry.prompt {dispatcher next : Dispatcher} {exchange : Exchange}
    (entry : dispatcher.Entry exchange next)
    (prompt : Journal.Prompt dispatcher.journal fun _ => False) :
    Journal.Prompt next.journal fun _ => False := by
  cases entry with
  | refused error =>
    rw [reject, settle, record, record, List.append_assoc]
    exact prompt.append (by simp [Transit.isRequeue]) _
  | admitted found => exact prompt.append (by simp [Transit.isRequeue]) _

/-- Every stride leaves nothing waiting that it put back. -/
theorem Stride.prompt {net : Nat → HandoverIo} {dispatcher next : Dispatcher}
    (stride : dispatcher.Stride net next) (regular : dispatcher.Regular)
    (prompt : Journal.Prompt dispatcher.journal fun _ => False) :
    Journal.Prompt next.journal fun _ => False := by
  have accounted := regular.accounted
  -- A settlement behind a pump puts nothing back.
  have settled : ∀ (freed : Dispatcher) (host : String) (exchange : Exchange)
      (outcome : Outcome Response), freed.Regular → Journal.Prompt freed.journal (fun _ => False) →
        Journal.Prompt ((freed.pump net host).settle exchange outcome).journal fun _ => False := by
    intro freed host exchange outcome regular prompt
    rw [settle, record]
    exact (prompt_pump net regular (prompt.mono _)).append (by simp [Transit.isRequeue]) _
  cases stride with
  | discovered absent address => exact prompt
  | pumped host => exact prompt_pump net regular (prompt.mono _)
  | tended present connected still writeBuffer => exact prompt
  | filled present arrival harmless => exact prompt.append (by simp [Transit.isRequeue]) _
  | spoiled present free bytes =>
    rw [accounted.journal_drop present]
    exact prompt.append (by simp [Transit.isRequeue]) _
  | closed present free =>
    rw [accounted.journal_drop present]
    exact prompt.append (by simp [Transit.isRequeue]) _
  | lost present parting =>
    -- What the parting puts back is handed out by the pump that follows.
    exact prompt_pump net (parting.leads.regular regular) (parting.prompt regular present prompt)
  | answered present carried connected decoded reusable =>
    have freed : dispatcher.Move [] _ _ := .answered present carried connected decoded reusable
    refine settled _ _ _ _ (freed.regular regular) ?_
    exact prompt.append (by simp [Transit.isRequeue]) _
  | answeredLast present carried decoded =>
    have freed : dispatcher.Move [] _ _ := .answeredLast present carried decoded
    refine settled _ _ _ _ (freed.regular regular) ?_
    rw [accounted.journal_drop present]
    exact prompt.append (by simp [Transit.isRequeue]) _
  | overdue now =>
    rw [expireQueues, rejectAll_eq]
    -- Only settlements are noted.
    refine prompt.append (fun note member => ?_) _
    obtain ⟨exchange, _, rfl⟩ := List.mem_map.1 member
    rfl

/-- A connection brings a whole response. -/
def answerOn (key : Nat) : Errand :=
  .ready key { readable := true, writable := true }
    { departure := wideDeparture
      arrival := ⟨utf8Bytes "HTTP/1.1 200 OK\r\nContent-Length: 0\r\n\r\n", .blocked⟩ }

/-- A connection ends. -/
def endOf (key : Nat) : Errand :=
  .ready key { readable := true, writable := true }
    { departure := wideDeparture, arrival := ⟨[], .closed⟩ }

/--
An exchange that was put back is handed out at once.

It was under way on a connection that had brought responses before and ended without a byte of this
one, and it was tried for the first time. If a connection to its host rests, such a connection takes
it, however long it has rested. Otherwise a connection is opened for it, or it is rejected because
none can be opened.
-/
theorem retried_at_once (net : Nat → HandoverIo) (most : Nat) (keepAlive : Bool)
    (errands : List Errand) :
    ∀ before exchange after,
      ((fresh most keepAlive).attendAll net errands).journal =
        before ++ .requeued exchange :: after →
      (∃ earlier key found original, before = earlier ++ [.closed key] ∧
        Journal.line earlier key = some found ∧ found.carried = some original ∧
        found.told ≠ [] ∧ found.unread = [] ∧ original.retried = false ∧
        exchange = original.again) ∧
      Journal.Heeded before exchange after := by
  obtain ⟨regular, prompt⟩ := regular_attendAll
    (fun reached => Journal.Prompt reached.journal fun _ => False) net
    (fun _ _ regular stride prompt => stride.prompt regular prompt)
    (fun _ _ _ entry prompt => entry.prompt prompt) errands (.fresh most keepAlive)
    fun _ _ _ whole => by simp [fresh] at whole
  intro before exchange after whole
  exact ⟨regular.recorded.proper before _ after whole,
    -- No exchange waits at the end of an errand, so that this one was heeded.
    (prompt before exchange after whole).resolve_right And.right⟩

/-- The only connection ends when it is used again, and another one takes the exchange. -/
theorem retried_at_once_opened :
    let errands : List Errand :=
      [.submit (rootRequest 0), answerOn 0, .submit (rootRequest 1), endOf 0]
    let journal := ((fresh 1 true).attendAll openNet errands).journal
    journal.drop 10 = [.requeued (rootRequest 1).again, .opened 0 "127.0.0.1:80",
      .started 0 (rootRequest 1).again] ∧
    Journal.Heeded (journal.take 10) (rootRequest 1).again
      [.opened 0 "127.0.0.1:80", .started 0 (rootRequest 1).again] := by
  have last : ((fresh 1 true).attendAll openNet
      [.submit (rootRequest 0), answerOn 0, .submit (rootRequest 1), endOf 0]).journal.drop 10 =
        [.requeued (rootRequest 1).again, .opened 0 "127.0.0.1:80",
          .started 0 (rootRequest 1).again] := by
    decide +kernel
  refine ⟨last, (retried_at_once openNet 1 true
    [.submit (rootRequest 0), answerOn 0, .submit (rootRequest 1), endOf 0] _ _ _ ?_).2⟩
  -- What follows upon the tenth note is all that the theorem is about.
  rw [← last]
  exact (List.take_append_drop 10 _).symm

/-- Two connections that have brought a response each, one of which ends when it is used again. -/
def endedInUse : Dispatcher :=
  (fresh 2 true).attendAll openNet
    [.submit (rootRequest 0), .submit (rootRequest 1), answerOn 0, answerOn 1,
      .submit (rootRequest 2), endOf 1]

/-- An exchange that was put back is started on a connection that rests, though another is lost. -/
theorem retried_on_rested : ¬Journal.Renewed endedInUse.journal := by
  have last : endedInUse.journal.drop 16 =
      [.requeued (rootRequest 2).again, .started 0 (rootRequest 2).again] := by
    decide +kernel
  intro renewed
  have whole := (List.take_append_drop 16 endedInUse.journal).symm
  rw [last] at whole
  -- Nothing happens between the two events, and so no connection is opened.
  have opened := renewed _ _ [] 0 _ [] whole rfl
  cases opened

end Dispatcher

end HttpEngine
