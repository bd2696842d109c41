import HttpEngine.Proofs.Outbound.Origin
import HttpEngine.Proofs.Outbound.Reach
import HttpEngine.Proofs.Outbound.Regular
import HttpEngine.Proofs.Outbound.Settlement

/-!
What happens when time has passed. The exchanges on connections are looked at first, and each one
that is rejected lets another one in that waits for the same host, however late it is for that one.
-/

namespace HttpEngine

namespace Dispatcher

/--
An exchange that waits for a host while one on a connection to the host has run out of time: the one
that waits may be handed out before it is looked at.
-/
def Overtaken (dispatcher : Dispatcher) (now : Instant) (exchange : Exchange) : Prop :=
  exchange ∈ dispatcher.pools.queued ∧
    ∃ key connection carried, dispatcher.connections.get? key = some connection ∧
      connection.authority = exchange.authority ∧ connection.exchange = some carried ∧
      carried.isExpired now = true

variable {dispatcher next : Dispatcher} {net : Nat → HandoverIo} {now : Instant} {key : Nat}
  {connection : Connection} {exchange : Exchange}

/-- The connections are looked through for an exchange that has run out of time. -/
theorem expiredConnections_eq (dispatcher : Dispatcher) (now : Instant) :
    dispatcher.expiredConnections now = dispatcher.connections.entries.filterMap fun entry =>
      (entry.2.exchange.filter (·.isExpired now)).map fun exchange =>
        (entry.1, exchange.timeout) := by
  rw [expiredConnections]
  congr 1
  -- An entry is listed if it carries an exchange that has run out of time.
  funext entry
  obtain ⟨key, connection⟩ := entry
  cases carried : connection.exchange with
  | none => simp [carried]
  | some exchange =>
    by_cases expired : exchange.isExpired now = true <;>
      simp [carried, expired, Option.filter]

/-- The connections whose exchange has run out of time, with the time that it had. -/
theorem mem_expiredConnections {timeout : Duration} :
    (key, timeout) ∈ dispatcher.expiredConnections now ↔
      ∃ connection exchange, dispatcher.connections.get? key = some connection ∧
        connection.exchange = some exchange ∧ exchange.isExpired now = true ∧
        exchange.timeout = timeout := by
  rw [expiredConnections_eq, List.mem_filterMap]
  constructor
  · rintro ⟨⟨other, connection⟩, member, found⟩
    obtain ⟨exchange, late, same⟩ := Option.map_eq_some_iff.1 found
    obtain ⟨carried, expired⟩ := Option.filter_eq_some_iff.1 late
    cases same
    exact ⟨connection, exchange, Roster.mem_entries.1 member, carried, expired, rfl⟩
  · -- A connection that carries such an exchange is listed under its key.
    rintro ⟨connection, exchange, present, carried, expired, rfl⟩
    refine ⟨(key, connection), Roster.mem_entries.2 present, ?_⟩
    simp [carried, expired]

/-- No connection is looked at twice. -/
theorem expiredConnections_distinct (dispatcher : Dispatcher) (now : Instant) :
    (dispatcher.expiredConnections now).Pairwise fun expired other => expired.1 ≠ other.1 := by
  rw [expiredConnections_eq]
  refine dispatcher.connections.keys_distinct.filterMap _ ?_
  -- Every connection is looked at under its own key.
  intro entry other differs expired found last there
  obtain ⟨_, _, rfl⟩ := Option.map_eq_some_iff.1 found
  obtain ⟨_, _, rfl⟩ := Option.map_eq_some_iff.1 there
  exact differs

/-- What is noted while connections are lost for want of time. -/
structure TimesOut (expired : List (Nat × Duration)) (before after : Dispatcher) : Prop where
  notes : ∃ notes, after.journal = before.journal ++ notes ∧
    (∀ key timeout connection exchange, (key, timeout) ∈ expired →
      before.connections.get? key = some connection → connection.exchange = some exchange →
        .settled exchange.promise (.error (.timeout timeout)) ∈ notes) ∧
    ∀ promise outcome, .settled promise outcome ∈ notes →
      (∃ error, outcome = .error (.transport error)) ∨
        ∃ key timeout connection exchange, (key, timeout) ∈ expired ∧
          before.connections.get? key = some connection ∧ connection.exchange = some exchange ∧
          exchange.promise = promise ∧ outcome = .error (.timeout timeout)
  pools : ∀ host, (∀ key timeout connection, (key, timeout) ∈ expired →
      before.connections.get? key = some connection → connection.authority ≠ host) →
    after.pools.get? host = before.pools.get? host

/-- A connection is lost for want of time, and what waits for its host is handed out. -/
theorem fail_timeout (net : Nat → HandoverIo) (accounted : dispatcher.Accounted)
    (present : dispatcher.connections.get? key = some connection)
    (carried : connection.exchange = some exchange) (timeout : Duration) :
    (∃ notes, (dispatcher.fail net key (.timeout timeout)).journal =
        dispatcher.journal ++
          [.closed key, .settled exchange.promise (.error (.timeout timeout))] ++ notes ∧
      ∀ note ∈ notes, note.isHandover = true) ∧
    (∀ other found, key ≠ other → dispatcher.connections.get? other = some found →
      found.exchange ≠ none →
        (dispatcher.fail net key (.timeout timeout)).connections.get? other = some found) ∧
    ∀ host, host ≠ connection.authority →
      (dispatcher.fail net key (.timeout timeout)).pools.get? host =
        dispatcher.pools.get? host := by
  -- The connection ends, its exchange is rejected, and what follows is a pump of its host.
  have parting := lose_parting present (.timeout timeout)
  have confined := parting.confined present
  have ended := parting.leads.accounted accounted
  have spares := spares_pump net connection.authority ended
  obtain ⟨notes, journal, kinds⟩ := notes_pump net connection.authority ended
  have lost : (dispatcher.lose key (.timeout timeout)).journal = dispatcher.journal ++
      [.closed key, .settled exchange.promise (.error (.timeout timeout))] := by
    rw [lose, close_eq present, carried]
    dsimp only
    rw [reject, settle, record, accounted.journal_drop present, List.append_assoc]
    rfl
  rw [fail]
  simp only [present]
  -- Another connection that carries something keeps on carrying it, on either way.
  refine ⟨⟨notes, by rw [journal, lost], kinds⟩, fun other found differs there busy => ?_,
    fun host differs => ?_⟩
  · refine spares.busy ?_ busy
    rw [confined.connections other differs]
    exact there
  · exact (spares.pools host differs).trans (confined.pools host differs)

/-- Every connection is lost on which an exchange has run out of time, and only those are. -/
theorem timesOut_timeOutAll (net : Nat → HandoverIo) (expired : List (Nat × Duration))
    (distinct : expired.Pairwise fun entry other => entry.1 ≠ other.1)
    (accounted : dispatcher.Accounted)
    (busy : ∀ key timeout, (key, timeout) ∈ expired → ∃ connection exchange,
      dispatcher.connections.get? key = some connection ∧ connection.exchange = some exchange) :
    TimesOut expired dispatcher (dispatcher.timeOutAll net expired) := by
  -- The connections fail one after the other, each in the state that the others have left.
  induction expired generalizing dispatcher with
  | nil =>
    exact ⟨⟨[], (List.append_nil _).symm, by simp, by simp⟩, fun _ _ => rfl⟩
  | cons first rest ih =>
    -- The first one fails, and the others find the state in which it leaves them.
    obtain ⟨key, timeout⟩ := first
    obtain ⟨differ, distinct⟩ := List.pairwise_cons.1 distinct
    obtain ⟨connection, exchange, present, carried⟩ := busy key timeout List.mem_cons_self
    obtain ⟨⟨notes, journal, kinds⟩, kept, elsewhere⟩ :=
      fail_timeout net accounted present carried timeout
    -- The others that have run out of time are where they were.
    have alike : ∀ other later, (other, later) ∈ rest →
        (dispatcher.fail net key (.timeout timeout)).connections.get? other =
          dispatcher.connections.get? other := by
      intro other later member
      obtain ⟨known, carries, there, under⟩ := busy other later (List.mem_cons_of_mem _ member)
      rw [there]
      exact kept other known (differ _ member) there (by rw [under]; exact Option.some_ne_none _)
    obtain ⟨⟨more, grown, all, only⟩, pools⟩ := ih distinct
      ((strides_fail net dispatcher key _).leads.accounted accounted)
      fun other later member => by
        rw [alike other later member]
        exact busy other later (List.mem_cons_of_mem _ member)
    refine ⟨⟨[.closed key, .settled exchange.promise (.error (.timeout timeout))] ++ notes ++ more,
      ?_, ?_, ?_⟩, ?_⟩
    · rw [timeOutAll, List.foldl_cons]
      exact grown.trans (by rw [journal]; simp)
    · intro other later found carries member there under
      -- The rejection of the first one is in front, and those of the others come with the rest.
      rcases List.mem_cons.1 member with same | member
      · cases same
        rw [present] at there
        cases there
        rw [carried] at under
        cases under
        simp
      · exact List.mem_append_right _
          (all other later found carries member ((alike other later member).trans there) under)
    · intro promise outcome member
      -- What is settled is settled by the first failure, by a pump behind it, or later on.
      rcases List.mem_append.1 member with member | member
      · rcases List.mem_append.1 member with member | member
        · have same : promise = exchange.promise ∧ outcome = .error (.timeout timeout) := by
            simpa using member
          obtain ⟨rfl, rfl⟩ := same
          exact .inr ⟨key, timeout, connection, exchange, List.mem_cons_self, present, carried,
            rfl, rfl⟩
        · exact .inl (Transit.error_of_isHandover (kinds _ member))
      · refine (only promise outcome member).imp_right ?_
        rintro ⟨other, later, found, carries, listed, there, under, same, timedOut⟩
        exact ⟨other, later, found, carries, List.mem_cons_of_mem _ listed,
          (alike other later listed).symm.trans there, under, same, timedOut⟩
    · intro host others
      -- The hosts of all these connections are other ones.
      rw [timeOutAll, List.foldl_cons]
      refine (pools host fun other later found member there => ?_).trans (elsewhere host ?_)
      · exact others other later found (List.mem_cons_of_mem _ member)
          ((alike other later member).symm.trans there)
      · exact (others key timeout connection List.mem_cons_self present).symm

/-- What is noted when time has passed. -/
theorem notes_expire (net : Nat → HandoverIo) (now : Instant) (regular : dispatcher.Regular) :
    ∃ notes, (dispatcher.expire net now).journal = dispatcher.journal ++ notes ∧
      (∀ exchange ∈ dispatcher.held, exchange.isExpired now = true →
        ¬dispatcher.Overtaken now exchange →
          .settled exchange.promise (.error (.timeout exchange.timeout)) ∈ notes) ∧
      ∀ promise outcome, .settled promise outcome ∈ notes →
        (∃ error, outcome = .error (.transport error)) ∨
          ∃ exchange ∈ dispatcher.held, exchange.isExpired now = true ∧
            exchange.promise = promise ∧ outcome = .error (.timeout exchange.timeout) := by
  obtain ⟨⟨notes, journal, all, only⟩, pools⟩ := timesOut_timeOutAll net
    (dispatcher.expiredConnections now) (expiredConnections_distinct dispatcher now)
    regular.accounted fun key timeout member => by
      obtain ⟨connection, exchange, present, carried, _⟩ := mem_expiredConnections.1 member
      exact ⟨connection, exchange, present, carried⟩
  have stems := (strides_timeOutAll net dispatcher (dispatcher.expiredConnections now)).leads.stems
  rw [expire, expireQueues, rejectAll_eq]
  generalize dispatcher.timeOutAll net (dispatcher.expiredConnections now) = looked at *
  refine ⟨notes ++ (looked.pools.overdue now).map fun exchange =>
    .settled exchange.promise (.error (.timeout exchange.timeout)), ?_, ?_, ?_⟩
  · dsimp only
    rw [journal, List.append_assoc]
    rfl
  · intro exchange member expired inTime
    rcases mem_held.1 member with ⟨key, connection, present, carried⟩ | waits
    · -- The connection is one of those that are looked at.
      exact List.mem_append_left _ (all key exchange.timeout connection exchange
        (mem_expiredConnections.2 ⟨connection, exchange, present, carried, expired, rfl⟩)
        present carried)
    · -- Nothing has happened to the queue in which the exchange waits.
      obtain ⟨host, pool, found, queued⟩ := Pools.mem_queued.1 waits
      have home := regular.housed.waits found queued
      have same := pools host fun key timeout connection listed present alike => by
        obtain ⟨known, carried, there, under, late, _⟩ := mem_expiredConnections.1 listed
        rw [present] at there
        cases there
        exact inTime ⟨waits, key, connection, carried, present, alike.trans home.symm, under, late⟩
      have overdue : exchange ∈ looked.pools.overdue now :=
        Pools.mem_overdue.2 ⟨Pools.mem_queued.2 ⟨host, pool, same.trans found, queued⟩, expired⟩
      exact List.mem_append_right _ (List.mem_map_of_mem overdue)
  · intro promise outcome member
    -- What the failures settle is either handed over or one of the expired exchanges.
    rcases List.mem_append.1 member with lost | rejected
    · refine (only promise outcome lost).imp_right ?_
      rintro ⟨key, timeout, connection, exchange, listed, present, carried, same, rfl⟩
      obtain ⟨known, other, there, under, late, rfl⟩ := mem_expiredConnections.1 listed
      rw [present] at there
      cases there
      rw [carried] at under
      cases under
      exact ⟨exchange, carried_held present carried, late, same, rfl⟩
    · -- What waits in the end was held in the beginning.
      obtain ⟨exchange, overdue, same⟩ := List.mem_map.1 rejected
      cases same
      obtain ⟨waits, late⟩ := Pools.mem_overdue.1 overdue
      obtain ⟨origin, held, rfl | rfl⟩ := stems exchange (queued_held waits)
      · exact .inr ⟨exchange, held, late, rfl, rfl⟩
      · exact .inr ⟨origin, held, late, rfl, rfl⟩

/-- Nothing that has run out of time waits after time has passed. -/
theorem queued_expire (net : Nat → HandoverIo) (now : Instant)
    (waits : exchange ∈ (dispatcher.expire net now).pools.queued) :
    exchange.isExpired now = false := by
  rw [expire, expireQueues, rejectAll_eq] at waits
  obtain ⟨host, pool, found, queued⟩ := Pools.mem_queued.1 waits
  dsimp only at found
  rw [Pools.get?_mapAll] at found
  obtain ⟨before, _, rfl⟩ := Option.map_eq_some_iff.1 found
  simpa [Pool.expire] using (List.mem_filter.1 queued).2

/-- What is held when time has passed was held before, and has as much time as it had. -/
theorem stems_expire (held : exchange ∈ (dispatcher.expire net now).held) :
    ∃ origin ∈ dispatcher.held, (exchange = origin ∨ exchange = origin.again) ∧
      exchange.promise = origin.promise ∧ exchange.isExpired now = origin.isExpired now := by
  obtain ⟨origin, before, stems⟩ := (strides_expire net dispatcher now).leads.stems exchange held
  refine ⟨origin, before, stems, ?_⟩
  rcases stems with rfl | rfl <;> exact ⟨rfl, rfl⟩

/-- A dispatcher to which exchanges came, each with a promise of its own. -/
structure Attended (dispatcher : Dispatcher) (came : List Exchange) : Prop where
  regular : dispatcher.Regular
  sound : Sound [] came ⟨dispatcher, []⟩
  once : ∀ promise, came.countP (Exchange.isFor promise) ≤ 1

/-- Any errands with promises of their own come to such a dispatcher. -/
theorem attended_attendAll (net : Nat → HandoverIo) (most : Nat) (keepAlive : Bool)
    {errands : List Errand} (distinct : ((submitted errands).map Exchange.promise).Nodup) :
    ((fresh most keepAlive).attendAll net errands).Attended (submitted errands) where
  regular := (regular_attendAll (fun _ => True) net (fun _ _ _ _ _ => trivial)
    (fun _ _ _ _ _ => trivial) errands (.fresh most keepAlive) trivial).1
  sound := .attendAll net errands (.fresh most keepAlive)
  once := countP_le_one distinct

namespace Attended

variable {came : List Exchange}

/-- An exchange that is held was not settled, and its promise is held once and came once. -/
theorem of_held (attended : dispatcher.Attended came) (held : exchange ∈ dispatcher.held) :
    came.countP (Exchange.isFor exchange.promise) = 1 ∧
      Journal.settlements dispatcher.journal exchange.promise = [] ∧
      dispatcher.holdings exchange.promise = 1 := by
  have balance := attended.sound.balance exchange.promise
  have few := attended.once exchange.promise
  have counted := holdings_pos held
  refine ⟨by omega, List.eq_nil_of_length_eq_zero (by omega), by omega⟩

/-- Two exchanges that are held for one promise are the same one. -/
theorem held_eq (attended : dispatcher.Attended came) {other : Exchange}
    (held : exchange ∈ dispatcher.held) (alsoHeld : other ∈ dispatcher.held)
    (same : other.promise = exchange.promise) : other = exchange :=
  held_unique (Nat.le_of_eq (attended.of_held held).2.2) held alsoHeld same

/-- Whatever was held is held in one place or settled once when time has passed. -/
theorem expire_stands (attended : dispatcher.Attended came) (net : Nat → HandoverIo)
    (now : Instant) (held : exchange ∈ dispatcher.held) :
    (Journal.settlements (dispatcher.expire net now).journal exchange.promise = [] ∧
      ∃ place, (dispatcher.expire net now).places exchange.promise = [place]) ∨
    ∃ outcome,
      Journal.settlements (dispatcher.expire net now).journal exchange.promise = [outcome] ∧
      (dispatcher.expire net now).places exchange.promise = [] := by
  have leads : dispatcher.Leads (dispatcher.expire net now) :=
    (strides_expire net dispatcher now).leads
  have sound : Sound [] came ⟨dispatcher.expire net now, []⟩ :=
    (leads []).keeps (Sound [] came) (fun _ _ => Sound.move) attended.sound
  exact sound.held_or_settled (attended.of_held held).1

/-- Whatever was held is settled by a failure to connect, or for want of its own time. -/
theorem expire_settled (attended : dispatcher.Attended came) {net : Nat → HandoverIo}
    (held : exchange ∈ dispatcher.held) {outcome : Outcome Response}
    (settled : outcome ∈
      Journal.settlements (dispatcher.expire net now).journal exchange.promise) :
    (∃ error, outcome = .error (.transport error)) ∨
      exchange.isExpired now = true ∧ outcome = .error (.timeout exchange.timeout) := by
  obtain ⟨notes, journal, _, only⟩ := notes_expire net now attended.regular
  -- It was not settled before, and so it is settled by one of the notes.
  rw [journal, Journal.settlements_append, (attended.of_held held).2.1, List.nil_append,
    Journal.mem_settlements] at settled
  refine (only _ _ settled).imp_right ?_
  rintro ⟨other, alsoHeld, late, same, rfl⟩
  rw [attended.held_eq held alsoHeld same] at late ⊢
  exact ⟨late, rfl⟩

/-- Whatever has run out of time is rejected for that, unless it is overtaken. -/
theorem expire_inTime (attended : dispatcher.Attended came) (net : Nat → HandoverIo)
    (held : exchange ∈ dispatcher.held) (late : exchange.isExpired now = true)
    (first : ¬dispatcher.Overtaken now exchange) :
    Journal.settlements (dispatcher.expire net now).journal exchange.promise =
        [.error (.timeout exchange.timeout)] ∧
      (dispatcher.expire net now).places exchange.promise = [] := by
  obtain ⟨notes, journal, all, _⟩ := notes_expire net now attended.regular
  have settled : .error (.timeout exchange.timeout) ∈
      Journal.settlements (dispatcher.expire net now).journal exchange.promise := by
    rw [Journal.mem_settlements, journal]
    exact List.mem_append_right _ (all exchange held late first)
  -- What was noted is the only settlement, as there is at most one.
  rcases attended.expire_stands net now held with ⟨unsettled, _⟩ | ⟨outcome, one, nowhere⟩
  · rw [unsettled] at settled
    cases settled
  · rw [one] at settled
    rw [List.mem_singleton.1 settled]
    exact ⟨one, nowhere⟩

/-- Whatever was overtaken is settled, or a connection carries it. -/
theorem expire_overtaken (attended : dispatcher.Attended came) (net : Nat → HandoverIo)
    (overtaken : dispatcher.Overtaken now exchange) (late : exchange.isExpired now = true) :
    (∃ error,
      Journal.settlements (dispatcher.expire net now).journal exchange.promise = [.error error] ∧
      (dispatcher.expire net now).places exchange.promise = [] ∧
      (error = .timeout exchange.timeout ∨ ∃ failure, error = .transport failure)) ∨
    Journal.settlements (dispatcher.expire net now).journal exchange.promise = [] ∧
      ∃ key, (dispatcher.expire net now).places exchange.promise = [.connection key] := by
  have held := queued_held overtaken.1
  rcases attended.expire_stands net now held with ⟨unsettled, place, one⟩ | ⟨outcome, one, nowhere⟩
  · right
    refine ⟨unsettled, ?_⟩
    cases place with
    | connection key => exact ⟨key, one⟩
    | queue host =>
      -- Whatever waits is in time, and this exchange is not.
      obtain ⟨other, waits, same⟩ := queued_of_places (by rw [one]; exact List.mem_singleton_self _)
      have early := queued_expire net now waits
      obtain ⟨origin, alsoHeld, _, own, alike⟩ := stems_expire (queued_held waits)
      rw [alike, attended.held_eq held alsoHeld (own.symm.trans same), late] at early
      cases early
  · -- It is settled, by its own time-out or by an error of a pump.
    left
    rcases attended.expire_settled held (by rw [one]; exact List.mem_singleton_self _) with
      ⟨error, rfl⟩ | ⟨_, rfl⟩
    · exact ⟨_, one, nowhere, .inr ⟨error, rfl⟩⟩
    · exact ⟨_, one, nowhere, .inl rfl⟩

/-- Whatever a connection carries although it has run out of time was overtaken. -/
theorem expire_carried (attended : dispatcher.Attended came) (net : Nat → HandoverIo)
    (present : (dispatcher.expire net now).connections.get? key = some connection)
    (carried : connection.exchange = some exchange) (late : exchange.isExpired now = true) :
    ∃ origin, dispatcher.Overtaken now origin ∧ (exchange = origin ∨ exchange = origin.again) := by
  -- What is carried in the end was held in the beginning.
  obtain ⟨origin, held, stems, own, alike⟩ := stems_expire (carried_held present carried)
  refine ⟨origin, Classical.byContradiction fun first => ?_, stems⟩
  -- What was not overtaken is held nowhere any more.
  obtain ⟨_, nowhere⟩ := attended.expire_inTime net held (alike.symm.trans late) first
  have counted := holdings_pos (carried_held present carried)
  rw [own, ← length_places, nowhere] at counted
  cases counted

end Attended

/--
Expiry is complete but for exchanges that are overtaken, and exact.

The exchanges have promises of their own. When time has passed, an exchange that has run out of it
is rejected for that reason, with the time that it had, and is held nowhere any more; unless it
waited for a host to which a connection was lost for want of time. Then it may have been handed out,
so that a connection was the reason to reject it, or a connection carries it still. Nothing that has
run out of time waits any longer, what a connection carries so was overtaken, and no exchange that
has time left is rejected for want of it.
-/
theorem rejected_in_time (net : Nat → HandoverIo) (most : Nat) (keepAlive : Bool)
    (errands : List Errand) (now : Instant)
    (distinct : ((submitted errands).map Exchange.promise).Nodup) :
    let dispatcher := (fresh most keepAlive).attendAll net errands
    let next := dispatcher.expire net now
    (∀ exchange ∈ dispatcher.held, exchange.isExpired now = true →
      ¬dispatcher.Overtaken now exchange →
        Journal.settlements next.journal exchange.promise = [.error (.timeout exchange.timeout)] ∧
        next.places exchange.promise = []) ∧
    (∀ exchange, dispatcher.Overtaken now exchange → exchange.isExpired now = true →
      (∃ error, Journal.settlements next.journal exchange.promise = [.error error] ∧
        next.places exchange.promise = [] ∧
        (error = .timeout exchange.timeout ∨ ∃ failure, error = .transport failure)) ∨
      Journal.settlements next.journal exchange.promise = [] ∧
        ∃ key, next.places exchange.promise = [.connection key]) ∧
    (∀ exchange ∈ next.pools.queued, exchange.isExpired now = false) ∧
    (∀ key connection exchange, next.connections.get? key = some connection →
      connection.exchange = some exchange → exchange.isExpired now = true →
        ∃ origin, dispatcher.Overtaken now origin ∧
          (exchange = origin ∨ exchange = origin.again)) ∧
    ∀ exchange ∈ dispatcher.held, exchange.isExpired now = false →
      ∀ timeout, .error (.timeout timeout) ∉
        Journal.settlements next.journal exchange.promise := by
  intro dispatcher next
  have attended : dispatcher.Attended (submitted errands) :=
    attended_attendAll net most keepAlive distinct
  refine ⟨fun _ => attended.expire_inTime net, fun _ => attended.expire_overtaken net,
    fun _ => queued_expire net now, fun _ _ _ => attended.expire_carried net,
    fun exchange held early timeout settled => ?_⟩
  rcases attended.expire_settled held settled with ⟨error, transport⟩ | ⟨late, _⟩
  · -- Before its time an exchange is settled by the error of a connection only.
    cases transport
  · rw [early] at late
    cases late

/-- The request on the only connection runs out of time, together with the one behind it. -/
theorem rejected_in_time_first :
    let errands : List Errand := [.submit (rootRequest 0), .submit (rootRequest 1)]
    let next := ((fresh 1 true).attendAll openNet errands).expire openNet ⟨30000000000⟩
    ((submitted errands).map Exchange.promise).Nodup ∧
      Journal.settlements next.journal 0 = [.error (.timeout (.ofSecs 30))] ∧
      next.places 0 = [] := by
  have distinct : ((submitted [.submit (rootRequest 0), .submit (rootRequest 1)]).map
      Exchange.promise).Nodup := by decide
  refine ⟨distinct, (rejected_in_time openNet 1 true
    [.submit (rootRequest 0), .submit (rootRequest 1)] ⟨30000000000⟩ distinct).1 (rootRequest 0)
      ?_ ?_ ?_⟩
  · decide +kernel
  · decide
  · -- It does not wait.
    rintro ⟨waits, _⟩
    revert waits
    decide +kernel

/--
The request behind the one that runs out of time is not rejected, though its own time is up: it is
handed out while the first one is rejected.
-/
theorem overtaken_left :
    let dispatcher := (fresh 1 true).attendAll openNet
      [.submit (rootRequest 0), .submit (rootRequest 1)]
    ¬∀ exchange ∈ dispatcher.held, exchange.isExpired ⟨30000000000⟩ = true →
      Journal.settlements (dispatcher.expire openNet ⟨30000000000⟩).journal exchange.promise =
        [.error (.timeout exchange.timeout)] := by
  intro dispatcher complete
  have held : rootRequest 1 ∈ dispatcher.held := by decide +kernel
  have left : Journal.settlements (dispatcher.expire openNet ⟨30000000000⟩).journal 1 = [] := by
    decide +kernel
  have settled := complete (rootRequest 1) held (by decide)
  rw [show (rootRequest 1).promise = 1 from rfl, left] at settled
  cases settled

end Dispatcher

end HttpEngine
