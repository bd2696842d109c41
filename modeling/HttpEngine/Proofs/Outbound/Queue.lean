import HttpEngine.Proofs.Outbound.Answers
import HttpEngine.Proofs.Outbound.Expiry
import Mathlib.Data.List.Perm.Subperm

/-!
The order in which the exchanges for a host have their turn. An exchange that comes in goes to the
end of the queue, and what is handed out is taken from its front. Exchanges leave from the middle
when their time is over, and come back to the front when a connection was stale, but those that come
back have had their first turn already.
-/

namespace HttpEngine

open scoped List

/-- The promise of the exchange for a host that is started, if one is. -/
def Transit.startAt? (host : String) : Transit → Option Nat
  | started _ exchange => if exchange.authority = host then some exchange.promise else none
  | _ => none

namespace Journal

/-- The promises of the exchanges for a host that were started, once for every start. -/
def startsAt (journal : List Transit) (host : String) : List Nat :=
  journal.filterMap (Transit.startAt? host)

/-- The promises of the exchanges for a host, in the order of their first starts. -/
def firstStarts (journal : List Transit) (host : String) : List Nat :=
  (startsAt journal host).eraseDups

variable {journal notes : List Transit} {host : String} {promise : Nat}

/-- What is started later comes later. -/
@[simp] theorem startsAt_append :
    startsAt (journal ++ notes) host = startsAt journal host ++ startsAt notes host :=
  List.filterMap_append

/-- A start counts for the host of its exchange. -/
theorem startsAt_started (key : Nat) (exchange : Exchange) (host : String) :
    startsAt [.started key exchange] host =
      if exchange.authority = host then [exchange.promise] else [] := by
  simp only [startsAt, List.filterMap_cons, Transit.startAt?]
  split <;> simp_all

/-- The exchange of a start at a host is one for the host. -/
theorem mem_startsAt : promise ∈ startsAt journal host ↔
    ∃ key exchange, .started key exchange ∈ journal ∧ exchange.authority = host ∧
      exchange.promise = promise := by
  rw [startsAt, List.mem_filterMap]
  constructor
  · rintro ⟨note, member, found⟩
    -- Only the note of a start is counted for a host.
    cases note with
    | started key exchange =>
      obtain ⟨here, same⟩ := Option.ite_none_right_eq_some.1 found
      exact ⟨key, exchange, member, here, Option.some.inj same⟩
    | _ => cases found
  · rintro ⟨key, exchange, member, rfl, rfl⟩
    exact ⟨_, member, if_pos rfl⟩

/-- A promise was started if it was started at some host. -/
theorem starts_pos_iff : 0 < starts journal promise ↔ ∃ host, promise ∈ startsAt journal host := by
  rw [starts, List.countP_pos_iff]
  constructor
  · rintro ⟨note, member, begins⟩
    cases note with
    | started key exchange =>
      exact ⟨exchange.authority, mem_startsAt.2
        ⟨key, exchange, member, rfl, by simpa [Transit.starts] using begins⟩⟩
    | _ => cases begins
  · rintro ⟨host, member⟩
    obtain ⟨key, exchange, started, _, same⟩ := mem_startsAt.1 member
    exact ⟨_, started, starts_of_promise key same⟩

/-- A response comes to an exchange that was started. -/
theorem Told.started (told : Told journal) {response : Response}
    (resolved : .settled promise (.ok response) ∈ journal) : 0 < starts journal promise := by
  obtain ⟨before, after, whole⟩ := List.append_of_mem resolved
  obtain ⟨earlier, key, later, found, exchange, rfl, there, carried, same⟩ :=
    told.owed before promise response after whole
  obtain ⟨first, _, between, rfl, _⟩ := exists_start there carried
  exact List.countP_pos_iff.2 ⟨.started key exchange, by simp [whole], starts_of_promise key same⟩

/-- What was started first is among what was started. -/
@[simp] theorem mem_firstStarts :
    promise ∈ firstStarts journal host ↔ promise ∈ startsAt journal host :=
  List.mem_eraseDups

end Journal

/-- The promises of the exchanges that wait for a host, the next one in front. -/
def Pools.waitingFor (pools : Pools) (host : String) : List Nat :=
  ((pools.get? host).map fun pool => pool.queue.map Exchange.promise).getD []

namespace Pools

variable {pools others : Pools} {host other : String} {pool : Pool} {promise : Nat}

/-- What waits for a host waits in its pool. -/
theorem waitingFor_eq (found : pools.get? host = some pool) :
    pools.waitingFor host = pool.queue.map Exchange.promise := by
  rw [waitingFor, found]
  rfl

/-- What waits for a host is told by its pool. -/
theorem waitingFor_congr (same : others.get? host = pools.get? host) :
    others.waitingFor host = pools.waitingFor host := by
  rw [waitingFor, same, waitingFor]

/-- Some exchange that waits has the promise. -/
theorem mem_waitingFor : promise ∈ pools.waitingFor host ↔
    ∃ pool exchange, pools.get? host = some pool ∧ exchange ∈ pool.queue ∧
      exchange.promise = promise := by
  cases found : pools.get? host with
  | none => simp [waitingFor, found]
  | some pool => simp [waitingFor, found]

/-- What waits is kept by a change of a pool that keeps its queue. -/
theorem waitingFor_modify_of_kept {change : Pool → Pool}
    (keeps : ∀ pool, (change pool).queue = pool.queue) :
    (pools.modify host change).waitingFor other = pools.waitingFor other := by
  rw [waitingFor, waitingFor, get?_modify]
  split
  · cases pools.get? other <;> simp [keeps]
  · rfl

/-- What waits at a host whose pool was changed. -/
theorem waitingFor_modify_self (found : pools.get? host = some pool) (change : Pool → Pool) :
    (pools.modify host change).waitingFor host = (change pool).queue.map Exchange.promise :=
  waitingFor_eq (by rw [get?_modify, if_pos rfl, found]; rfl)

/-- What waits at the other hosts is as it was. -/
theorem waitingFor_modify_of_ne (differs : other ≠ host) (change : Pool → Pool) :
    (pools.modify host change).waitingFor other = pools.waitingFor other :=
  waitingFor_congr (by rw [get?_modify, if_neg differs])

/-- Nothing waits in a new pool, and nothing waited before it was there. -/
theorem waitingFor_insert (absent : pools.get? host = none) (nobody : pool.queue = []) :
    (pools.insert host pool).waitingFor other = pools.waitingFor other := by
  rw [waitingFor, waitingFor, get?_insert absent]
  split
  · -- The new host is asked for, and nobody waits there.
    rename_i here
    subst here
    simp [absent, nobody]
  · rfl

/-- Some of those who waited have run out of time, and the others wait on. -/
theorem waitingFor_expire (pools : Pools) (now : Instant) (host : String) :
    (pools.mapAll fun _ pool => pool.expire now).waitingFor host <+ pools.waitingFor host := by
  rw [waitingFor, waitingFor, get?_mapAll]
  cases pools.get? host with
  | none => exact .refl _
  | some pool => exact List.filter_sublist.map Exchange.promise

end Pools

/-- Values in the order of their first turns, and those without a turn that wait behind them. -/
def inOrder (turns waiting : List Nat) : List Nat :=
  turns.eraseDups ++ waiting.removeAll turns

section InOrder

variable {turns waiting fewer : List Nat} {value : Nat}

/-- What is in the order had its turn or waits for it. -/
theorem mem_inOrder : value ∈ inOrder turns waiting ↔ value ∈ turns ∨ value ∈ waiting := by
  by_cases before : value ∈ turns <;> simp [inOrder, List.removeAll, before]

/-- The order loses those who wait no longer. -/
theorem inOrder_sublist (left : fewer <+ waiting) : inOrder turns fewer <+ inOrder turns waiting :=
  (List.Sublist.refl _).append (left.filter _)

/-- A value that has had its turn may wait again. -/
theorem inOrder_cons_of_mem (before : value ∈ turns) (waiting : List Nat) :
    inOrder turns (value :: waiting) = inOrder turns waiting := by
  rw [inOrder, List.removeAll, List.filter_cons_of_neg (by simpa using before)]
  rfl

/-- One more value comes in at the end, unless it has had its turn. -/
theorem inOrder_concat_sublist :
    inOrder turns (waiting ++ [value]) <+ inOrder turns waiting ++ [value] := by
  rw [inOrder, inOrder, List.removeAll, List.filter_append, List.append_assoc]
  exact (List.Sublist.refl _).append ((List.Sublist.refl _).append List.filter_sublist)

/-- The order stays when the next one has its turn. -/
theorem inOrder_turn_sublist :
    inOrder (turns ++ [value]) waiting <+ inOrder turns (value :: waiting) := by
  -- The others that wait have had no turn, neither before nor now.
  have behind : waiting.removeAll (turns ++ [value]) <+ waiting.removeAll turns :=
    List.monotone_filter_right waiting fun other => by simp +contextual
  rw [inOrder, List.eraseDups_append]
  by_cases before : value ∈ turns
  · rw [inOrder_cons_of_mem before, List.removeAll, List.filter_cons_of_neg (by simpa using before)]
    simpa [inOrder] using behind
  · have newly : ([value].removeAll turns).eraseDups = [value] := by
      simp [List.removeAll, before, List.eraseDups_cons]
    rw [newly, inOrder, List.cons_removeAll, if_pos (by simpa using before), List.append_assoc]
    exact (List.Sublist.refl _).append (behind.cons_cons value)

/-- A part of a list of different values in the same order is made of those with some property. -/
theorem eq_filter_of_sublist {few all : List Nat} {property : Nat → Bool} (order : few <+ all)
    (distinct : all.Nodup) (member : ∀ value ∈ all, value ∈ few ↔ property value = true) :
    few = all.filter property := by
  -- All the values in the part have the property.
  have kept : few.filter property = few :=
    List.filter_eq_self.2 fun value inside => (member value (order.subset inside)).1 inside
  have part : few <+ all.filter property := kept ▸ order.filter property
  -- There are no more values with the property than those in the part.
  refine part.eq_of_length_le (List.Nodup.subperm (distinct.filter property) ?_).length_le
  intro value inside
  obtain ⟨there, holds⟩ := List.mem_filter.1 inside
  exact (member value there).2 holds

end InOrder

/-- The promises of the exchanges for a host among those that came in, in the order they came. -/
def promisesFor (came : List Exchange) (host : String) : List Nat :=
  (came.filter (·.authority == host)).map Exchange.promise

section PromisesFor

variable {came later : List Exchange} {host other : String} {promise : Nat}

/-- What comes in later stands behind what came before. -/
@[simp] theorem promisesFor_append :
    promisesFor (came ++ later) host = promisesFor came host ++ promisesFor later host := by
  simp [promisesFor]

/-- A promise is one of an exchange that came in for the host. -/
theorem mem_promisesFor : promise ∈ promisesFor came host ↔
    ∃ exchange ∈ came, exchange.authority = host ∧ exchange.promise = promise := by
  simp [promisesFor, and_assoc]

/-- Where every exchange has a promise of its own, so have those for one host. -/
theorem promisesFor_nodup (distinct : (came.map Exchange.promise).Nodup) (host : String) :
    (promisesFor came host).Nodup :=
  distinct.sublist (List.filter_sublist.map Exchange.promise)

/-- Where every exchange has a promise of its own, a promise belongs to one host. -/
theorem host_unique (distinct : (came.map Exchange.promise).Nodup)
    (here : promise ∈ promisesFor came host) (there : promise ∈ promisesFor came other) :
    other = host := by
  obtain ⟨exchange, member, rfl, rfl⟩ := mem_promisesFor.1 here
  obtain ⟨second, alsoMember, rfl, same⟩ := mem_promisesFor.1 there
  -- Only one exchange came in with the promise.
  have one : second = exchange :=
    Dispatcher.eq_of_countP_le_one (Dispatcher.countP_le_one distinct exchange.promise)
      alsoMember (by simp [Exchange.isFor, same]) member (by simp [Exchange.isFor])
  rw [one]

end PromisesFor

namespace Dispatcher

/--
The promises of the exchanges for a host, in the order of their first starts, and behind them those
that wait and were never started.
-/
def lineup (dispatcher : Dispatcher) (host : String) : List Nat :=
  inOrder (Journal.startsAt dispatcher.journal host) (dispatcher.pools.waitingFor host)

variable {dispatcher next : Dispatcher} {host : String} {hand rest : List Exchange}

/-- Where nothing is started, the order loses at most some of those who wait. -/
theorem lineup_sublist_of_quiet (notes : List Transit)
    (journal : next.journal = dispatcher.journal ++ notes)
    (quiet : Journal.startsAt notes host = [])
    (fewer : next.pools.waitingFor host <+ dispatcher.pools.waitingFor host) :
    next.lineup host <+ dispatcher.lineup host := by
  rw [lineup, journal, Journal.startsAt_append, quiet, List.append_nil]
  exact inOrder_sublist fewer

/-- The first exchange that waits for its host is started. -/
theorem lineup_sublist_of_start {pool : Pool} {exchange : Exchange} {waiting : List Exchange}
    (found : dispatcher.pools.get? exchange.authority = some pool)
    (queued : pool.queue = exchange :: waiting) (notes : List Transit) (change : Pool → Pool)
    (keeps : ∀ pool, (change pool).queue = pool.queue)
    (journal : next.journal = dispatcher.journal ++ notes)
    (pools : next.pools = (dispatcher.unqueue exchange.authority waiting change).pools)
    (starts : ∀ host, Journal.startsAt notes host =
      if exchange.authority = host then [exchange.promise] else []) :
    next.lineup host <+ dispatcher.lineup host := by
  by_cases here : exchange.authority = host
  · -- It leaves the front of the queue for the end of those that were started.
    subst here
    rw [lineup, lineup, journal, Journal.startsAt_append, starts, if_pos rfl, pools, unqueue,
      Pools.waitingFor_modify_self found, keeps, Pools.waitingFor_eq found, queued]
    exact inOrder_turn_sublist
  · -- The exchange is for another host, where nobody moves.
    refine lineup_sublist_of_quiet notes journal (by rw [starts, if_neg here]) ?_
    rw [pools, unqueue, Pools.waitingFor_modify_of_ne (Ne.symm here)]

/-- The end of a connection starts nothing, and leaves the queues alone. -/
theorem lineup_drop (accounted : dispatcher.Accounted) {key : Nat} {connection : Connection}
    (present : dispatcher.connections.get? key = some connection) {notes : List Transit}
    (quiet : Journal.startsAt notes host = []) :
    (dispatcher.drop key connection.authority notes).lineup host <+ dispatcher.lineup host := by
  refine lineup_sublist_of_quiet _ (accounted.journal_drop present notes) ?_ ?_
  · rw [Journal.startsAt_append, quiet]
    rfl
  · rw [drop, Pools.waitingFor_modify_of_kept (by intro pool; rfl)]

/-- What a connection carries was started at its host. -/
theorem Regular.started (regular : dispatcher.Regular) {key : Nat} {connection : Connection}
    {exchange : Exchange} (present : dispatcher.connections.get? key = some connection)
    (carried : connection.exchange = some exchange) :
    exchange.promise ∈ Journal.startsAt dispatcher.journal connection.authority := by
  obtain ⟨found, there, shows_⟩ := regular.recorded.live present
  obtain ⟨earlier, _, between, journal, _⟩ :=
    Journal.exists_start there (shows_.carried.trans carried)
  exact Journal.mem_startsAt.2
    ⟨key, exchange, by simp [journal], regular.housed.travels present carried, rfl⟩

/-- An exchange that goes back to the front of its queue was started for its host before. -/
theorem lineup_requeue_sublist (regular : dispatcher.Regular) {key : Nat}
    {connection : Connection} {exchange : Exchange} {pool : Pool}
    (present : dispatcher.connections.get? key = some connection)
    (carried : connection.exchange = some exchange)
    (found : dispatcher.pools.get? connection.authority = some pool) (host : String) :
    (((dispatcher.drop key connection.authority []).modifyPool connection.authority
      (·.requeue exchange.again)).record (.requeued exchange.again)).lineup host <+
        dispatcher.lineup host := by
  -- The connection ends first, which takes nobody out of the order.
  have ended : (dispatcher.drop key connection.authority []).lineup host <+
      dispatcher.lineup host := lineup_drop regular.accounted present rfl
  refine List.Sublist.trans ?_ ended
  by_cases here : host = connection.authority
  · -- It waits in front of the others, but its place in the order is that of its first start.
    subst here
    have before : exchange.promise ∈ Journal.startsAt
        (dispatcher.drop key connection.authority []).journal connection.authority := by
      rw [regular.accounted.journal_drop present, Journal.startsAt_append]
      exact List.mem_append_left _ (regular.started present carried)
    have silent : Journal.startsAt [.requeued exchange.again] connection.authority = [] := rfl
    have forgotten : (dispatcher.drop key connection.authority []).pools.get?
        connection.authority = some (pool.forget key) := by
      rw [drop, Pools.get?_modify, if_pos rfl, found]
      rfl
    have same := inOrder_cons_of_mem before ((pool.forget key).queue.map Exchange.promise)
    rw [lineup, lineup, record, modifyPool, Journal.startsAt_append, silent, List.append_nil,
      Pools.waitingFor_modify_self forgotten, Pools.waitingFor_eq forgotten]
    exact same ▸ .refl _
  · refine lineup_sublist_of_quiet [.requeued exchange.again] rfl rfl ?_
    rw [record, modifyPool, Pools.waitingFor_modify_of_ne here]

/-- No move lets an exchange overtake another before their first starts. -/
theorem Move.lineup_sublist (move : dispatcher.Move hand next rest)
    (regular : dispatcher.Regular) (host : String) :
    next.lineup host <+ dispatcher.lineup host := by
  -- Exchanges wait at the host that they are for.
  have first : ∀ {host : String} {pool : Pool} {exchange : Exchange} {waiting : List Exchange},
      dispatcher.pools.get? host = some pool → pool.queue = exchange :: waiting →
      exchange.authority = host := fun found queued =>
    regular.housed.waits found (queued ▸ List.mem_cons_self)
  cases move with
  | discovered absent address =>
    -- A new host has nobody waiting yet.
    refine lineup_sublist_of_quiet [] (List.append_nil _).symm rfl ?_
    rw [Pools.waitingFor_insert absent rfl]
  | unreachable found queued error =>
    -- The first one that waits goes without a start.
    rename_i home pool exchange waiting
    refine lineup_sublist_of_quiet [.settled exchange.promise (.error error)] rfl rfl ?_
    by_cases here : host = home
    · subst here
      rw [reject, settle, record, unqueue, Pools.waitingFor_modify_self found,
        Pools.waitingFor_eq found, queued]
      exact List.sublist_cons_self _ _
    · rw [reject, settle, record, unqueue, Pools.waitingFor_modify_of_ne here]
  | misdirected found queued rested gone error =>
    exact absurd (regular.accounted.idle found rested) (not_idleAt gone)
  | reused found queued rested present =>
    -- The first one that waits is started on an idle connection.
    rename_i home pool exchange waiting key idle connection
    have here := first found queued
    subst here
    exact lineup_sublist_of_start found queued [.started key exchange] (·.withIdle idle)
      (fun _ => rfl) rfl rfl (Journal.startsAt_started key exchange)
  | opened found queued rested room =>
    -- Or it is started on a new one.
    rename_i home pool exchange waiting
    have here := first found queued
    subst here
    exact lineup_sublist_of_start found queued
      [.opened dispatcher.connections.nextKey exchange.authority,
        .started dispatcher.connections.nextKey exchange] Pool.addConnection
      (fun _ => rfl) (List.append_assoc ..) rfl
      (Journal.startsAt_started dispatcher.connections.nextKey exchange)
  | tended present connected still writeBuffer =>
    exact lineup_sublist_of_quiet [] (List.append_nil _).symm rfl (.refl _)
  | filled present arrival harmless =>
    rename_i key connection
    exact lineup_sublist_of_quiet [.arrived key arrival.bytes] rfl rfl (.refl _)
  | answered present carried connected decoded reusable =>
    rename_i key connection polled exchange response consumed
    refine lineup_sublist_of_quiet [.answered key response] rfl rfl ?_
    rw [modifyPool, Pools.waitingFor_modify_of_kept (by intro pool; rfl)]
    exact .refl _
  | answeredLast present carried decoded =>
    -- The end of a connection leaves the queue as it is.
    exact lineup_drop regular.accounted present rfl
  | spoiled present free bytes => exact lineup_drop regular.accounted present rfl
  | closed present => exact lineup_drop regular.accounted present rfl
  | retried present carried stale found =>
    exact lineup_requeue_sublist regular present carried found host
  | settled held outcome =>
    rename_i exchange
    exact lineup_sublist_of_quiet [.settled exchange.promise outcome] rfl rfl (.refl _)
  | overdue now =>
    -- The ones that have run out of time leave the queue, and the others stay in their order.
    exact lineup_sublist_of_quiet [] (List.append_nil _).symm rfl
      (dispatcher.pools.waitingFor_expire now host)

/-- An exchange that comes in goes behind all others for its host. -/
theorem Entry.lineup_sublist {exchange : Exchange} (entry : dispatcher.Entry exchange next)
    (host : String) :
    next.lineup host <+ dispatcher.lineup host ++ promisesFor [exchange] host := by
  -- An exchange comes in at the end of the queue, or does not come in at all.
  cases entry with
  | refused error =>
    have same : ((dispatcher.record (.received exchange)).reject exchange error).lineup host <+
        dispatcher.lineup host :=
      lineup_sublist_of_quiet _ (List.append_assoc ..) rfl (.refl _)
    exact same.trans (List.sublist_append_left _ _)
  | admitted found =>
    rename_i pool
    have silent : Journal.startsAt (dispatcher.journal ++ [.received exchange]) host =
        Journal.startsAt dispatcher.journal host := by
      rw [Journal.startsAt_append]
      exact List.append_nil _
    rw [lineup, modifyPool, record]
    dsimp only
    rw [silent]
    by_cases here : host = exchange.authority
    · subst here
      have last : promisesFor [exchange] exchange.authority = [exchange.promise] := by
        simp [promisesFor]
      rw [Pools.waitingFor_modify_self found, last, Pool.enqueue, List.map_append, lineup,
        Pools.waitingFor_eq found]
      exact inOrder_concat_sublist
    · rw [Pools.waitingFor_modify_of_ne here]
      exact List.sublist_append_left _ _

/-- The exchanges for a host have their first turns in the order in which they came in. -/
theorem lineup_attendAll (net : Nat → HandoverIo) (most : Nat) (keepAlive : Bool)
    (errands : List Errand) (host : String) :
    ((fresh most keepAlive).attendAll net errands).lineup host <+
      promisesFor (submitted errands) host :=
  -- What is shown for a move and for an entry holds at the end of all errands.
  (attendAll_keeps
    (fun came desk => desk.dispatcher.Regular ∧
      ∀ host, desk.dispatcher.lineup host <+ promisesFor came host)
    (fun _ _ _ move kept => ⟨move.regular kept.1,
      fun host => (move.lineup_sublist kept.1 host).trans (kept.2 host)⟩)
    (fun came _ _ exchange entry kept => ⟨entry.regular kept.1, fun host => by
      rw [promisesFor_append]
      exact (entry.lineup_sublist host).trans ((kept.2 host).append (.refl _))⟩)
    net errands [] ⟨.fresh most keepAlive, fun _ => .refl _⟩).2 host

/-- Nothing is started at the end. -/
theorem firstStarts_abort (dispatcher : Dispatcher) (others : List Exchange) (host : String) :
    Journal.firstStarts (dispatcher.abort others).journal host =
      Journal.firstStarts dispatcher.journal host := by
  -- All that is noted is settlements.
  rw [abort, rejectAll_eq, Journal.firstStarts, Journal.startsAt_append, Journal.firstStarts]
  simp [Journal.startsAt, List.filterMap_map, Function.comp_def, Transit.startAt?]

/-- What was started was started at the host for which it came in. -/
theorem started_at_home {came : List Exchange} {promise : Nat}
    (distinct : (came.map Exchange.promise).Nodup)
    (ordered : ∀ host, dispatcher.lineup host <+ promisesFor came host)
    (member : promise ∈ promisesFor came host) :
    promise ∈ Journal.startsAt dispatcher.journal host ↔
      0 < Journal.starts dispatcher.journal promise := by
  rw [Journal.starts_pos_iff]
  refine ⟨fun started => ⟨host, started⟩, ?_⟩
  rintro ⟨other, started⟩
  have there := (ordered other).subset (mem_inOrder.2 (.inl started))
  rwa [← host_unique distinct member there]

/-- What came in was started, or waits for its host, or was rejected. -/
theorem started_waits_or_rejected {came : List Exchange} {promise : Nat}
    (attended : dispatcher.Attended came) (told : Journal.Told dispatcher.journal)
    (distinct : (came.map Exchange.promise).Nodup)
    (ordered : ∀ host, dispatcher.lineup host <+ promisesFor came host)
    (member : promise ∈ promisesFor came host) :
    0 < Journal.starts dispatcher.journal promise ∨
      promise ∈ dispatcher.pools.waitingFor host ∨
      ∃ error, Journal.settlements dispatcher.journal promise = [.error error] := by
  -- The exchange came in, so that it is held or has its outcome.
  obtain ⟨exchange, inside, _, rfl⟩ := mem_promisesFor.1 member
  rcases attended.sound.held_or_settled (countP_eq_one distinct inside) with
    ⟨_, place, one⟩ | ⟨outcome, settled, _⟩
  · -- It is held, on a connection or in a queue.
    have counted : 0 < dispatcher.held.countP (Exchange.isFor exchange.promise) := by
      rw [countP_held, ← length_places, one]
      exact Nat.one_pos
    obtain ⟨other, held, isFor⟩ := List.countP_pos_iff.1 counted
    have same : other.promise = exchange.promise := by simpa [Exchange.isFor] using isFor
    rw [← same] at member ⊢
    rcases mem_held.1 held with ⟨key, connection, present, carried⟩ | waits
    · exact .inl (Journal.starts_pos_iff.2 ⟨_, attended.regular.started present carried⟩)
    · obtain ⟨home, pool, found, queued⟩ := Pools.mem_queued.1 waits
      have there : other.promise ∈ dispatcher.pools.waitingFor home :=
        Pools.mem_waitingFor.2 ⟨pool, other, found, queued, rfl⟩
      have same := host_unique distinct member
        ((ordered home).subset (mem_inOrder.2 (.inr there)))
      exact .inr (.inl (same ▸ there))
  · -- A response is only given to an exchange that was started.
    cases outcome with
    | error error => exact .inr (.inr ⟨error, settled⟩)
    | ok response =>
      have noted : .settled exchange.promise (.ok response) ∈ dispatcher.journal :=
        Journal.mem_settlements.1 (by rw [settled]; exact List.mem_singleton_self _)
      exact .inl (told.started noted)

end Dispatcher

end HttpEngine
