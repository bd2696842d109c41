import HttpEngine.Proofs.Outbound.Queue
import HttpEngine.Proofs.Outbound.Retry

/-!
No exchange waits without need. Whenever a dispatcher is left to itself, an exchange waits for a
host only while the host has as many connections as it may have and none of them is idle. Not all
that makes room is followed by a pump: an idle connection may end, and the queue may lose some of
its exchanges. But nothing waits for a host with an idle connection, and a queue that grows shorter
is served if it was before.
-/

namespace HttpEngine

open scoped List

/-- A pool in which nothing waits, or every connection that there may be is in use. -/
def Pool.Served (pool : Pool) (most : Nat) : Prop :=
  pool.queue = [] ∨ pool.idle = [] ∧ most ≤ pool.connections

namespace Dispatcher

/-- A dispatcher that could hand out nothing, whatever it tried. -/
def Served (dispatcher : Dispatcher) : Prop :=
  ∀ host pool, dispatcher.pools.get? host = some pool →
    pool.Served dispatcher.maxConnectionsPerHost

/-- A dispatcher that could hand out nothing, except for one host perhaps. -/
def ServedBeside (dispatcher : Dispatcher) (host : String) : Prop :=
  ∀ other pool, other ≠ host → dispatcher.pools.get? other = some pool →
    pool.Served dispatcher.maxConnectionsPerHost

variable {dispatcher next : Dispatcher} {net : Nat → HandoverIo} {host : String}

/-- A change of one pool does not matter to the other hosts. -/
theorem Served.beside (served : dispatcher.Served)
    (same : ∀ other, other ≠ host → next.pools.get? other = dispatcher.pools.get? other)
    (most : next.maxConnectionsPerHost = dispatcher.maxConnectionsPerHost) :
    next.ServedBeside host := by
  intro other pool differs found
  rw [most]
  exact served other pool ((same other differs).symm.trans found)

/-- A pump does not change how many connections a host may have. -/
theorem most_pump (net : Nat → HandoverIo) (dispatcher : Dispatcher) (host : String) :
    (dispatcher.pump net host).maxConnectionsPerHost = dispatcher.maxConnectionsPerHost :=
  (leads_pump net dispatcher host).keeps
    (fun reached => reached.maxConnectionsPerHost = dispatcher.maxConnectionsPerHost)
    (fun _ _ _ _ move same => move.most.trans same) rfl

/-- A pump serves its host, and leaves the others served. -/
theorem served_pump (net : Nat → HandoverIo) (accounted : dispatcher.Accounted)
    (beside : dispatcher.ServedBeside host) : (dispatcher.pump net host).Served := by
  intro other pool found
  -- Behind the pump its own host has nothing to hand out, and the pools of the others are as
  -- before.
  by_cases here : other = host
  · subst here
    exact full_of_handOut_eq_none (handOut_pump net dispatcher other) found
  · rw [most_pump]
    have before : dispatcher.pools.get? other = some pool :=
      ((spares_pump net host accounted).pools other here).symm.trans found
    exact beside other pool here before

/-- Nothing waits for a host with an idle connection. -/
theorem Served.queue_eq_nil (served : dispatcher.Served) (accounted : dispatcher.Accounted)
    {pool : Pool} {key : Nat} (found : dispatcher.pools.get? host = some pool)
    (idle : IdleAt dispatcher.connections host key) : pool.queue = [] := by
  refine (served host pool found).resolve_right fun full => ?_
  have member := ((accounted.fits found).mem_idle key).2 idle
  rw [full.1] at member
  cases member

/-- An idle connection ends, and there is nothing that it could have taken. -/
theorem served_drop (served : dispatcher.Served) (accounted : dispatcher.Accounted) {key : Nat}
    {connection : Connection} (present : dispatcher.connections.get? key = some connection)
    (free : connection.exchange = none) (notes : List Transit) :
    (dispatcher.drop key connection.authority notes).Served := by
  intro other pool found
  -- The pool of its host counts one connection less, which leaves room.
  by_cases here : other = connection.authority
  · subst here
    rw [drop, Pools.get?_modify, if_pos rfl] at found
    obtain ⟨before, there, rfl⟩ := Option.map_eq_some_iff.1 found
    -- While a connection rests, nobody waits for the host.
    have nobody := served.queue_eq_nil accounted there ⟨connection, present, rfl, free⟩
    exact .inl nobody
  · rw [drop, get?_modify_of_ne _ here] at found
    exact served other pool found

/-- Every stride leaves a dispatcher served. -/
theorem Stride.served (stride : dispatcher.Stride net next) (accounted : dispatcher.Accounted)
    (served : dispatcher.Served) : next.Served := by
  cases stride with
  | discovered absent address =>
    -- Nobody waits yet for a host that was just found.
    intro host pool found
    rw [Pools.get?_insert absent] at found
    split at found
    · cases found
      exact .inl rfl
    · exact served host pool found
  | pumped host => exact served_pump net accounted (served.beside (fun _ _ => rfl) rfl)
  | tended present connected still writeBuffer => exact served
  | filled present arrival harmless => exact served
  | spoiled present free bytes => exact served_drop served accounted present free _
  | closed present free => exact served_drop served accounted present free _
  | lost present parting =>
    -- A connection is lost, and the pump gives its room to whoever waits.
    exact served_pump net (parting.leads.accounted accounted) (served.beside
      (parting.confined present).pools
      (parting.leads.keeps
        (fun reached => reached.maxConnectionsPerHost = dispatcher.maxConnectionsPerHost)
        (fun _ _ _ _ move same => move.most.trans same) rfl))
  | answered present carried connected decoded reusable =>
    -- The connection that was freed can be taken by the next exchange.
    have freed : dispatcher.Move [] _ _ := .answered present carried connected decoded reusable
    exact served_pump net (freed.accounted accounted)
      (served.beside (fun _ differs => get?_modify_of_ne _ differs _) rfl)
  | answeredLast present carried decoded =>
    -- The last answer ends the connection, and leaves its room.
    have freed : dispatcher.Move [] _ _ := .answeredLast present carried decoded
    exact served_pump net (freed.accounted accounted)
      (served.beside (fun _ differs => get?_modify_of_ne _ differs _) rfl)
  | overdue now =>
    -- The queues lose some of their exchanges, and nothing else changes.
    rw [expireQueues, rejectAll_eq]
    intro host pool found
    dsimp only at found
    rw [Pools.get?_mapAll] at found
    obtain ⟨before, there, rfl⟩ := Option.map_eq_some_iff.1 found
    exact (served host before there).imp_left fun nobody => by rw [Pool.expire, nobody]; rfl

/-- Strides leave a dispatcher served. -/
theorem Strides.served (strides : dispatcher.Strides net next) (accounted : dispatcher.Accounted)
    (served : dispatcher.Served) : next.Served := by
  induction strides with
  | refl => exact served
  | tail earlier stride ih => exact stride.served ((Strides.leads earlier).accounted accounted) ih

/-- An exchange that comes in is handed out if it can be. -/
theorem served_submit (net : Nat → HandoverIo) (accounted : dispatcher.Accounted)
    (served : dispatcher.Served) (exchange : Exchange) :
    (dispatcher.submit net exchange).Served := by
  have intake := intake_submit net dispatcher exchange
  generalize dispatcher.submit net exchange = next at intake ⊢
  cases intake with
  | admitted found =>
    -- The exchange stands behind the others for its host.
    have entry : dispatcher.Entry exchange _ := .admitted found
    exact served_pump net (entry.accounted accounted)
      (served.beside (fun _ differs => get?_modify_of_ne _ differs _) rfl)
  | refused error => exact served
  | discovered absent address =>
    -- The pump serves the new host, and the other pools are those before the lookup.
    have discovered : dispatcher.Move [] _ _ := .discovered absent address
    refine served_pump net
      ((entry_discovered absent address).accounted (discovered.accounted accounted))
      (served.beside (fun other differs => ?_) rfl)
    refine (get?_modify_of_ne _ differs _).trans ?_
    exact (Pools.get?_insert absent _ _).trans (if_neg differs)

/-- Errands do not change how many connections a host may have. -/
theorem most_attendAll (net : Nat → HandoverIo) (most : Nat) (keepAlive : Bool)
    (errands : List Errand) :
    ((fresh most keepAlive).attendAll net errands).maxConnectionsPerHost = most :=
  attendAll_keeps (fun _ desk => desk.dispatcher.maxConnectionsPerHost = most)
    (fun _ _ _ move same => move.most.trans same) (fun _ _ _ _ entry same => entry.most.trans same)
    net errands [] rfl

/-- Every errand leaves a dispatcher served. -/
theorem served_attend (net : Nat → HandoverIo) (accounted : dispatcher.Accounted)
    (served : dispatcher.Served) (errand : Errand) : (dispatcher.attend net errand).Served := by
  cases errand with
  | submit exchange => exact served_submit net accounted served exchange
  | ready key ready io =>
    exact (strides_onReady net dispatcher key ready io).served accounted served
  | expire now => exact (strides_expire net dispatcher now).served accounted served

/-- Whatever the errands are, they leave a dispatcher served. -/
theorem served_attendAll (net : Nat → HandoverIo) (most : Nat) (keepAlive : Bool)
    (errands : List Errand) : ((fresh most keepAlive).attendAll net errands).Served := by
  -- A run of errands is served if the last one is attended by a dispatcher that was.
  induction errands using List.reverseRecOn with
  | nil =>
    intro host pool found
    cases found
  | append_singleton errands errand ih =>
    obtain ⟨regular, _⟩ := told_attendAll net most keepAlive errands
    rw [attendAll, List.foldl_append]
    exact served_attend net regular.accounted ih errand

/--
The exchanges for a host have their first turns in the order in which they came in, and none of them
waits without need.

The exchanges have promises of their own. Those for a host that were started at all were started for
the first time in the order in which they came in, and those that wait for their first start came in
behind them. What came in, was not started and does not wait was rejected, and nothing is started
when the dispatcher ends. While anything waits for a host, all the connections that the host may
have are open, and none of them is idle.
-/
theorem first_in_first_out (net : Nat → HandoverIo) (most : Nat) (keepAlive : Bool)
    (errands : List Errand) (host : String)
    (distinct : ((submitted errands).map Exchange.promise).Nodup) :
    let dispatcher := (fresh most keepAlive).attendAll net errands
    let came := promisesFor (submitted errands) host
    (Journal.firstStarts dispatcher.journal host =
        came.filter fun promise => 0 < Journal.starts dispatcher.journal promise) ∧
    dispatcher.lineup host <+ came ∧
    (∀ promise ∈ came, 0 < Journal.starts dispatcher.journal promise ∨
      promise ∈ dispatcher.pools.waitingFor host ∨
      ∃ error, Journal.settlements dispatcher.journal promise = [.error error]) ∧
    (∀ others, Journal.firstStarts (dispatcher.abort others).journal host =
      Journal.firstStarts dispatcher.journal host) ∧
    ∀ pool, dispatcher.pools.get? host = some pool → pool.queue ≠ [] →
      pool.idle = [] ∧ pool.connections = most ∧
        dispatcher.connections.count (·.authority == host) = most ∧
        ∀ key, ¬IdleAt dispatcher.connections host key := by
  intro dispatcher came
  -- The errands have kept all that is needed: the accounts, the order, and who is served.
  have attended : dispatcher.Attended (submitted errands) :=
    attended_attendAll net most keepAlive distinct
  have ordered : ∀ host, dispatcher.lineup host <+ promisesFor (submitted errands) host :=
    lineup_attendAll net most keepAlive errands
  have told := (told_attendAll net most keepAlive errands).2
  refine ⟨?_, ordered host,
    fun promise => started_waits_or_rejected attended told distinct ordered,
    fun others => firstStarts_abort dispatcher others host, fun pool found waits => ?_⟩
  · -- The first starts are a part of what came in, in the same order, and so are those that are
    -- filtered.
    have first : Journal.firstStarts dispatcher.journal host <+ came :=
      (List.sublist_append_left _ _).trans (ordered host)
    refine eq_filter_of_sublist first (promisesFor_nodup distinct host) fun promise member => ?_
    rw [Journal.mem_firstStarts, started_at_home distinct ordered member, decide_eq_true_iff]
  · -- Something waits for the host, so that its pool is full.
    have fits := attended.regular.accounted.fits found
    have same : dispatcher.maxConnectionsPerHost = most := most_attendAll net most keepAlive errands
    obtain ⟨rested, full⟩ :=
      (served_attendAll net most keepAlive errands host pool found).resolve_left waits
    have open_ : pool.connections = most :=
      Nat.le_antisymm (same ▸ fits.bounded) (same ▸ full)
    refine ⟨rested, open_, fits.counted.symm.trans open_, fun key idle => ?_⟩
    -- A connection that could be taken would be in the pool.
    have member := (fits.mem_idle key).2 idle
    rw [rested] at member
    cases member

/--
One connection has brought a response, and ends when it is used again. The exchange that is put back
in front of another has had its first turn already.
-/
theorem first_in_first_out_retried :
    let errands : List Errand :=
      [.submit (rootRequest 0), answerOn 0, .submit (rootRequest 1), .submit (rootRequest 2),
        endOf 0]
    let dispatcher := (fresh 1 true).attendAll openNet errands
    ((submitted errands).map Exchange.promise).Nodup ∧
      Journal.startsAt dispatcher.journal "127.0.0.1:80" = [0, 1, 1] ∧
      dispatcher.pools.waitingFor "127.0.0.1:80" = [2] ∧
      Journal.firstStarts dispatcher.journal "127.0.0.1:80" = [0, 1] ∧
      dispatcher.lineup "127.0.0.1:80" <+ [0, 1, 2] ∧
      dispatcher.connections.count (·.authority == "127.0.0.1:80") = 1 := by
  intro errands dispatcher
  have distinct : ((submitted errands).map Exchange.promise).Nodup := by decide
  obtain ⟨first, ordered, _, _, full⟩ :=
    first_in_first_out openNet 1 true errands "127.0.0.1:80" distinct
  -- The run is computed, and what it comes to follows from the theorem.
  have waits : dispatcher.pools.waitingFor "127.0.0.1:80" = [2] := by decide +kernel
  obtain ⟨pool, exchange, found, queued, _⟩ :=
    Pools.mem_waitingFor.1 (waits ▸ List.mem_singleton_self 2)
  refine ⟨distinct, by decide +kernel, waits, first.trans (by decide +kernel), ordered, ?_⟩
  exact (full pool found (List.ne_nil_of_mem queued)).2.2.1

end Dispatcher

end HttpEngine
