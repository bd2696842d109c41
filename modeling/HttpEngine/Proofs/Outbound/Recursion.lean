import HttpEngine.Proofs.Loop
import HttpEngine.Proofs.Outbound.Retry

/-!
A pump as calls that call each other: handing out calls for an exchange to be given to a connection,
which may call for the connection to be given up, which calls for handing out again. The calls
return after a number of steps that the waiting exchanges bound, whatever the network does.
-/

namespace HttpEngine

namespace Dispatcher

/-- A call that has not returned yet. -/
inductive Running where
  | pump (host : String)
  | assign (key : Nat) (exchange : Exchange) (io : HandoverIo)
  | fail (key : Nat) (error : Error)
  | failOrRetry (key : Nat) (error : Error)

/--
One round of handing out: the first exchange that waits leaves its queue, and is to be given to a
connection unless it was rejected. Nothing is said where the handing out returns.
-/
def takeOut? (net : Nat → HandoverIo) (dispatcher : Dispatcher) (host : String) :
    Option (Dispatcher × Option (Nat × Exchange × HandoverIo)) :=
  match dispatcher.pools.get? host with
  | none => none
  | some pool =>
    match pool.queue with
    | [] => none
    | exchange :: waiting =>
      let io := net dispatcher.handovers
      let taken :=
        { dispatcher with handovers := dispatcher.handovers + 1 }.modifyPool host
          (·.withQueue waiting)
      match pool.idle with
      | key :: idle => some (taken.modifyPool host (·.withIdle idle), some (key, exchange, io))
      | [] =>
        if pool.connections < dispatcher.maxConnectionsPerHost then
          let counted := taken.modifyPool host Pool.addConnection
          match io.connect pool.address with
          | .error failure =>
            some ((counted.withdraw host Pool.removeConnection).reject exchange
              (.transport failure), none)
          | .ok () =>
            some (counted.openConnection host, some (taken.connections.nextKey, exchange, io))
        else none

/-- Giving an exchange to a connection, up to the call that ends it if there is one. -/
def assignCall (dispatcher : Dispatcher) (key : Nat) (exchange : Exchange) (io : HandoverIo) :
    Dispatcher × List Running :=
  match dispatcher.connections.get? key with
  | none =>
    ((dispatcher.record (.misdirected key)).reject exchange (.transport (.ofKind .notConnected)),
      [])
  | some connection =>
    let started := connection.start exchange dispatcher.keepAlive
    let dispatcher := dispatcher.record (.started key exchange)
    let watching := (io.watchFailure.map fun failure =>
      Running.fail key (.transport failure)).toList
    if connection.connected then
      let dispatcher := dispatcher.setConnection key (started.flush io.departure)
      match io.departure.result started.writeBuffer with
      | .error failure => (dispatcher, [.failOrRetry key (.transport failure)])
      | .ok _ => (dispatcher, watching)
    else (dispatcher.setConnection key started, watching)

/-- Giving up a connection, up to the call that hands out again. -/
def failCall (dispatcher : Dispatcher) (key : Nat) (error : Error) :
    Dispatcher × List Running :=
  match dispatcher.connections.get? key with
  | none => (dispatcher, [])
  | some connection => (dispatcher.lose key error, [.pump connection.authority])

/-- Giving up a connection whose exchange may have another chance, up to the next call. -/
def failOrRetryCall (dispatcher : Dispatcher) (key : Nat) (error : Error) :
    Dispatcher × List Running :=
  match dispatcher.connections.get? key with
  | none => (dispatcher, [.fail key error])
  | some connection =>
    if connection.isStale then (dispatcher.loseOrRetry key error, [.pump connection.authority])
    else (dispatcher, [.fail key error])

/-- One step of the call that was made last. All is done when no call is left. -/
def callStep (net : Nat → HandoverIo) :
    Dispatcher × List Running → (Dispatcher × List Running) ⊕ Dispatcher
  | (dispatcher, []) => .inr dispatcher
  | (dispatcher, .pump host :: rest) =>
    match dispatcher.takeOut? net host with
    | none => .inl (dispatcher, rest)
    | some (next, none) => .inl (next, .pump host :: rest)
    | some (next, some (key, exchange, io)) =>
      .inl (next, .assign key exchange io :: .pump host :: rest)
  | (dispatcher, .assign key exchange io :: rest) =>
    .inl ((dispatcher.assignCall key exchange io).1,
      (dispatcher.assignCall key exchange io).2 ++ rest)
  | (dispatcher, .fail key error :: rest) =>
    .inl ((dispatcher.failCall key error).1, (dispatcher.failCall key error).2 ++ rest)
  | (dispatcher, .failOrRetry key error :: rest) =>
    .inl ((dispatcher.failOrRetryCall key error).1,
      (dispatcher.failOrRetryCall key error).2 ++ rest)

section Steps

variable {net : Nat → HandoverIo} {dispatcher next : Dispatcher} {host : String} {key : Nat}
  {connection : Connection} {exchange : Exchange} {io : HandoverIo}

/-- A handing out takes an exchange out of its queue, and gives it to a connection. -/
theorem handOut?_eq (net : Nat → HandoverIo) (dispatcher : Dispatcher) (host : String) :
    handOut? net dispatcher host =
      (dispatcher.takeOut? net host).map fun
        | (next, none) => next
        | (next, some (key, exchange, io)) => next.assign key exchange io := by
  -- Both look at the pool, at its queue, and at what rests in it.
  unfold handOut? takeOut?
  cases dispatcher.pools.get? host with
  | none => rfl
  | some pool =>
    dsimp only
    cases pool.queue with
    | nil => rfl
    | cons exchange waiting =>
      dsimp only
      cases pool.idle with
      | cons key idle => rfl
      | nil =>
        dsimp only
        -- Nothing rests, so that a connection is opened if there is room.
        split
        · cases (net dispatcher.handovers).connect pool.address <;> rfl
        · rfl

/-- The connection to which an exchange is to be given leads to its host. -/
theorem authority_of_takeOut? (accounted : dispatcher.Accounted)
    (taken : dispatcher.takeOut? net host = some (next, some (key, exchange, io))) :
    ∃ connection, next.connections.get? key = some connection ∧ connection.authority = host := by
  unfold takeOut? at taken
  -- Without a pool, or with an empty queue, nothing is taken out.
  split at taken
  · cases taken
  · rename_i pool found
    split at taken
    · cases taken
    · dsimp only at taken
      split at taken
      · rename_i waiting queued idle rested
        cases taken
        -- A connection that rests in a pool leads to its host.
        obtain ⟨connection, present, home, -⟩ := accounted.idle found rested
        exact ⟨connection, present, home⟩
      · split at taken
        · split at taken
          · cases taken
          · -- The new connection is under the next key.
            cases taken
            refine ⟨{ authority := host }, ?_, rfl⟩
            exact (Roster.get?_insert _ _ _).trans (if_pos rfl)
        · cases taken

/-- A call that gives up a connection is followed by another handing out for its host. -/
theorem goes_fail (present : dispatcher.connections.get? key = some connection) (error : Error)
    (rest : List Running) :
    Goes (callStep net) 1 (dispatcher, .fail key error :: rest)
      (dispatcher.lose key error, .pump connection.authority :: rest) := by
  refine .next ?_ (.here _)
  simp only [callStep, failCall, present, List.singleton_append]

/-- So is a call that gives it up and may give its exchange another chance. -/
theorem goes_failOrRetry (present : dispatcher.connections.get? key = some connection)
    (error : Error) (rest : List Running) :
    ∃ steps ≤ 2, Goes (callStep net) steps (dispatcher, .failOrRetry key error :: rest)
      (dispatcher.loseOrRetry key error, .pump connection.authority :: rest) := by
  -- A stale connection gives its exchange another chance, and the others fail.
  by_cases stale : connection.isStale = true
  · refine ⟨1, by omega, .next ?_ (.here _)⟩
    simp only [callStep, failOrRetryCall, present, stale, if_true, List.singleton_append]
  · have same : dispatcher.loseOrRetry key error = dispatcher.lose key error := by
      rw [loseOrRetry, present]
      exact if_neg stale
    refine ⟨2, by omega, .next ?_ (same ▸ goes_fail present error rest)⟩
    simp [callStep, failOrRetryCall, present, stale]

/-- A connection goes on being watched, or is given up and another handing out follows. -/
theorem goes_watch (present : dispatcher.connections.get? key = some connection)
    (failure : Option IoError) (rest : List Running) :
    ∃ steps ≤ 1, ∃ calls, (calls = [] ∨ calls = [.pump connection.authority]) ∧
      Goes (callStep net) steps
        (dispatcher,
          (failure.map fun failure => Running.fail key (.transport failure)).toList ++ rest)
        (dispatcher.watch key failure, calls ++ rest) := by
  cases failure with
  | none => exact ⟨0, by omega, [], .inl rfl, .here _⟩
  | some failure => exact ⟨1, by omega, [_], .inr rfl, goes_fail present (.transport failure) rest⟩

/-- An exchange that is given to a connection is carried there, or another handing out follows. -/
theorem goes_assign (net : Nat → HandoverIo)
    (present : dispatcher.connections.get? key = some connection)
    (exchange : Exchange) (io : HandoverIo) (rest : List Running) :
    ∃ steps ≤ 3, ∃ calls, (calls = [] ∨ calls = [.pump connection.authority]) ∧
      Goes (callStep net) steps (dispatcher, .assign key exchange io :: rest)
        (dispatcher.assign key exchange io, calls ++ rest) := by
  -- Both accounts put the exchange on the connection first.
  let begun := dispatcher.record (.started key exchange)
  let started := connection.start exchange dispatcher.keepAlive
  have there : begun.connections.get? key = some connection := present
  by_cases connected : connection.connected = true
  · -- The request goes out at once, and may be all that does.
    have flushed : (begun.setConnection key (started.flush io.departure)).connections.get? key =
        some (started.flush io.departure) := Roster.get?_set_self there _
    cases sent : io.departure.result started.writeBuffer with
    | error failure =>
      -- The first writing fails, and the exchange may have another chance.
      have assigned : dispatcher.assign key exchange io =
          (begun.setConnection key (started.flush io.departure)).loseOrRetry key
            (.transport failure) := by
        simp only [assign, present, connected, if_true]
        rw [sent]
      obtain ⟨steps, few, goes⟩ := goes_failOrRetry flushed (.transport failure) rest
      refine ⟨steps + 1, by omega, [_], .inr rfl, .next ?_ (assigned ▸ goes)⟩
      simp only [callStep, assignCall, present, connected, if_true]
      rw [sent]
      rfl
    | ok count =>
      -- The request is written as far as it goes, and the connection is watched.
      have assigned : dispatcher.assign key exchange io =
          (begun.setConnection key (started.flush io.departure)).watch key io.watchFailure := by
        simp only [assign, present, connected, if_true]
        rw [sent]
      obtain ⟨steps, few, calls, kinds, goes⟩ := goes_watch flushed io.watchFailure rest
      refine ⟨steps + 1, by omega, calls, kinds, .next ?_ (assigned ▸ goes)⟩
      simp only [callStep, assignCall, present, connected, if_true]
      rw [sent]
  · -- The request waits until the connection is established.
    have assigned : dispatcher.assign key exchange io =
        (begun.setConnection key started).watch key io.watchFailure := by
      simp [assign, present, connected, begun, started]
    have stored : (begun.setConnection key started).connections.get? key = some started :=
      Roster.get?_set_self there started
    obtain ⟨steps, few, calls, kinds, goes⟩ := goes_watch stored io.watchFailure rest
    refine ⟨steps + 1, by omega, calls, kinds, .next ?_ (assigned ▸ goes)⟩
    simp [callStep, assignCall, present, connected, begun, started]

/-- A handing out that finds nothing to hand out returns at once. -/
theorem goes_stuck (stuck : handOut? net dispatcher host = none) (rest : List Running) :
    Goes (callStep net) 1 (dispatcher, .pump host :: rest) (dispatcher, rest) := by
  rw [handOut?_eq, Option.map_eq_none_iff] at stuck
  refine .next ?_ (.here _)
  simp only [callStep, stuck]

/--
One round of handing out, with the calls that it makes, up to the handing out that follows. If a
connection was given up, the handing out that called for it is still to go on behind that one.
-/
theorem goes_handOut (accounted : dispatcher.Accounted)
    (step : handOut? net dispatcher host = some next) (rest : List Running) :
    ∃ steps ≤ 4, ∃ calls, (calls = [] ∨ calls = [.pump host]) ∧
      Goes (callStep net) steps (dispatcher, .pump host :: rest)
        (next, .pump host :: (calls ++ rest)) := by
  rw [handOut?_eq, Option.map_eq_some_iff] at step
  obtain ⟨⟨taken, given⟩, took, result⟩ := step
  cases given with
  | none =>
    -- The exchange was rejected, and no connection is concerned.
    subst result
    refine ⟨1, by omega, [], .inl rfl, .next ?_ (.here _)⟩
    simp only [callStep, took, List.nil_append]
  | some given =>
    -- The exchange is given to a connection to this host.
    obtain ⟨key, exchange, io⟩ := given
    subst result
    obtain ⟨connection, present, home⟩ := authority_of_takeOut? accounted took
    obtain ⟨steps, few, calls, kinds, goes⟩ :=
      goes_assign net present exchange io (.pump host :: rest)
    rw [home] at kinds
    have first : callStep net (dispatcher, .pump host :: rest) =
        .inl (taken, .assign key exchange io :: .pump host :: rest) := by
      simp only [callStep, took]
    refine ⟨steps + 1, by omega, calls, kinds, .next first ?_⟩
    -- Of two calls for the same host, each may stand in front.
    rcases kinds with rfl | rfl <;> exact goes

/-- A handing out returns, and has done what a pump does. -/
theorem goes_pump (net : Nat → HandoverIo) (host : String) (accounted : dispatcher.Accounted)
    (rest : List Running) :
    ∃ steps ≤ 5 * dispatcher.chances host + 1,
      Goes (callStep net) steps (dispatcher, .pump host :: rest)
        (dispatcher.pump net host, rest) := by
  -- Each round takes a chance away, and leaves at most one call behind that finds nothing to do.
  fun_induction pump net dispatcher host generalizing rest with
  | case1 dispatcher stuck => exact ⟨1, by omega, goes_stuck stuck rest⟩
  | case2 dispatcher next step ih =>
    -- The round has taken a chance, so that the bound is left for the others.
    have fewer := chances_handOut_lt step
    have kept := (handOut_handover step).leads.accounted accounted
    obtain ⟨first, few, calls, kinds, goes⟩ := goes_handOut accounted step rest
    obtain ⟨second, less, goesOn⟩ := ih kept (calls ++ rest)
    have both := goes.trans goesOn
    -- The handing out that was called for in between finds nothing to do, if there was one.
    rcases kinds with rfl | rfl
    · exact ⟨first + second, by omega, both⟩
    · refine ⟨first + second + 1, by omega, both.trans (goes_stuck ?_ rest)⟩
      exact handOut_pump net next host

end Steps

/-- The exchanges that wait for a host, in their order. -/
def queueFor (dispatcher : Dispatcher) (host : String) : List Exchange :=
  ((dispatcher.pools.get? host).map Pool.queue).getD []

/-- What becomes of an exchange in a round in which it is handed out. -/
inductive Fate where
  | started
  | rejected
  | requeued
  deriving DecidableEq

/-- A round in which the first exchange that waits for a host is handed out. -/
inductive Round (host : String) (dispatcher : Dispatcher) (exchange : Exchange) :
    Fate → Dispatcher → Prop where
  /-- It is started on a connection, which goes on carrying it. -/
  | started {next : Dispatcher} {waiting : List Exchange} {key : Nat} {connection : Connection}
      (first : dispatcher.queueFor host = exchange :: waiting)
      (others : next.queueFor host = waiting)
      (present : next.connections.get? key = some connection)
      (carried : connection.exchange = some exchange)
      (noted : ∃ notes, next.journal =
        dispatcher.journal ++ (notes ++ [.started key exchange])) :
      Round host dispatcher exchange .started next
  /-- It is rejected, perhaps after it was started. -/
  | rejected {next : Dispatcher} {waiting : List Exchange} (error : Error)
      (first : dispatcher.queueFor host = exchange :: waiting)
      (others : next.queueFor host = waiting)
      (noted : ∃ notes, next.journal =
        dispatcher.journal ++ (notes ++ [.settled exchange.promise (.error error)])) :
      Round host dispatcher exchange .rejected next
  /-- It was tried for the first time, and is in front of its queue again. -/
  | requeued {next : Dispatcher} {waiting : List Exchange}
      (first : dispatcher.queueFor host = exchange :: waiting) (fresh : exchange.retried = false)
      (others : next.queueFor host = exchange.again :: waiting)
      (noted : ∃ notes, next.journal =
        dispatcher.journal ++ (notes ++ [.requeued exchange.again])) :
      Round host dispatcher exchange .requeued next

/--
The rounds of a pump, with the exchanges that are handed out and what becomes of them, until no
exchange can be handed out.
-/
inductive Rounds (net : Nat → HandoverIo) (host : String) :
    Dispatcher → List (Exchange × Fate) → Dispatcher → Prop where
  | last {dispatcher : Dispatcher} (stuck : handOut? net dispatcher host = none) :
      Rounds net host dispatcher [] dispatcher
  | next {dispatcher middle last : Dispatcher} {exchange : Exchange} {fate : Fate}
      {rest : List (Exchange × Fate)} (step : handOut? net dispatcher host = some middle)
      (round : Round host dispatcher exchange fate middle)
      (others : Rounds net host middle rest last) :
      Rounds net host dispatcher ((exchange, fate) :: rest) last

/-- The exchanges that were put back, in the order of the rounds. -/
def putBack (log : List (Exchange × Fate)) : List Exchange :=
  (log.filter fun entry => entry.2 == .requeued).map Prod.fst

section Rounds

variable {net : Nat → HandoverIo} {dispatcher next last : Dispatcher} {host : String} {key : Nat}
  {pool : Pool} {connection : Connection} {exchange : Exchange}

/-- The exchanges that wait for a host are those in its pool. -/
theorem queueFor_eq (found : dispatcher.pools.get? host = some pool) :
    dispatcher.queueFor host = pool.queue := by
  rw [queueFor, found]
  rfl

/-- The exchanges that wait for a host after a change of its pool. -/
theorem queueFor_of_modify (found : dispatcher.pools.get? host = some pool) (change : Pool → Pool)
    (changed : next.pools = dispatcher.pools.modify host change) :
    next.queueFor host = (change pool).queue := by
  refine queueFor_eq ?_
  rw [changed, Pools.get?_modify, if_pos rfl, found]
  rfl

/-- An exchange leaves its queue, and only the queue changes with it. -/
theorem queueFor_unqueue {waiting : List Exchange}
    (found : dispatcher.pools.get? host = some pool) (queued : pool.queue = exchange :: waiting)
    (change : Pool → Pool) (keeps : ∀ pool, (change pool).queue = pool.queue) :
    dispatcher.queueFor host = exchange :: waiting ∧
      (dispatcher.unqueue host waiting change).queueFor host = waiting :=
  ⟨(queueFor_eq found).trans queued,
    (queueFor_of_modify found (fun pool => change (pool.withQueue waiting)) rfl).trans (keeps _)⟩

/-- A launch takes an exchange from its queue to a connection that carries it. -/
theorem Launch.carries (launch : dispatcher.Launch host key exchange next) :
    (∃ waiting, dispatcher.queueFor host = exchange :: waiting ∧ next.queueFor host = waiting) ∧
      ∃ connection, next.connections.get? key = some connection ∧
        connection.exchange = some exchange := by
  cases launch with
  | reused found queued rested present =>
    -- The connection that rests gets the exchange.
    rename_i pool waiting idle connection
    exact ⟨⟨waiting, queueFor_unqueue found queued (·.withIdle idle) fun _ => rfl⟩,
      connection.start exchange dispatcher.keepAlive, Roster.get?_set_self present _, rfl⟩
  | opened found queued rested room same =>
    -- A new connection gets it.
    rename_i pool waiting
    subst same
    refine ⟨⟨waiting, queueFor_unqueue found queued Pool.addConnection fun _ => rfl⟩,
      ({ authority := host } : Connection).start exchange dispatcher.keepAlive, ?_, rfl⟩
    rw [setConnection, record, openConnection, record, unqueue]
    dsimp only
    rw [Roster.set_insert, Roster.get?_insert, if_pos rfl]

/-- A connection that ends with an exchange rejects it, or puts it back if it may. -/
theorem Parting.fate {error : Error} (parting : dispatcher.Parting key error next)
    (accounted : dispatcher.Accounted)
    (present : dispatcher.connections.get? key = some connection)
    (carried : connection.exchange = some exchange) :
    (next.queueFor connection.authority = dispatcher.queueFor connection.authority ∧
      next.journal =
        dispatcher.journal ++ [.closed key, .settled exchange.promise (.error error)]) ∨
    (exchange.retried = false ∧
      next.queueFor connection.authority =
        exchange.again :: dispatcher.queueFor connection.authority ∧
      next.journal = dispatcher.journal ++ [.closed key, .requeued exchange.again]) := by
  have ended := accounted.journal_drop present []
  cases parting with
  | freed there free =>
    -- A connection that carries nothing is not meant.
    rw [present] at there
    cases there
    rw [carried] at free
    cases free
  | rejected there carries =>
    rw [present] at there
    cases there
    rw [carried] at carries
    cases carries
    -- The exchange is rejected, and the queue of the host stays.
    obtain ⟨pool, found⟩ := accounted.hosted present
    refine .inl ⟨?_, ?_⟩
    · rw [queueFor_eq found]
      exact queueFor_of_modify found (·.forget key) rfl
    · rw [reject, settle, record, ended, List.append_assoc]
      rfl
  | requeued there carries stale found =>
    rw [present] at there
    cases there
    rw [carried] at carries
    cases carries
    -- The exchange is in front of the queue again, and was not tried before.
    refine .inr ⟨((Connection.isStale_iff carried).1 stale).2.2, ?_, ?_⟩
    · rw [queueFor_eq found]
      exact queueFor_of_modify found (fun pool => (pool.forget key).requeue exchange.again)
        (Pools.modify_modify dispatcher.pools connection.authority (·.forget key)
          (·.requeue exchange.again))
    · rw [record, modifyPool, ended, List.append_assoc]
      rfl

/-- Whatever the network does, a round starts an exchange, rejects it or puts it back. -/
theorem Handover.round (handover : dispatcher.Handover host next)
    (accounted : dispatcher.Accounted) :
    ∃ exchange fate, Round host dispatcher exchange fate next := by
  cases handover with
  | refused found queued rested error =>
    -- No connection can be opened, and the exchange is rejected.
    obtain ⟨first, others⟩ := queueFor_unqueue found queued id fun _ => rfl
    exact ⟨_, _, .rejected (.transport error) first others ⟨[], rfl⟩⟩
  | misdirected found queued rested gone error =>
    exact absurd (accounted.idle found rested) (not_idleAt gone)
  | given launch landing =>
    rename_i key exchange launched
    -- The exchange has left its queue for a connection.
    obtain ⟨⟨waiting, first, others⟩, connection, present, carried⟩ := launch.carries
    have home := launch.authority accounted present
    obtain ⟨notes, journal⟩ : ∃ notes, launched.journal =
        dispatcher.journal ++ (notes ++ [.started key exchange]) := by
      -- It may have been opened for it.
      rcases launch.notes with reused | opened
      · exact ⟨[], reused⟩
      · exact ⟨[.opened key host], opened⟩
    cases landing with
    | stays there writeBuffer =>
      -- The connection goes on carrying it.
      rw [present] at there
      cases there
      exact ⟨exchange, .started, .started first others (Roster.get?_set_self present _) carried
        ⟨notes, journal⟩⟩
    | parts there writeBuffer error parting =>
      rw [present] at there
      cases there
      -- The connection gives out bytes perhaps, and ends with the exchange.
      have flushed : launched.Move [] _ _ := .tended present connection.connected id writeBuffer
      have later := flushed.accounted ((launch.move []).accounted accounted)
      have ends := parting.fate later (Roster.get?_set_self present _) carried
      dsimp only at ends
      rw [home, setConnection, journal, List.append_assoc, List.append_assoc] at ends
      rcases ends with ⟨queue, closed⟩ | ⟨fresh, queue, closed⟩
      · exact ⟨exchange, .rejected, .rejected _ first (queue.trans others)
          ⟨notes ++ [.started key exchange, .closed key], by simpa using closed⟩⟩
      · exact ⟨exchange, .requeued, .requeued first fresh (queue.trans (congrArg _ others))
          ⟨notes ++ [.started key exchange, .closed key], by simpa using closed⟩⟩

/-- A pump is made of rounds. -/
theorem rounds_pump (net : Nat → HandoverIo) (host : String) (accounted : dispatcher.Accounted) :
    ∃ log, Rounds net host dispatcher log (dispatcher.pump net host) := by
  fun_induction pump net dispatcher host with
  | case1 dispatcher stuck => exact ⟨[], .last stuck⟩
  | case2 dispatcher next step ih =>
    -- A handover is a round, and the others follow by induction.
    have handover := handOut_handover step
    obtain ⟨exchange, fate, round⟩ := handover.round accounted
    obtain ⟨log, others⟩ := ih (handover.leads.accounted accounted)
    exact ⟨_, .next step round others⟩

/-- Each round takes a chance away from the exchanges that wait. -/
theorem Rounds.length_le {log : List (Exchange × Fate)}
    (rounds : Rounds net host dispatcher log last) : log.length ≤ dispatcher.chances host := by
  induction rounds with
  | last stuck => exact Nat.zero_le _
  | next step round others ih =>
    -- The first round has taken one chance, and the others have taken those that are left.
    have fewer := chances_handOut_lt step
    rw [List.length_cons]
    omega

/--
The exchanges that are put back were waiting and had not been tried before, and none of them is put
back more often than it waited.
-/
theorem Rounds.putBack_sublist {log : List (Exchange × Fate)}
    (rounds : Rounds net host dispatcher log last) :
    (putBack log).Sublist
      ((dispatcher.queueFor host).filter fun exchange => !exchange.retried) := by
  induction rounds with
  | last stuck => exact List.nil_sublist _
  | next step round others ih =>
    rename_i exchange fate rest
    cases round with
    | started first behind present carried noted =>
      -- An exchange that was started waits no more.
      rw [behind] at ih
      rw [first]
      exact ih.trans ((List.sublist_cons_self _ _).filter _)
    | rejected error first behind noted =>
      rw [behind] at ih
      rw [first]
      exact ih.trans ((List.sublist_cons_self _ _).filter _)
    | requeued first fresh behind noted =>
      -- It is in front again, but as one that was tried before.
      rw [behind, List.filter_cons_of_neg (by simp [Exchange.again])] at ih
      rw [first, List.filter_cons_of_pos (by simp [fresh])]
      exact ih.cons_cons exchange

end Rounds

/--
A pump comes to its end, whatever the network does.

The calls that it makes, and that call it again, have all returned after a number of steps that is
bounded by how often the waiting exchanges can be handed out, and what they have done is a sequence
of rounds, until none can be handed out any more. In every round the first exchange that waits is
started on a connection, which goes on carrying it, or is rejected, or is put back. An exchange is
put back at most once: those that are put back are among the ones that waited and had not been
tried, in their order.
-/
theorem pump_returns {dispatcher : Dispatcher} (accounted : dispatcher.Accounted)
    (net : Nat → HandoverIo) (host : String) :
    loop (callStep net) (5 * dispatcher.chances host + 2) (dispatcher, [.pump host]) =
      some (dispatcher.pump net host) ∧
    ∃ log, Rounds net host dispatcher log (dispatcher.pump net host) ∧
      log.length ≤ dispatcher.chances host ∧
      (putBack log).Sublist
        ((dispatcher.queueFor host).filter fun exchange => !exchange.retried) := by
  refine ⟨?_, ?_⟩
  · -- The calls have returned after these steps, and the last one ends the loop.
    obtain ⟨steps, few, goes⟩ := goes_pump net host accounted []
    obtain ⟨more, enough⟩ := Nat.exists_eq_add_of_le
      (show steps + 1 ≤ 5 * dispatcher.chances host + 2 by omega)
    rw [enough, Nat.add_assoc, goes.loop_add, Nat.add_comm]
    exact loop_of_last rfl more
  · -- What they have done is what the rounds of the pump do.
    obtain ⟨log, rounds⟩ := rounds_pump net host accounted
    exact ⟨log, rounds, rounds.length_le, rounds.putBack_sublist⟩

/-- A connection that has brought a response and rests, and an exchange that has just come. -/
def restedWithQueue : Dispatcher :=
  (((fresh 1 true).attendAll openNet [.submit (rootRequest 0), answerOn 0]).record
    (.received (rootRequest 1))).modifyPool "127.0.0.1:80" (·.enqueue (rootRequest 1))

/-- The accounts are right after each errand, and when an exchange comes in. -/
theorem accounted_restedWithQueue : restedWithQueue.Accounted := by
  -- Two errands lead to a connection that rests.
  obtain ⟨regular, -⟩ := regular_attendAll (fun _ => True) openNet (fun _ _ _ _ _ => trivial)
    (fun _ _ _ _ _ => trivial) [.submit (rootRequest 0), answerOn 0] (.fresh 1 true) trivial
  obtain ⟨pool, found⟩ := Option.isSome_iff_exists.1 (show (((fresh 1 true).attendAll openNet
    [.submit (rootRequest 0), answerOn 0]).pools.get? "127.0.0.1:80").isSome by decide +kernel)
  have entry : Entry _ (rootRequest 1) restedWithQueue := .admitted found
  exact entry.accounted regular.accounted

/-- Nothing can be written at first, and then everything can. -/
def firstWriteFails (handovers : Nat) : HandoverIo :=
  if handovers ≤ 1 then
    { connect := fun _ => .ok (), departure := ⟨0, some (.ofKind .brokenPipe)⟩ }
  else openNet handovers

/-- The connection that rests fails, and the exchange is put back and started on another one. -/
theorem pump_returns_requeued :
    restedWithQueue.Accounted ∧ restedWithQueue.chances "127.0.0.1:80" = 2 ∧
    (restedWithQueue.pump firstWriteFails "127.0.0.1:80").journal.drop 7 =
      [.started 0 (rootRequest 1), .closed 0, .requeued (rootRequest 1).again,
        .opened 0 "127.0.0.1:80", .started 0 (rootRequest 1).again] ∧
    loop (callStep firstWriteFails) 12 (restedWithQueue, [.pump "127.0.0.1:80"]) =
      some (restedWithQueue.pump firstWriteFails "127.0.0.1:80") ∧
    ∃ log, Rounds firstWriteFails "127.0.0.1:80" restedWithQueue log
      (restedWithQueue.pump firstWriteFails "127.0.0.1:80") ∧ log.length ≤ 2 := by
  have two : restedWithQueue.chances "127.0.0.1:80" = 2 := by decide +kernel
  obtain ⟨returns, log, rounds, few, -⟩ :=
    pump_returns accounted_restedWithQueue firstWriteFails "127.0.0.1:80"
  rw [two] at returns few
  exact ⟨accounted_restedWithQueue, two, by decide +kernel, returns, log, rounds, few⟩

end Dispatcher

end HttpEngine
