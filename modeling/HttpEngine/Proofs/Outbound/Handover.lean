import HttpEngine.Proofs.Outbound.Move

/-!
What exactly happens when an exchange is handed out: it leaves its queue, is refused or given to a
connection, and stays there unless the connection is lost at once. A pump is a sequence of
handovers, at whose end no exchange can be handed out any more.
-/

namespace HttpEngine

/-- Changes of a pool one after the other. -/
theorem Pools.modify_modify (pools : Pools) (host : String) (first second : Pool → Pool) :
    (pools.modify host first).modify host second =
      pools.modify host fun pool => second (first pool) := by
  -- Every entry is looked at twice, and is the one of the host both times or neither time.
  unfold modify mapAll
  congr 1
  rw [List.map_map]
  refine List.map_congr_left fun entry _ => ?_
  dsimp only [Function.comp]
  split <;> rfl

namespace Dispatcher

/-- A dispatcher that comes to another by moves, whatever is in hand. -/
def Leads (dispatcher next : Dispatcher) : Prop :=
  ∀ hand, Desk.Leads ⟨dispatcher, hand⟩ ⟨next, hand⟩

/-- How a connection ends, and what becomes of the exchange that it carried. -/
inductive Parting (dispatcher : Dispatcher) (key : Nat) (error : Error) : Dispatcher → Prop where
  /-- It carried nothing. -/
  | freed {connection : Connection}
      (present : dispatcher.connections.get? key = some connection)
      (free : connection.exchange = none) :
      Parting dispatcher key error (dispatcher.drop key connection.authority [])
  /-- The exchange is rejected. -/
  | rejected {connection : Connection} {exchange : Exchange}
      (present : dispatcher.connections.get? key = some connection)
      (carried : connection.exchange = some exchange) :
      Parting dispatcher key error
        ((dispatcher.drop key connection.authority []).reject exchange error)
  /-- The exchange is to be tried again. -/
  | requeued {connection : Connection} {exchange : Exchange} {pool : Pool}
      (present : dispatcher.connections.get? key = some connection)
      (carried : connection.exchange = some exchange) (stale : connection.isStale = true)
      (found : dispatcher.pools.get? connection.authority = some pool) :
      Parting dispatcher key error
        (((dispatcher.drop key connection.authority []).modifyPool connection.authority
          (·.requeue exchange.again)).record (.requeued exchange.again))

/-- How an exchange comes out of its queue to a connection under a key. -/
inductive Launch (dispatcher : Dispatcher) (host : String) (key : Nat) (exchange : Exchange) :
    Dispatcher → Prop where
  /-- The connection was idle. -/
  | reused {pool : Pool} {waiting : List Exchange} {idle : List Nat} {connection : Connection}
      (found : dispatcher.pools.get? host = some pool) (queued : pool.queue = exchange :: waiting)
      (rested : pool.idle = key :: idle)
      (present : dispatcher.connections.get? key = some connection) :
      Launch dispatcher host key exchange
        (((dispatcher.unqueue host waiting (·.withIdle idle)).record
          (.started key exchange)).setConnection key
            (connection.start exchange dispatcher.keepAlive))
  /-- No connection was idle, and this one is new. -/
  | opened {pool : Pool} {waiting : List Exchange}
      (found : dispatcher.pools.get? host = some pool) (queued : pool.queue = exchange :: waiting)
      (rested : pool.idle = []) (room : pool.connections < dispatcher.maxConnectionsPerHost)
      (next : dispatcher.connections.nextKey = key) :
      Launch dispatcher host key exchange
        ((((dispatcher.unqueue host waiting Pool.addConnection).openConnection host).record
          (.started key exchange)).setConnection key
            (({ authority := host } : Connection).start exchange dispatcher.keepAlive))

/-- What becomes of a connection to which an exchange was given. -/
inductive Landing (dispatcher : Dispatcher) (key : Nat) : Dispatcher → Prop where
  /-- It carries the exchange, and gives out bytes perhaps. -/
  | stays {connection : Connection}
      (present : dispatcher.connections.get? key = some connection) (writeBuffer : Bytes) :
      Landing dispatcher key (dispatcher.setConnection key { connection with writeBuffer })
  /-- It is lost at once. -/
  | parts {connection : Connection} {next : Dispatcher}
      (present : dispatcher.connections.get? key = some connection) (writeBuffer : Bytes)
      (error : IoError)
      (parting : (dispatcher.setConnection key { connection with writeBuffer }).Parting key
        (.transport error) next) :
      Landing dispatcher key next

/-- What happens to the first exchange that waits for a host. -/
inductive Handover (dispatcher : Dispatcher) (host : String) : Dispatcher → Prop where
  /-- No connection can be opened for it. -/
  | refused {pool : Pool} {exchange : Exchange} {waiting : List Exchange}
      (found : dispatcher.pools.get? host = some pool) (queued : pool.queue = exchange :: waiting)
      (rested : pool.idle = []) (error : IoError) :
      Handover dispatcher host
        ((dispatcher.unqueue host waiting id).reject exchange (.transport error))
  /-- The connection that was kept as idle is not there. -/
  | misdirected {pool : Pool} {exchange : Exchange} {waiting : List Exchange} {key : Nat}
      {idle : List Nat} (found : dispatcher.pools.get? host = some pool)
      (queued : pool.queue = exchange :: waiting) (rested : pool.idle = key :: idle)
      (gone : dispatcher.connections.get? key = none) (error : Error) :
      Handover dispatcher host
        (((dispatcher.unqueue host waiting (·.withIdle idle)).record (.misdirected key)).reject
          exchange error)
  /-- A connection takes it. -/
  | given {key : Nat} {exchange : Exchange} {launched next : Dispatcher}
      (launch : dispatcher.Launch host key exchange launched)
      (landing : launched.Landing key next) : Handover dispatcher host next

section Leads

variable {dispatcher next last : Dispatcher} {hand rest : List Exchange} {host : String} {key : Nat}
  {connection : Connection}

/-- One move is enough to lead on. -/
theorem Move.leads (move : dispatcher.Move hand next rest) :
    Desk.Leads ⟨dispatcher, hand⟩ ⟨next, rest⟩ :=
  Relation.ReflTransGen.single move

/-- Nothing has to happen. -/
theorem Leads.nothing : dispatcher.Leads dispatcher := fun _ => .refl

/-- One thing after the other. -/
theorem Leads.trans (first : dispatcher.Leads next) (second : next.Leads last) :
    dispatcher.Leads last :=
  fun hand => Relation.ReflTransGen.trans (first hand) (second hand)

/-- What every move keeps, whatever is in hand, is kept all the way. -/
theorem Leads.keeps (leads : dispatcher.Leads next) (property : Dispatcher → Prop)
    (kept : ∀ (dispatcher next : Dispatcher) (hand rest : List Exchange),
      dispatcher.Move hand next rest → property dispatcher → property next)
    (holds : property dispatcher) : property next :=
  (leads []).keeps (fun desk => property desk.dispatcher) (fun _ _ move => kept _ _ _ _ move) holds

/-- Counting a connection off, with what is noted about it. -/
theorem withdraw_eq (dispatcher : Dispatcher) (host : String) (change : Pool → Pool) :
    dispatcher.withdraw host change =
      { dispatcher with
        pools := dispatcher.pools.modify host change
        journal := dispatcher.journal ++ dispatcher.pools.overdraft host } := by
  -- A host without a pool, a host without connections, and a host with some.
  unfold withdraw Pools.overdraft
  cases dispatcher.pools.get? host with
  | none => simp [modifyPool]
  | some pool =>
    dsimp only
    split <;> simp [modifyPool, record]

/-- The end of a connection as a change of its own. -/
theorem close_eq (present : dispatcher.connections.get? key = some connection) :
    dispatcher.close key =
      (dispatcher.drop key connection.authority [], connection.exchange) := by
  simp only [close, present, withdraw_eq, drop, record, List.append_nil]

/-- The change of a connection that was made last counts. -/
theorem setConnection_setConnection
    (present : dispatcher.connections.get? key = some connection) (changed last : Connection) :
    (dispatcher.setConnection key changed).setConnection key last =
      dispatcher.setConnection key last := by
  simp only [setConnection, Roster.set_set present]

/-- The end of a connection that was changed before. -/
theorem close_changed (present : dispatcher.connections.get? key = some connection)
    {changed : Connection} (same : changed.authority = connection.authority) (note : Transit) :
    ((dispatcher.setConnection key changed).record note).close key =
      (dispatcher.drop key connection.authority [note], changed.exchange) := by
  -- What was set under the key does not matter any more.
  have there : ((dispatcher.setConnection key changed).record note).connections.get? key =
      some changed := Roster.get?_set_self present changed
  rw [close_eq there, same]
  simp only [drop, setConnection, record, Roster.erase_set present, List.append_nil]

/-- A connection that is lost takes its exchange with it. -/
theorem lose_parting (present : dispatcher.connections.get? key = some connection)
    (error : Error) : dispatcher.Parting key error (dispatcher.lose key error) := by
  unfold lose
  rw [close_eq present]
  cases carried : connection.exchange with
  | none => exact .freed present carried
  | some exchange => exact .rejected present carried

/-- A connection that is lost gives a stale exchange back. -/
theorem loseOrRetry_parting (present : dispatcher.connections.get? key = some connection)
    (error : Error) : dispatcher.Parting key error (dispatcher.loseOrRetry key error) := by
  unfold loseOrRetry
  rw [present]
  dsimp only
  split
  · rename_i stale
    obtain ⟨exchange, carried⟩ := connection.carries_of_isStale stale
    -- The pool has forgotten the connection by the time that it is looked up.
    have pool : (dispatcher.drop key connection.authority []).pools.get? connection.authority =
        (dispatcher.pools.get? connection.authority).map (·.forget key) := by
      rw [drop, Pools.get?_modify, if_pos rfl]
    rw [close_eq present, carried]
    dsimp only
    rw [pool]
    cases found : dispatcher.pools.get? connection.authority with
    | none => exact .rejected present carried
    | some pool => exact .requeued present carried stale found
  · exact lose_parting present error

/-- An exchange that was given to a connection stays there, or the connection is lost. -/
theorem assign_landing (present : dispatcher.connections.get? key = some connection)
    (exchange : Exchange) (io : HandoverIo) :
    ((dispatcher.record (.started key exchange)).setConnection key
      (connection.start exchange dispatcher.keepAlive)).Landing key
        (dispatcher.assign key exchange io) := by
  have there : (dispatcher.record (.started key exchange)).connections.get? key =
      some connection := present
  have begun : ((dispatcher.record (.started key exchange)).setConnection key
      (connection.start exchange dispatcher.keepAlive)).connections.get? key =
        some (connection.start exchange dispatcher.keepAlive) := Roster.get?_set_self present _
  -- Whatever is written, the connection may be lost when it is to be watched.
  have watched : ∀ (writeBuffer : Bytes) (failure : Option IoError),
      ((dispatcher.record (.started key exchange)).setConnection key
        (connection.start exchange dispatcher.keepAlive)).Landing key
          (((dispatcher.record (.started key exchange)).setConnection key
            { connection.start exchange dispatcher.keepAlive with writeBuffer }).watch key
              failure) := by
    intro writeBuffer failure
    have same := setConnection_setConnection there (connection.start exchange dispatcher.keepAlive)
      { connection.start exchange dispatcher.keepAlive with writeBuffer }
    cases failure with
    | none =>
      have stays := Landing.stays begun writeBuffer
      rw [same] at stays
      exact stays
    | some failure =>
      refine .parts begun writeBuffer failure ?_
      rw [same]
      exact lose_parting (Roster.get?_set_self there _) (.transport failure)
  unfold assign
  simp only [present]
  split
  · split
    · -- The request could not be written.
      rename_i failure _
      refine .parts begun (io.departure.left (connection.start exchange
        dispatcher.keepAlive).writeBuffer) failure ?_
      rw [setConnection_setConnection there]
      exact loseOrRetry_parting (Roster.get?_set_self there _) (.transport failure)
    · exact watched _ io.watchFailure
  · exact watched _ io.watchFailure

/-- What happens when an exchange is handed out. -/
theorem handOut_handover {net : Nat → HandoverIo}
    (step : handOut? net dispatcher host = some next) : dispatcher.Handover host next := by
  unfold handOut? at step
  split at step
  · contradiction
  · rename_i pool found
    split at step
    · contradiction
    · rename_i exchange waiting queued
      dsimp only at step
      -- The exchange leaves the queue together with what else changes in the pool.
      have taken : ∀ change : Pool → Pool,
          ({ dispatcher with handovers := dispatcher.handovers + 1 }.modifyPool host
            (·.withQueue waiting)).modifyPool host change =
              dispatcher.unqueue host waiting change := by
        intro change
        simp only [modifyPool, unqueue, Pools.modify_modify]
      split at step
      · -- The connection that became idle last is used first.
        rename_i key idle rested
        rw [taken] at step
        cases present : dispatcher.connections.get? key with
        | none =>
          simp only [assign, unqueue, present] at step
          cases step
          exact .misdirected found queued rested present _
        | some connection =>
          cases step
          have there : (dispatcher.unqueue host waiting (·.withIdle idle)).connections.get? key =
              some connection := present
          exact .given (.reused found queued rested present) (assign_landing there exchange _)
      · rename_i rested
        split at step
        · rename_i room
          rw [taken] at step
          split at step
          · -- The connection that is counted off was counted just before.
            rename_i failure _
            have undone : (dispatcher.unqueue host waiting Pool.addConnection).withdraw host
                Pool.removeConnection = dispatcher.unqueue host waiting id := by
              have counted : (dispatcher.unqueue host waiting
                  Pool.addConnection).pools.overdraft host = [] := by
                simp [Pools.overdraft, unqueue, Pools.get?_modify, found, Pool.addConnection]
              rw [withdraw_eq, counted]
              simp only [unqueue, Pools.modify_modify, List.append_nil]
              rfl
            rw [undone] at step
            cases step
            exact .refused found queued rested failure
          · cases step
            have there : ((dispatcher.unqueue host waiting Pool.addConnection).openConnection
                host).connections.get? dispatcher.connections.nextKey =
                  some { authority := host } := by
              rw [openConnection, record, unqueue, Roster.get?_insert, if_pos rfl]
            exact .given (.opened found queued rested room rfl) (assign_landing there exchange _)
        · contradiction

/-- An exchange is launched by one move. -/
theorem Launch.move {exchange : Exchange} (launch : dispatcher.Launch host key exchange next)
    (hand : List Exchange) : dispatcher.Move hand next hand := by
  cases launch with
  | reused found queued rested present => exact .reused found queued rested present
  | opened found queued rested room same =>
    subst same
    exact .opened found queued rested room

/-- A connection ends by moves. -/
theorem Parting.leads {error : Error} (parting : dispatcher.Parting key error next) :
    dispatcher.Leads next := by
  intro hand
  cases parting with
  | freed present free =>
    have ended := (Move.closed present : dispatcher.Move hand _ _).leads
    rw [free] at ended
    exact ended
  | rejected present carried =>
    -- The exchange is in hand for a moment.
    have ended := (Move.closed present : dispatcher.Move hand _ _).leads
    rw [carried] at ended
    exact ended.tail (Move.settled rfl (.error error))
  | requeued present carried stale found =>
    exact (Move.retried present carried stale found).leads

/-- A connection that takes an exchange keeps it, or ends by moves. -/
theorem Landing.leads (landing : dispatcher.Landing key next) : dispatcher.Leads next := by
  cases landing with
  | stays present writeBuffer => exact fun _ => (Move.tended present _ id writeBuffer).leads
  | parts present writeBuffer error parting =>
    exact Leads.trans (fun _ => (Move.tended present _ id writeBuffer).leads) parting.leads

/-- A handover is made of moves. -/
theorem Handover.leads (handover : dispatcher.Handover host next) : dispatcher.Leads next := by
  intro hand
  cases handover with
  | refused found queued rested error => exact (Move.unreachable found queued _).leads
  | misdirected found queued rested gone error =>
    exact (Move.misdirected found queued rested gone error).leads
  | given launch landing => exact (launch.move hand).leads.trans (landing.leads hand)

/-- What every handover keeps, a pump keeps. -/
theorem pump_keeps (property : Dispatcher → Prop) (host : String)
    (kept : ∀ dispatcher next : Dispatcher, dispatcher.Handover host next →
      property dispatcher → property next)
    (net : Nat → HandoverIo) (dispatcher : Dispatcher) (holds : property dispatcher) :
    property (dispatcher.pump net host) := by
  -- One handover after the other, until no exchange can be handed out.
  fun_induction pump net dispatcher host with
  | case1 dispatcher stuck => exact holds
  | case2 dispatcher next step ih => exact ih (kept dispatcher next (handOut_handover step) holds)

/-- Handing out exchanges, one after the other. -/
theorem leads_pump (net : Nat → HandoverIo) (dispatcher : Dispatcher) (host : String) :
    dispatcher.Leads (dispatcher.pump net host) :=
  pump_keeps dispatcher.Leads host (fun _ _ handover led => led.trans handover.leads) net
    dispatcher .nothing

/-- After a pump no exchange can be handed out. -/
theorem handOut_pump (net : Nat → HandoverIo) (dispatcher : Dispatcher) (host : String) :
    handOut? net (dispatcher.pump net host) host = none := by
  fun_induction pump net dispatcher host with
  | case1 dispatcher stuck => exact stuck
  | case2 dispatcher next step ih => exact ih

/-- If no exchange can be handed out, none waits, or every connection is in use. -/
theorem full_of_handOut_eq_none {net : Nat → HandoverIo}
    (stuck : handOut? net dispatcher host = none) {pool : Pool}
    (found : dispatcher.pools.get? host = some pool) :
    pool.queue = [] ∨
      pool.idle = [] ∧ dispatcher.maxConnectionsPerHost ≤ pool.connections := by
  simp only [handOut?, found] at stuck
  split at stuck
  · rename_i empty
    exact .inl empty
  · split at stuck
    · cases stuck
    · rename_i rested
      split at stuck
      · split at stuck <;> cases stuck
      · rename_i full
        exact .inr ⟨rested, Nat.le_of_not_lt full⟩

/-- Rejecting exchanges one after the other changes nothing but the journal. -/
theorem rejectAll_eq (dispatcher : Dispatcher) (exchanges : List Exchange)
    (error : Exchange → Error) :
    exchanges.foldl (fun dispatcher exchange => dispatcher.reject exchange (error exchange))
        dispatcher =
      { dispatcher with
        journal := dispatcher.journal ++
          exchanges.map fun exchange => .settled exchange.promise (.error (error exchange)) } := by
  induction exchanges generalizing dispatcher with
  | nil => rw [List.foldl_nil, List.map_nil, List.append_nil]
  | cons exchange rest ih =>
    rw [List.foldl_cons, ih, List.map_cons, List.append_cons]
    rfl

/-- What is in hand is rejected, one after the other. -/
theorem leads_rejectAll (dispatcher : Dispatcher) (exchanges hand : List Exchange)
    (error : Exchange → Error) :
    Desk.Leads ⟨dispatcher, exchanges ++ hand⟩
      ⟨exchanges.foldl (fun dispatcher exchange => dispatcher.reject exchange (error exchange))
        dispatcher, hand⟩ := by
  induction exchanges generalizing dispatcher with
  | nil => exact .refl
  | cons first rest ih =>
    -- The first one in hand goes, and the others follow it.
    have settled := (Move.settled rfl (.error (error first)) :
      dispatcher.Move (first :: (rest ++ hand)) _ _).leads
    exact settled.trans (ih _)

/-- The exchanges that have waited for too long are rejected. -/
theorem leads_expireQueues (dispatcher : Dispatcher) (now : Instant) :
    dispatcher.Leads (dispatcher.expireQueues now) := by
  -- They leave their queues all at once, and are settled one after the other.
  intro hand
  have left := (Move.overdue now : dispatcher.Move hand _ _).leads
  exact left.trans (leads_rejectAll _ _ hand fun exchange => .timeout exchange.timeout)

end Leads

end Dispatcher

end HttpEngine
