import HttpEngine.Proofs.Outbound.Accounting
import HttpEngine.Proofs.Outbound.Journal

/-!
The conservation of exchanges: whatever came in was settled, is held on a connection or in a queue,
or is in hand. Every move keeps the balance.
-/

namespace HttpEngine

/-- Whether an exchange is the one of a promise. -/
def Exchange.isFor (promise : Nat) (exchange : Exchange) : Bool := exchange.promise == promise

/-- Whether a connection carries the exchange of a promise. -/
def Connection.carries (promise : Nat) (connection : Connection) : Bool :=
  connection.exchange.any (Exchange.isFor promise)

section Counting

variable {connection : Connection} {exchange : Exchange} {promise : Nat}

/-- An exchange that is tried again is for the same promise. -/
@[simp] theorem Exchange.isFor_again (exchange : Exchange) :
    exchange.again.isFor promise = exchange.isFor promise := rfl

/-- What a connection carries, it carries for its promise. -/
theorem Connection.carries_of_some (carried : connection.exchange = some exchange) :
    connection.carries promise = exchange.isFor promise := by
  rw [carries, carried]
  rfl

/-- A connection without an exchange carries nothing. -/
theorem Connection.carries_of_none (free : connection.exchange = none) :
    connection.carries promise = false := by
  rw [carries, free]
  rfl

/-- One more exchange counts if it is for the promise. -/
theorem countP_isFor_cons (exchanges : List Exchange) :
    (exchange :: exchanges).countP (Exchange.isFor promise) =
      exchanges.countP (Exchange.isFor promise) + (exchange.isFor promise).toNat := by
  rw [List.countP_cons]
  cases exchange.isFor promise <;> rfl

end Counting

namespace Journal

/-- An exchange that comes in counts for its promise. -/
theorem receipts_received (exchange : Exchange) (promise : Nat) :
    receipts [.received exchange] promise = (exchange.isFor promise).toNat := by
  rw [receipts, List.countP_singleton, Transit.receives, Exchange.isFor]
  cases exchange.promise == promise <;> rfl

/-- A settlement counts for its promise. -/
theorem settlements_settled (exchange : Exchange) (outcome : Outcome Response) (promise : Nat) :
    (settlements [.settled exchange.promise outcome] promise).length =
      (exchange.isFor promise).toNat := by
  rw [settlements, List.filterMap_cons, Transit.settlement?, Exchange.isFor]
  by_cases same : exchange.promise = promise
  · simp [same]
  · simp [same, beq_false_of_ne same]

end Journal

namespace Dispatcher

/-- How many exchanges are held for a promise. -/
def holdings (dispatcher : Dispatcher) (promise : Nat) : Nat :=
  dispatcher.connections.count (Connection.carries promise) +
    dispatcher.pools.queued.countP (Exchange.isFor promise)

/-- The exchanges that came in are those that were settled, that are held and that are in hand. -/
def Conserved (dispatcher : Dispatcher) (hand : List Exchange) : Prop :=
  ∀ promise, Journal.receipts dispatcher.journal promise =
    (Journal.settlements dispatcher.journal promise).length + dispatcher.holdings promise +
      hand.countP (Exchange.isFor promise)

variable {dispatcher next : Dispatcher} {hand rest : List Exchange}

section Holdings

variable {host : String} {pool : Pool} {key : Nat} {connection : Connection}

/-- Notes are not held. -/
@[simp] theorem holdings_record (note : Transit) (promise : Nat) :
    (dispatcher.record note).holdings promise = dispatcher.holdings promise := rfl

/-- The holdings after a change of one pool. -/
theorem holdings_modifyPool (found : dispatcher.pools.get? host = some pool)
    (change : Pool → Pool) (promise : Nat) :
    (dispatcher.modifyPool host change).holdings promise +
        pool.queue.countP (Exchange.isFor promise) =
      dispatcher.holdings promise + (change pool).queue.countP (Exchange.isFor promise) := by
  -- The connections stay as they are.
  have waits := Pools.countP_queued_modify found change (Exchange.isFor promise)
  rw [holdings, holdings, modifyPool]
  dsimp only
  omega

/-- The holdings after an exchange left its queue. -/
theorem holdings_unqueue {exchange : Exchange} {waiting : List Exchange}
    (found : dispatcher.pools.get? host = some pool) (queued : pool.queue = exchange :: waiting)
    (change : Pool → Pool) (keeps : ∀ pool, (change pool).queue = pool.queue) (promise : Nat) :
    (dispatcher.unqueue host waiting change).holdings promise + (exchange.isFor promise).toNat =
      dispatcher.holdings promise := by
  -- The queue is one exchange shorter, and the other change of the pool leaves it alone.
  have left := holdings_modifyPool found (fun pool => change (pool.withQueue waiting)) promise
  have behind : (pool.withQueue waiting).queue = waiting := rfl
  rw [keeps, behind, queued, countP_isFor_cons] at left
  have same : (dispatcher.unqueue host waiting change).holdings promise =
      (dispatcher.modifyPool host fun pool => change (pool.withQueue waiting)).holdings promise :=
    rfl
  omega

/-- The holdings after a change of one connection. -/
theorem holdings_setConnection (present : dispatcher.connections.get? key = some connection)
    (changed : Connection) (promise : Nat) :
    (dispatcher.setConnection key changed).holdings promise +
        (connection.carries promise).toNat =
      dispatcher.holdings promise + (changed.carries promise).toNat := by
  -- The queues stay as they are.
  have carried := Roster.count_set present changed (Connection.carries promise)
  rw [holdings, holdings, setConnection]
  dsimp only
  omega

/-- A connection that carries what it carried is held as before. -/
theorem holdings_setConnection_of_exchange
    (present : dispatcher.connections.get? key = some connection) (changed : Connection)
    (same : changed.exchange = connection.exchange) (promise : Nat) :
    (dispatcher.setConnection key changed).holdings promise = dispatcher.holdings promise := by
  have held := holdings_setConnection present changed promise
  have carries : changed.carries promise = connection.carries promise := by
    rw [Connection.carries, same, Connection.carries]
  rw [carries] at held
  omega

/-- The holdings after a connection was opened and changed at once. -/
theorem holdings_openConnection (dispatcher : Dispatcher) (host : String) (note : Transit)
    (changed : Connection) (promise : Nat) :
    (((dispatcher.openConnection host).record note).setConnection
        dispatcher.connections.nextKey changed).holdings promise =
      dispatcher.holdings promise + (changed.carries promise).toNat := by
  -- Opening and changing it comes to inserting it as it is in the end.
  have carried := Roster.count_insert dispatcher.connections changed (Connection.carries promise)
  rw [← Roster.set_insert dispatcher.connections { authority := host }] at carried
  simp only [holdings, setConnection, record, openConnection]
  omega

/-- The holdings after a connection ended. -/
theorem holdings_drop (accounted : dispatcher.Accounted)
    (present : dispatcher.connections.get? key = some connection) (notes : List Transit)
    (promise : Nat) :
    (dispatcher.drop key connection.authority notes).holdings promise +
        (connection.carries promise).toNat =
      dispatcher.holdings promise := by
  -- The pool of the connection forgets its key and keeps its queue.
  obtain ⟨pool, found⟩ := accounted.hosted present
  have carried := Roster.count_erase present (Connection.carries promise)
  have waits := Pools.countP_queued_modify found (·.forget key) (Exchange.isFor promise)
  rw [Pool.forget] at waits
  rw [holdings, holdings, drop]
  dsimp only at waits ⊢
  omega

end Holdings

/-- A change conserves the exchanges if what it notes and what it holds are in balance. -/
theorem Conserved.change (conserved : dispatcher.Conserved hand) (notes : List Transit)
    (journal : next.journal = dispatcher.journal ++ notes)
    (balance : ∀ promise, Journal.receipts notes promise + dispatcher.holdings promise +
        hand.countP (Exchange.isFor promise) =
      (Journal.settlements notes promise).length + next.holdings promise +
        rest.countP (Exchange.isFor promise)) :
    next.Conserved rest := by
  intro promise
  have before := conserved promise
  have after := balance promise
  rw [journal, Journal.receipts_append, Journal.settlements_append, List.length_append]
  omega

/-- A change that neither receives nor settles conserves the exchanges if it holds on to them. -/
theorem Conserved.shift (conserved : dispatcher.Conserved hand) (notes : List Transit)
    (journal : next.journal = dispatcher.journal ++ notes)
    (receivesNone : ∀ promise, Journal.receipts notes promise = 0)
    (settlesNone : ∀ promise, Journal.settlements notes promise = [])
    (balance : ∀ promise, dispatcher.holdings promise + hand.countP (Exchange.isFor promise) =
      next.holdings promise + rest.countP (Exchange.isFor promise)) :
    next.Conserved rest := by
  refine conserved.change notes journal fun promise => ?_
  have same := balance promise
  rw [receivesNone, settlesNone, List.length_nil]
  omega

/-- The end of a connection puts into the hand what it carried. -/
theorem Conserved.drop (conserved : dispatcher.Conserved hand) (accounted : dispatcher.Accounted)
    {key : Nat} {connection : Connection}
    (present : dispatcher.connections.get? key = some connection) (notes : List Transit)
    (receivesNone : ∀ promise, Journal.receipts notes promise = 0)
    (settlesNone : ∀ promise, Journal.settlements notes promise = []) :
    (dispatcher.drop key connection.authority notes).Conserved
      (connection.exchange.toList ++ hand) := by
  refine conserved.shift _ (accounted.journal_drop present notes) ?_ ?_ fun promise => ?_
  · intro promise
    rw [Journal.receipts_append, receivesNone]
    rfl
  · intro promise
    rw [Journal.settlements_append, settlesNone]
    rfl
  · -- What the connection carried is in hand, if it carried anything.
    have ended := holdings_drop accounted present notes promise
    cases carried : connection.exchange with
    | none =>
      rw [Connection.carries_of_none carried, Bool.toNat_false] at ended
      rw [Option.toList_none, List.nil_append]
      omega
    | some exchange =>
      rw [Connection.carries_of_some carried] at ended
      rw [Option.toList_some, List.singleton_append, countP_isFor_cons]
      omega

/-- An exchange that comes in is held, or settled at once. -/
theorem Entry.conserved {exchange : Exchange} (entry : dispatcher.Entry exchange next)
    (conserved : dispatcher.Conserved hand) : next.Conserved hand := by
  cases entry with
  | refused error =>
    -- It comes in and is settled in one go.
    refine conserved.change [.received exchange, .settled exchange.promise (.error error)]
      (by simp [reject, settle, record]) fun promise => ?_
    have comes : Journal.receipts [.received exchange, .settled exchange.promise (.error error)]
        promise = (exchange.isFor promise).toNat := Journal.receipts_received exchange promise
    have goes : (Journal.settlements [.received exchange,
        .settled exchange.promise (.error error)] promise).length =
          (exchange.isFor promise).toNat := Journal.settlements_settled exchange _ promise
    rw [comes, goes, reject, settle, holdings_record, holdings_record]
    -- How many hosts were looked up has no part in what is held.
    rfl
  | admitted found =>
    -- It comes in and is held in the queue.
    rename_i pool
    refine conserved.change [.received exchange] rfl fun promise => ?_
    have there : (dispatcher.record (.received exchange)).pools.get? exchange.authority =
        some pool := found
    have waits := holdings_modifyPool there (·.enqueue exchange) promise
    rw [Pool.enqueue, List.countP_append, countP_isFor_cons, List.countP_nil,
      holdings_record] at waits
    have unsettled : (Journal.settlements [.received exchange] promise).length = 0 := rfl
    rw [Journal.receipts_received]
    omega

/-- Every move conserves the exchanges. -/
theorem Move.conserved (move : dispatcher.Move hand next rest) (accounted : dispatcher.Accounted)
    (conserved : dispatcher.Conserved hand) : next.Conserved rest := by
  -- Case by case, what is noted and what is held and in hand come to the same as before.
  cases move with
  | discovered absent address =>
    refine conserved.shift [] (List.append_nil _).symm (fun _ => rfl) (fun _ => rfl) fun _ => ?_
    rw [holdings, holdings, Pools.queued_insert absent rfl]
  | unreachable found queued error =>
    -- The exchange leaves its queue and is settled.
    rename_i host pool exchange waiting
    refine conserved.change [.settled exchange.promise (.error error)] rfl fun promise => ?_
    have left := holdings_unqueue found queued id (fun _ => rfl) promise
    rw [Journal.settlements_settled, reject, settle, holdings_record]
    have unreceived : Journal.receipts [.settled exchange.promise (.error error)] promise = 0 := rfl
    omega
  | misdirected found queued rested gone error =>
    -- The idle connections are there.
    exact absurd (accounted.idle found rested) (not_idleAt gone)
  | reused found queued rested present =>
    -- The exchange leaves its queue, and the connection carried none before.
    rename_i host pool exchange waiting key idle connection
    obtain ⟨-, free⟩ := (idleAt_iff present).1 (accounted.idle found rested)
    refine conserved.shift [.started key exchange] rfl (fun _ => rfl) (fun _ => rfl)
      fun promise => ?_
    have left := holdings_unqueue found queued (·.withIdle idle) (fun _ => rfl) promise
    have there : ((dispatcher.unqueue host waiting (·.withIdle idle)).record
        (.started key exchange)).connections.get? key = some connection := present
    have taken := holdings_setConnection there (connection.start exchange dispatcher.keepAlive)
      promise
    have carries := (Connection.carries_of_some rfl :
      (connection.start exchange dispatcher.keepAlive).carries promise = exchange.isFor promise)
    rw [Connection.carries_of_none free, carries, holdings_record, Bool.toNat_false] at taken
    omega
  | opened found queued rested room =>
    -- The exchange leaves its queue for the new connection.
    rename_i host pool exchange waiting
    refine conserved.shift [.opened dispatcher.connections.nextKey host,
      .started dispatcher.connections.nextKey exchange]
      (by simp [setConnection, record, openConnection, unqueue]) (fun _ => rfl) (fun _ => rfl)
      fun promise => ?_
    have left := holdings_unqueue found queued Pool.addConnection (fun _ => rfl) promise
    have taken := holdings_openConnection (dispatcher.unqueue host waiting Pool.addConnection) host
      (.started dispatcher.connections.nextKey exchange)
      (({ authority := host } : Connection).start exchange dispatcher.keepAlive) promise
    have carries := (Connection.carries_of_some rfl :
      (({ authority := host } : Connection).start exchange dispatcher.keepAlive).carries promise =
        exchange.isFor promise)
    rw [carries] at taken
    have key : (dispatcher.unqueue host waiting Pool.addConnection).connections.nextKey =
        dispatcher.connections.nextKey := rfl
    rw [key] at taken
    omega
  | tended present connected still writeBuffer =>
    refine conserved.shift [] (List.append_nil _).symm (fun _ => rfl) (fun _ => rfl)
      fun promise => ?_
    rw [holdings_setConnection_of_exchange present _ (by rfl)]
  | filled present arrival harmless =>
    rename_i key connection
    refine conserved.shift [.arrived key arrival.bytes] rfl (fun _ => rfl) (fun _ => rfl)
      fun promise => ?_
    rw [holdings_record, holdings_setConnection_of_exchange present _ (by rfl)]
  | answered present carried connected decoded reusable =>
    -- The exchange leaves the connection and is in hand.
    rename_i key connection polled exchange response consumed
    obtain ⟨pool, found⟩ := accounted.hosted present
    refine conserved.shift [.answered key response] rfl (fun _ => rfl) (fun _ => rfl)
      fun promise => ?_
    have freed := holdings_setConnection present polled.release promise
    rw [Connection.carries_of_some carried, Connection.carries_of_none rfl,
      Bool.toNat_false] at freed
    have there : ((dispatcher.setConnection key polled.release).record
        (.answered key response)).pools.get? connection.authority = some pool := found
    have waits := holdings_modifyPool there (·.putIdle key) promise
    have queue : (pool.putIdle key).queue = pool.queue := rfl
    rw [queue, holdings_record] at waits
    rw [countP_isFor_cons]
    omega
  | answeredLast present carried decoded =>
    rename_i key connection polled exchange response consumed
    have ended := conserved.drop accounted present [.answered key response] (fun _ => rfl)
      fun _ => rfl
    rw [carried] at ended
    exact ended
  | spoiled present free bytes =>
    rename_i key connection
    have ended := conserved.drop accounted present [.arrived key bytes] (fun _ => rfl) fun _ => rfl
    rw [free] at ended
    exact ended
  | closed present => exact conserved.drop accounted present [] (fun _ => rfl) fun _ => rfl
  | retried present carried stale found =>
    -- The exchange leaves the connection, and is in front of its queue again.
    rename_i key connection exchange pool
    have ended := conserved.drop accounted present [] (fun _ => rfl) fun _ => rfl
    rw [carried] at ended
    have there : (dispatcher.drop key connection.authority []).pools.get? connection.authority =
        some (pool.forget key) := by
      rw [drop, Pools.get?_modify, if_pos rfl, found]
      rfl
    refine ended.shift [.requeued exchange.again] rfl (fun _ => rfl) (fun _ => rfl)
      fun promise => ?_
    have waits := holdings_modifyPool there (·.requeue exchange.again) promise
    rw [Pool.requeue, countP_isFor_cons, Exchange.isFor_again] at waits
    rw [Option.toList_some, List.singleton_append, countP_isFor_cons, holdings_record]
    omega
  | settled held outcome =>
    rename_i exchange
    subst held
    refine conserved.change [.settled exchange.promise outcome] rfl fun promise => ?_
    rw [Journal.settlements_settled, settle, holdings_record, countP_isFor_cons]
    have unreceived : Journal.receipts [.settled exchange.promise outcome] promise = 0 := rfl
    omega
  | overdue now =>
    -- Whoever leaves a queue is in hand.
    refine conserved.shift [] (List.append_nil _).symm (fun _ => rfl) (fun _ => rfl)
      fun promise => ?_
    have parted := Pools.countP_queued_expire dispatcher.pools now (Exchange.isFor promise)
    rw [holdings, holdings, List.countP_append]
    dsimp only
    omega

end Dispatcher

end HttpEngine
