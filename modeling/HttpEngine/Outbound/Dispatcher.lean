import HttpEngine.Fault.Error
import HttpEngine.Net.Lookup
import HttpEngine.Outbound.Connection
import HttpEngine.Outbound.Pool
import HttpEngine.Promise.Cell
import HttpEngine.Roster

/-!
What one thread of a client keeps: its connections, and a pool for every host. An exchange that
waits is handed to an idle connection, or to a new one while the host may have more. Handing out
comes to an end, since every exchange has at most two chances.
-/

namespace HttpEngine

/-- Two outcomes can be told apart, since two responses and two errors can. -/
local instance : DecidableEq (Outcome Response)
  | .ok response, .ok other => decidable_of_iff (response = other) (by simp)
  | .error error, .error other => decidable_of_iff (error = other) (by simp)
  | .ok _, .error _ | .error _, .ok _ => isFalse nofun

/-- What happens to exchanges and connections. -/
inductive Transit where
  | received (exchange : Exchange)
  | opened (key : Nat) (authority : String)
  | started (key : Nat) (exchange : Exchange)
  | arrived (key : Nat) (bytes : Bytes)
  | answered (key : Nat) (response : Response)
  | requeued (exchange : Exchange)
  | closed (key : Nat)
  | settled (promise : Nat) (outcome : Outcome Response)
  /-- A connection was counted off a host that has none. -/
  | overdrawn (authority : String)
  /-- An exchange was given to a connection that is not there. -/
  | misdirected (key : Nat)
  deriving DecidableEq

/-- What the operating system answers while one host is looked up, or one exchange handed out. -/
structure HandoverIo where
  /-- Whether a connection to an address can be opened and watched. -/
  connect : SocketAddr → Except IoError Unit
  departure : Departure
  /-- Why the connection could not go on being watched, if it could not. -/
  watchFailure : Option IoError := none
  /-- Where the hosts are, if anybody knows. -/
  lookup : HostLookup := numericHosts

/-- What the operating system answers while a connection that is ready is looked after. -/
structure ConnectionIo where
  /-- Whether the connection is established by now. -/
  handshake : Except IoError Bool := .ok true
  departure : Departure
  arrival : Arrival := ⟨[], .blocked⟩
  /-- Why the connection could not go on being watched, if it could not. -/
  watchFailure : Option IoError := none

/-- The connections and pools of one thread. -/
structure Dispatcher where
  connections : Roster Connection := .empty
  pools : Pools := {}
  maxConnectionsPerHost : Nat
  keepAlive : Bool
  /-- How many exchanges were handed out so far. -/
  handovers : Nat := 0
  /-- How many hosts were looked up so far. -/
  lookups : Nat := 0
  journal : List Transit := []

namespace Dispatcher

/-- One more entry in the journal. -/
def record (dispatcher : Dispatcher) (transit : Transit) : Dispatcher :=
  { dispatcher with journal := dispatcher.journal ++ [transit] }

/-- Settles the promise of an exchange. -/
def settle (dispatcher : Dispatcher) (exchange : Exchange) (outcome : Outcome Response) :
    Dispatcher :=
  dispatcher.record (.settled exchange.promise outcome)

/-- Rejects the promise of an exchange. -/
def reject (dispatcher : Dispatcher) (exchange : Exchange) (error : Error) : Dispatcher :=
  dispatcher.settle exchange (.error error)

/-- A change of the pool of a host. -/
def modifyPool (dispatcher : Dispatcher) (authority : String) (change : Pool → Pool) :
    Dispatcher :=
  { dispatcher with pools := dispatcher.pools.modify authority change }

/-- Counts a connection off a host. If the host has none left, that is taken note of. -/
def withdraw (dispatcher : Dispatcher) (authority : String) (change : Pool → Pool) : Dispatcher :=
  -- Whether there was a connection to count off shows before the change.
  let counted := dispatcher.modifyPool authority change
  match dispatcher.pools.get? authority with
  | some pool => if pool.connections = 0 then counted.record (.overdrawn authority) else counted
  | none => counted

/-- Another connection under a key that is in use. -/
def setConnection (dispatcher : Dispatcher) (key : Nat) (connection : Connection) : Dispatcher :=
  { dispatcher with connections := dispatcher.connections.set key connection }

/-- Ends a connection, and gives back the exchange that it carried. -/
def close (dispatcher : Dispatcher) (key : Nat) : Dispatcher × Option Exchange :=
  match dispatcher.connections.get? key with
  | none => (dispatcher, none)
  | some connection =>
    -- The pool forgets the key, which the next connection may get.
    let closed :=
      { dispatcher with connections := dispatcher.connections.erase key }.withdraw
        connection.authority (·.forget key)
    (closed.record (.closed key), connection.exchange)

/-- Ends a connection, and rejects the exchange that it carried. -/
def lose (dispatcher : Dispatcher) (key : Nat) (error : Error) : Dispatcher :=
  match dispatcher.close key with
  | (dispatcher, some exchange) => dispatcher.reject exchange error
  | (dispatcher, none) => dispatcher

/-- Ends a connection, and puts a stale exchange in front of the queue again. -/
def loseOrRetry (dispatcher : Dispatcher) (key : Nat) (error : Error) : Dispatcher :=
  match dispatcher.connections.get? key with
  | none => dispatcher
  | some connection =>
    if connection.isStale then
      match dispatcher.close key with
      | (dispatcher, none) => dispatcher
      | (dispatcher, some exchange) =>
        -- The exchange goes in front of those that came after it.
        match dispatcher.pools.get? connection.authority with
        | none => dispatcher.reject exchange error
        | some _ =>
          (dispatcher.modifyPool connection.authority (·.requeue exchange.again)).record
            (.requeued exchange.again)
    else dispatcher.lose key error

/-- Opens a connection to a host, under the next key. -/
def openConnection (dispatcher : Dispatcher) (authority : String) : Dispatcher :=
  let key := dispatcher.connections.nextKey
  { dispatcher with connections := dispatcher.connections.insert { authority } }.record
    (.opened key authority)

/-- Gives up on a connection that can no longer be watched. -/
def watch (dispatcher : Dispatcher) (key : Nat) (failure : Option IoError) : Dispatcher :=
  match failure with
  | some failure => dispatcher.lose key (.transport failure)
  | none => dispatcher

/-- Gives an exchange to a connection, which sends the request if it is established. -/
def assign (dispatcher : Dispatcher) (key : Nat) (exchange : Exchange) (io : HandoverIo) :
    Dispatcher :=
  match dispatcher.connections.get? key with
  | none =>
    (dispatcher.record (.misdirected key)).reject exchange (.transport (.ofKind .notConnected))
  | some connection =>
    let started := connection.start exchange dispatcher.keepAlive
    let dispatcher := dispatcher.record (.started key exchange)
    -- The request of a connection that is still being established goes out later.
    if connection.connected then
      let dispatcher := dispatcher.setConnection key (started.flush io.departure)
      match io.departure.result started.writeBuffer with
      | .error failure => dispatcher.loseOrRetry key (.transport failure)
      | .ok _ => dispatcher.watch key io.watchFailure
    else (dispatcher.setConnection key started).watch key io.watchFailure

/-- How often the exchanges that wait for a host can still be handed out. -/
def chances (dispatcher : Dispatcher) (authority : String) : Nat :=
  ((dispatcher.pools.get? authority).map Pool.chances).getD 0

/--
Hands out the first exchange that waits for a host, if a connection can take it.

A connection that was used before is preferred to a new one.
-/
def handOut? (net : Nat → HandoverIo) (dispatcher : Dispatcher) (authority : String) :
    Option Dispatcher :=
  match dispatcher.pools.get? authority with
  | none => none
  | some pool =>
    match pool.queue with
    | [] => none
    | exchange :: waiting =>
      let io := net dispatcher.handovers
      let taken :=
        { dispatcher with handovers := dispatcher.handovers + 1 }.modifyPool authority
          (·.withQueue waiting)
      match pool.idle with
      | key :: idle =>
        some ((taken.modifyPool authority (·.withIdle idle)).assign key exchange io)
      | [] =>
        if pool.connections < dispatcher.maxConnectionsPerHost then
          let counted := taken.modifyPool authority Pool.addConnection
          match io.connect pool.address with
          | .error failure =>
            -- The connection was counted before it was tried.
            some ((counted.withdraw authority Pool.removeConnection).reject exchange
              (.transport failure))
          | .ok () =>
            let key := taken.connections.nextKey
            some ((counted.openConnection authority).assign key exchange io)
        else none

section Termination

/-- A change of a pool that keeps its chances keeps those of every host. -/
theorem chances_modifyPool_of_eq (dispatcher : Dispatcher) (authority other : String)
    {change : Pool → Pool} (keeps : ∀ pool, (change pool).chances = pool.chances) :
    (dispatcher.modifyPool authority change).chances other = dispatcher.chances other := by
  -- Only one pool changes, and the change keeps what it counts for.
  unfold chances modifyPool
  rw [Pools.get?_modify]
  split
  · cases dispatcher.pools.get? other <;> simp [keeps]
  · rfl

/-- What is written down does not change the chances. -/
@[simp] theorem chances_record (dispatcher : Dispatcher) (transit : Transit) (authority : String) :
    (dispatcher.record transit).chances authority = dispatcher.chances authority := rfl

/-- A rejection does not change the chances. -/
@[simp] theorem chances_reject (dispatcher : Dispatcher) (exchange : Exchange) (error : Error)
    (authority : String) :
    (dispatcher.reject exchange error).chances authority = dispatcher.chances authority := rfl

/-- The connections have no part in the chances. -/
@[simp] theorem chances_setConnection (dispatcher : Dispatcher) (key : Nat)
    (connection : Connection) (authority : String) :
    (dispatcher.setConnection key connection).chances authority = dispatcher.chances authority :=
  rfl

/-- A new connection does not change the chances. -/
@[simp] theorem chances_openConnection (dispatcher : Dispatcher) (host authority : String) :
    (dispatcher.openConnection host).chances authority = dispatcher.chances authority := rfl

/-- Counting a connection off does not change the chances. -/
theorem chances_withdraw (dispatcher : Dispatcher) (authority other : String)
    {change : Pool → Pool} (keeps : ∀ pool, (change pool).chances = pool.chances) :
    (dispatcher.withdraw authority change).chances other = dispatcher.chances other := by
  -- What is taken note of beside the change of the pool does not count.
  have changed := chances_modifyPool_of_eq dispatcher authority other keeps
  unfold withdraw
  dsimp only
  split
  · split <;> exact changed
  · exact changed

/-- The end of a connection does not change the chances. -/
@[simp] theorem chances_close (dispatcher : Dispatcher) (key : Nat) (authority : String) :
    (dispatcher.close key).1.chances authority = dispatcher.chances authority := by
  -- The pool forgets the connection and keeps its queue.
  unfold close
  split
  · rfl
  · rename_i connection _
    exact chances_withdraw { dispatcher with connections := dispatcher.connections.erase key }
      connection.authority authority fun pool => pool.chances_forget key

/-- The loss of a connection does not change the chances. -/
@[simp] theorem chances_lose (dispatcher : Dispatcher) (key : Nat) (error : Error)
    (authority : String) :
    (dispatcher.lose key error).chances authority = dispatcher.chances authority := by
  -- The exchange was on the connection, and not in a queue.
  have closed := chances_close dispatcher key authority
  unfold lose
  split <;> simp_all

/-- The end of watching does not change the chances. -/
@[simp] theorem chances_watch (dispatcher : Dispatcher) (key : Nat) (failure : Option IoError)
    (authority : String) :
    (dispatcher.watch key failure).chances authority = dispatcher.chances authority := by
  unfold watch
  split <;> simp

/-- An exchange in front of a queue brings at most its own chances. -/
theorem chances_requeue_le (dispatcher : Dispatcher) (host authority : String)
    (exchange : Exchange) :
    (dispatcher.modifyPool host (·.requeue exchange)).chances authority ≤
      dispatcher.chances authority + exchange.chances := by
  -- The exchange joins one queue, which may be that of another host.
  unfold chances modifyPool
  rw [Pools.get?_modify]
  split
  · cases dispatcher.pools.get? authority <;> simp [Nat.add_comm]
  · simp

/-- A connection that is lost brings its exchange back with fewer chances than it had. -/
theorem chances_loseOrRetry_lt {dispatcher : Dispatcher} {key : Nat} {connection : Connection}
    {exchange : Exchange} (present : dispatcher.connections.get? key = some connection)
    (carried : connection.exchange = some exchange) (error : Error) (authority : String) :
    (dispatcher.loseOrRetry key error).chances authority <
      dispatcher.chances authority + exchange.chances := by
  -- A stale exchange comes back with one chance, and any other is rejected.
  have one := exchange.chances_pos
  have closed := chances_close dispatcher key authority
  unfold loseOrRetry
  simp only [present]
  split
  · rename_i stale
    -- A stale connection carries an exchange that has not been retried.
    have fresh : exchange.retried = false := by
      simp [Connection.isStale, carried] at stale
      exact stale.2
    have fewer := Exchange.chances_again fresh
    split
    · simp_all
    · rename_i rest found closing
      have same : found = exchange := by
        simp only [close, present, carried, Prod.mk.injEq, Option.some.injEq] at closing
        exact closing.2.symm
      subst same
      simp only [closing] at closed
      split
      · simp only [chances_reject]
        omega
      · have brought := chances_requeue_le rest connection.authority authority found.again
        simp only [chances_record]
        omega
  · simp only [chances_lose]
    omega

/-- An exchange that is given to a connection uses up a chance. -/
theorem chances_assign_lt (dispatcher : Dispatcher) (key : Nat) (exchange : Exchange)
    (io : HandoverIo) (authority : String) :
    (dispatcher.assign key exchange io).chances authority <
      dispatcher.chances authority + exchange.chances := by
  -- The exchange is away from the queue, and only a lost connection can bring it back.
  have one := exchange.chances_pos
  unfold assign
  split
  · simp only [chances_reject, chances_record]
    omega
  · rename_i connection present
    dsimp only
    split
    · split
      · -- The connection that is lost is the one that was just given the exchange.
        refine chances_loseOrRetry_lt (Roster.get?_set_self present _) ?_ _ authority
        rfl
      · simp only [chances_watch, chances_setConnection, chances_record]
        omega
    · simp only [chances_watch, chances_setConnection, chances_record]
      omega

/-- Every handing out uses up a chance. -/
theorem chances_handOut_lt {net : Nat → HandoverIo} {dispatcher next : Dispatcher}
    {authority : String} (step : handOut? net dispatcher authority = some next) :
    next.chances authority < dispatcher.chances authority := by
  -- The exchange takes its chances out of the queue before it is handed out.
  unfold handOut? at step
  split at step
  · contradiction
  · rename_i pool found
    split at step
    · contradiction
    · rename_i exchange waiting queued
      have one := exchange.chances_pos
      -- The exchange leaves the queue before it is handed out.
      have before : dispatcher.chances authority =
          exchange.chances + Exchange.totalChances waiting := by
        simp [chances, found, Pool.chances, queued, Exchange.totalChances]
      have after : ({ dispatcher with handovers := dispatcher.handovers + 1 }.modifyPool authority
          (·.withQueue waiting)).chances authority = Exchange.totalChances waiting := by
        simp [chances, modifyPool, Pools.get?_modify, found]
      dsimp only at step
      generalize ({ dispatcher with handovers := dispatcher.handovers + 1 }.modifyPool authority
          (·.withQueue waiting)) = taken at after step
      split at step
      · rename_i key idle _
        cases step
        refine Nat.lt_of_lt_of_le (chances_assign_lt _ key exchange _ authority) ?_
        rw [chances_modifyPool_of_eq taken authority authority fun pool =>
          pool.chances_withIdle idle]
        omega
      · split at step
        · split at step
          · cases step
            rw [chances_reject,
              chances_withdraw _ authority authority Pool.chances_removeConnection,
              chances_modifyPool_of_eq taken authority authority Pool.chances_addConnection]
            omega
          · cases step
            refine Nat.lt_of_lt_of_le (chances_assign_lt _ _ exchange _ authority) ?_
            rw [chances_openConnection,
              chances_modifyPool_of_eq taken authority authority Pool.chances_addConnection]
            omega
        · contradiction

end Termination

/-- Hands out exchanges for a host until none waits, or no connection can take one. -/
def pump (net : Nat → HandoverIo) (dispatcher : Dispatcher) (authority : String) : Dispatcher :=
  match _ : handOut? net dispatcher authority with
  | none => dispatcher
  | some next => pump net next authority
termination_by dispatcher.chances authority
decreasing_by exact chances_handOut_lt (by assumption)

end Dispatcher

end HttpEngine
