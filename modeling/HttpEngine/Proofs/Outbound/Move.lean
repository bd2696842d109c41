import HttpEngine.Outbound.Reaction
import HttpEngine.Proofs.Outbound.Pool
import Mathlib.Logic.Relation

/-!
The moves of a dispatcher: everything that can happen to its connections, pools and exchanges, one
thing at a time. Whatever a dispatcher does is a sequence of moves and entries, so that what these
keep is kept by all that it does.
-/

namespace HttpEngine

/-- What is noted when a connection is counted off a host that has none. -/
def Pools.overdraft (pools : Pools) (host : String) : List Transit :=
  match pools.get? host with
  | some pool => if pool.connections = 0 then [.overdrawn host] else []
  | none => []

namespace Dispatcher

/-- The dispatcher without the first exchange that waits for a host. -/
def unqueue (dispatcher : Dispatcher) (host : String) (waiting : List Exchange)
    (change : Pool → Pool) : Dispatcher :=
  { dispatcher with
    handovers := dispatcher.handovers + 1
    pools := dispatcher.pools.modify host fun pool => change (pool.withQueue waiting) }

/-- The dispatcher without a connection, of which something may have been noted before. -/
def drop (dispatcher : Dispatcher) (key : Nat) (host : String) (notes : List Transit) :
    Dispatcher :=
  { dispatcher with
    connections := dispatcher.connections.erase key
    pools := dispatcher.pools.modify host (·.forget key)
    journal :=
      dispatcher.journal ++ notes ++ dispatcher.pools.overdraft host ++ [.closed key] }

end Dispatcher

namespace Dispatcher

/-- How an exchange comes in. -/
inductive Entry (dispatcher : Dispatcher) (exchange : Exchange) : Dispatcher → Prop where
  /-- Its host is nowhere. -/
  | refused (error : Error) :
      Entry dispatcher exchange
        (({ dispatcher with lookups := dispatcher.lookups + 1 }.record (.received exchange)).reject
          exchange error)
  /-- It waits with the others for its host. -/
  | admitted {pool : Pool} (found : dispatcher.pools.get? exchange.authority = some pool) :
      Entry dispatcher exchange
        ((dispatcher.record (.received exchange)).modifyPool exchange.authority
          (·.enqueue exchange))

/--
One thing that can happen to a dispatcher without another exchange coming in, while exchanges that
have left it are in hand.
-/
inductive Move (dispatcher : Dispatcher) (hand : List Exchange) :
    Dispatcher → List Exchange → Prop where
  /-- The first exchange for a host finds out where the host is. -/
  | discovered {host : String} (absent : dispatcher.pools.get? host = none)
      (address : SocketAddr) :
      Move dispatcher hand
        { dispatcher with
          lookups := dispatcher.lookups + 1, pools := dispatcher.pools.insert host { address } } hand
  /-- No connection can be opened for the first exchange that waits. -/
  | unreachable {host : String} {pool : Pool} {exchange : Exchange} {waiting : List Exchange}
      (found : dispatcher.pools.get? host = some pool) (queued : pool.queue = exchange :: waiting)
      (error : Error) :
      Move dispatcher hand ((dispatcher.unqueue host waiting id).reject exchange error) hand
  /-- The first exchange that waits is given to a connection that is not there. -/
  | misdirected {host : String} {pool : Pool} {exchange : Exchange} {waiting : List Exchange}
      {key : Nat} {idle : List Nat} (found : dispatcher.pools.get? host = some pool)
      (queued : pool.queue = exchange :: waiting) (rested : pool.idle = key :: idle)
      (gone : dispatcher.connections.get? key = none) (error : Error) :
      Move dispatcher hand
        (((dispatcher.unqueue host waiting (·.withIdle idle)).record (.misdirected key)).reject
          exchange error) hand
  /-- The first exchange that waits is given to an idle connection. -/
  | reused {host : String} {pool : Pool} {exchange : Exchange} {waiting : List Exchange}
      {key : Nat} {idle : List Nat} {connection : Connection}
      (found : dispatcher.pools.get? host = some pool) (queued : pool.queue = exchange :: waiting)
      (rested : pool.idle = key :: idle)
      (present : dispatcher.connections.get? key = some connection) :
      Move dispatcher hand
        (((dispatcher.unqueue host waiting (·.withIdle idle)).record
          (.started key exchange)).setConnection key
            (connection.start exchange dispatcher.keepAlive)) hand
  /-- The first exchange that waits is given to a new connection. -/
  | opened {host : String} {pool : Pool} {exchange : Exchange} {waiting : List Exchange}
      (found : dispatcher.pools.get? host = some pool) (queued : pool.queue = exchange :: waiting)
      (rested : pool.idle = []) (room : pool.connections < dispatcher.maxConnectionsPerHost) :
      Move dispatcher hand
        ((((dispatcher.unqueue host waiting Pool.addConnection).openConnection host).record
          (.started dispatcher.connections.nextKey exchange)).setConnection
            dispatcher.connections.nextKey
            (({ authority := host } : Connection).start exchange dispatcher.keepAlive)) hand
  /-- A connection is established, or gives out bytes. -/
  | tended {key : Nat} {connection : Connection}
      (present : dispatcher.connections.get? key = some connection) (connected : Bool)
      (still : connection.connected = true → connected = true) (writeBuffer : Bytes) :
      Move dispatcher hand
        (dispatcher.setConnection key { connection with connected, writeBuffer }) hand
  /-- Bytes arrive on a connection, or nothing arrives on an idle one. -/
  | filled {key : Nat} {connection : Connection}
      (present : dispatcher.connections.get? key = some connection) (arrival : Arrival)
      (harmless : connection.exchange.isSome = true ∨
        arrival.bytes = [] ∧ arrival.ending ≠ .closed) :
      Move dispatcher hand
        ((dispatcher.setConnection key (connection.fill arrival)).record
          (.arrived key arrival.bytes)) hand
  /-- A response is complete, and the connection is idle from now on. -/
  | answered {key : Nat} {connection polled : Connection} {exchange : Exchange}
      {response : Response} {consumed : Nat}
      (present : dispatcher.connections.get? key = some connection)
      (carried : connection.exchange = some exchange) (connected : connection.connected = true)
      (decoded : connection.poll = (polled, .message response consumed))
      (reusable : polled.isReusable response = true) :
      Move dispatcher hand
        (((dispatcher.setConnection key polled.release).record
          (.answered key response)).modifyPool connection.authority (·.putIdle key))
        (exchange :: hand)
  /-- A response is complete, and the connection ends with it. -/
  | answeredLast {key : Nat} {connection polled : Connection} {exchange : Exchange}
      {response : Response} {consumed : Nat}
      (present : dispatcher.connections.get? key = some connection)
      (carried : connection.exchange = some exchange)
      (decoded : connection.poll = (polled, .message response consumed)) :
      Move dispatcher hand (dispatcher.drop key connection.authority [.answered key response])
        (exchange :: hand)
  /-- Bytes or their end arrive on an idle connection, which ends with them. -/
  | spoiled {key : Nat} {connection : Connection}
      (present : dispatcher.connections.get? key = some connection)
      (free : connection.exchange = none) (bytes : Bytes) :
      Move dispatcher hand (dispatcher.drop key connection.authority [.arrived key bytes]) hand
  /-- A connection ends, and gives back what it carried. -/
  | closed {key : Nat} {connection : Connection}
      (present : dispatcher.connections.get? key = some connection) :
      Move dispatcher hand (dispatcher.drop key connection.authority [])
        (connection.exchange.toList ++ hand)
  /-- A connection ends, and its stale exchange is to be tried again. -/
  | retried {key : Nat} {connection : Connection} {exchange : Exchange} {pool : Pool}
      (present : dispatcher.connections.get? key = some connection)
      (carried : connection.exchange = some exchange) (stale : connection.isStale = true)
      (found : dispatcher.pools.get? connection.authority = some pool) :
      Move dispatcher hand
        (((dispatcher.drop key connection.authority []).modifyPool connection.authority
          (·.requeue exchange.again)).record (.requeued exchange.again)) hand
  /-- An exchange that has left is settled. -/
  | settled {exchange : Exchange} {rest : List Exchange} (held : hand = exchange :: rest)
      (outcome : Outcome Response) :
      Move dispatcher hand (dispatcher.settle exchange outcome) rest
  /-- The exchanges that have waited for too long leave their queues. -/
  | overdue (now : Instant) :
      Move dispatcher hand
        { dispatcher with pools := dispatcher.pools.mapAll fun _ pool => pool.expire now }
        (dispatcher.pools.overdue now ++ hand)

end Dispatcher

/-- A dispatcher, and the exchanges that have left it and are not settled yet. -/
structure Desk where
  dispatcher : Dispatcher
  inHand : List Exchange := []

namespace Desk

/-- One move. -/
def Moves (desk next : Desk) : Prop :=
  desk.dispatcher.Move desk.inHand next.dispatcher next.inHand

/-- Any number of moves. -/
def Leads : Desk → Desk → Prop := Relation.ReflTransGen Moves

/-- What every move keeps, any number of moves keeps. -/
theorem Leads.keeps {desk next : Desk} (leads : desk.Leads next) (property : Desk → Prop)
    (kept : ∀ desk next : Desk, desk.Moves next → property desk → property next)
    (holds : property desk) : property next := by
  induction leads with
  | refl => exact holds
  | tail _ move ih =>
    -- What the moves before have kept, the last one keeps as well.
    exact kept _ _ move ih

end Desk

end HttpEngine
