import HttpEngine.Proofs.Outbound.Notes
import HttpEngine.Proofs.Outbound.Turns

/-!
What is always true of a dispatcher that starts fresh: its accounts are right, its journal tells the
truth about its connections, and every exchange is held for its own host.
-/

namespace HttpEngine

namespace Dispatcher

/-- A dispatcher that holds every exchange for the host of the exchange. -/
structure Housed (dispatcher : Dispatcher) : Prop where
  waits : ∀ {host pool exchange}, dispatcher.pools.get? host = some pool →
    exchange ∈ pool.queue → exchange.authority = host
  travels : ∀ {key connection exchange}, dispatcher.connections.get? key = some connection →
    connection.exchange = some exchange → exchange.authority = connection.authority

namespace Housed

variable {dispatcher next : Dispatcher} {key : Nat} {connection changed : Connection}

/-- A new dispatcher holds nothing. -/
theorem fresh (most : Nat) (keepAlive : Bool) : (fresh most keepAlive).Housed where
  waits found := by cases found
  travels {key connection exchange} present := by
    rw [Dispatcher.fresh, Roster.get?_empty] at present
    cases present

/-- What waits for its host after one pool has changed. -/
theorem waits_modify (housed : dispatcher.Housed) (host : String) (alter : Pool → Pool)
    (taken : ∀ pool exchange, dispatcher.pools.get? host = some pool →
      exchange ∈ (alter pool).queue → exchange ∈ pool.queue ∨ exchange.authority = host)
    {other : String} {pool : Pool} {exchange : Exchange}
    (found : (dispatcher.pools.modify host alter).get? other = some pool)
    (member : exchange ∈ pool.queue) : exchange.authority = other := by
  rw [Pools.get?_modify] at found
  split at found
  · -- This is the pool that has changed.
    rename_i here
    subst here
    obtain ⟨before, there, rfl⟩ := Option.map_eq_some_iff.1 found
    exact (taken before exchange there member).elim (housed.waits there) id
  · exact housed.waits found member

/-- What waits for its host after the first exchange has left the queue of one pool. -/
theorem waits_unqueue (housed : dispatcher.Housed) {host : String} {pool : Pool}
    {first : Exchange} {waiting : List Exchange} (found : dispatcher.pools.get? host = some pool)
    (queued : pool.queue = first :: waiting) (change : Pool → Pool)
    (still : ∀ pool, (change pool).queue = pool.queue) {other : String} {left : Pool}
    {exchange : Exchange}
    (there : (dispatcher.unqueue host waiting change).pools.get? other = some left)
    (member : exchange ∈ left.queue) : exchange.authority = other := by
  refine housed.waits_modify host _ (fun before exchange known member => .inl ?_) there member
  rw [found] at known
  cases known
  rw [still] at member
  exact queued ▸ List.mem_cons_of_mem first member

/-- What travels to its host after one connection has changed. -/
theorem travels_set (housed : dispatcher.Housed)
    (present : dispatcher.connections.get? key = some connection)
    (own : ∀ exchange, changed.exchange = some exchange →
      exchange.authority = changed.authority)
    {other : Nat} {found : Connection} {exchange : Exchange}
    (there : (dispatcher.connections.set key changed).get? other = some found)
    (carried : found.exchange = some exchange) : exchange.authority = found.authority := by
  rcases Roster.get?_set_cases present there with ⟨_, rfl⟩ | ⟨_, old⟩
  · exact own exchange carried
  · exact housed.travels old carried

/-- What travels to its host after a connection has changed that carries the same. -/
theorem travels_still (housed : dispatcher.Housed)
    (present : dispatcher.connections.get? key = some connection) (changed : Connection)
    (same : changed.exchange = connection.exchange)
    (host : changed.authority = connection.authority)
    {other : Nat} {found : Connection} {exchange : Exchange}
    (there : (dispatcher.connections.set key changed).get? other = some found)
    (carried : found.exchange = some exchange) : exchange.authority = found.authority :=
  housed.travels_set present
    (fun _ own => (housed.travels present (same ▸ own)).trans host.symm) there carried

/-- A connection ends. -/
theorem drop (housed : dispatcher.Housed) (key : Nat) (host : String) (notes : List Transit) :
    (dispatcher.drop key host notes).Housed where
  waits found := housed.waits_modify host (·.forget key) (fun _ _ _ => .inl) found
  travels there := housed.travels (Roster.get?_erase_cases there).2

end Housed

section Moves

variable {dispatcher next : Dispatcher} {hand rest : List Exchange}

/-- An exchange comes in at its host. -/
theorem Entry.housed {exchange : Exchange} (entry : dispatcher.Entry exchange next)
    (housed : dispatcher.Housed) : next.Housed := by
  cases entry with
  | refused error =>
    -- The exchange is rejected, and waits nowhere.
    exact ⟨housed.waits, housed.travels⟩
  | admitted found =>
    refine ⟨housed.waits_modify _ _ fun pool other _ member => ?_, housed.travels⟩
    -- The pool of its own host takes it in.
    rcases List.mem_append.1 member with member | last
    · exact .inl member
    · rw [List.mem_singleton.1 last]
      exact .inr rfl

/-- Every move keeps the exchanges at their hosts. -/
theorem Move.housed (move : dispatcher.Move hand next rest) (accounted : dispatcher.Accounted)
    (housed : dispatcher.Housed) : next.Housed := by
  -- Whoever is first in the queue of a host is for this host.
  have first : ∀ {host : String} {pool : Pool} {exchange : Exchange} {waiting : List Exchange},
      dispatcher.pools.get? host = some pool → pool.queue = exchange :: waiting →
      exchange.authority = host := fun found queued =>
    housed.waits found (queued ▸ List.mem_cons_self)
  cases move with
  | discovered absent address =>
    -- Nobody waits yet for a host that was just found.
    refine ⟨fun {host pool exchange} found member => ?_, housed.travels⟩
    rw [Pools.get?_insert absent] at found
    split at found
    · cases found
      cases member
    · exact housed.waits found member
  | unreachable found queued error =>
    exact ⟨housed.waits_unqueue found queued id fun _ => rfl, housed.travels⟩
  | misdirected found queued rested gone error =>
    rename_i host pool exchange waiting key idle
    exact ⟨housed.waits_unqueue found queued (·.withIdle idle) fun _ => rfl, housed.travels⟩
  | reused found queued rested present =>
    rename_i host pool exchange waiting key idle connection
    refine ⟨housed.waits_unqueue found queued (·.withIdle idle) fun _ => rfl,
      housed.travels_set present (fun other carried => ?_)⟩
    -- The idle connection is one to the host of the pool.
    cases carried
    have same := ((idleAt_iff present).1 (accounted.idle found rested)).1
    exact (first found queued).trans same.symm
  | opened found queued rested room =>
    rename_i host pool exchange waiting
    refine ⟨housed.waits_unqueue found queued Pool.addConnection fun _ => rfl,
      -- The new connection is one to the host of the pool.
      fun {key connection other} there carried => ?_⟩
    rw [setConnection, record, openConnection, unqueue, record] at there
    dsimp only at there
    rw [Roster.set_insert] at there
    rcases Roster.get?_insert_cases there with ⟨_, rfl⟩ | old
    · cases carried
      exact first found queued
    · exact housed.travels old carried
  | tended present connected still writeBuffer =>
    rename_i key connection
    exact ⟨housed.waits,
      -- The connection carries what it carried.
      housed.travels_still present { connection with connected, writeBuffer } rfl rfl⟩
  | filled present arrival harmless =>
    rename_i key connection
    exact ⟨housed.waits, housed.travels_still present (connection.fill arrival) rfl rfl⟩
  | answered present carried connected decoded reusable =>
    rename_i key connection polled exchange response consumed
    exact ⟨housed.waits_modify connection.authority (·.putIdle key) fun _ _ _ => .inl,
      -- A connection that rests carries nothing.
      housed.travels_set present fun _ nothing => by cases nothing⟩
  | answeredLast present carried decoded => exact housed.drop _ _ _
  | spoiled present free bytes => exact housed.drop _ _ _
  | closed present => exact housed.drop _ _ _
  | retried present carried stale found =>
    rename_i key connection exchange pool
    -- The exchange goes back to the host of its connection, which is its own.
    have ended := housed.drop key connection.authority []
    refine ⟨ended.waits_modify connection.authority (·.requeue exchange.again)
      fun pool other _ member => ?_, ended.travels⟩
    have home : exchange.authority = connection.authority := housed.travels present carried
    rcases List.mem_cons.1 member with rfl | member
    · exact .inr home
    · exact .inl member
  | settled held outcome => exact ⟨housed.waits, housed.travels⟩
  | overdue now =>
    -- Whoever still waits has waited before.
    refine ⟨fun {host pool exchange} found member => ?_, housed.travels⟩
    rw [Pools.get?_mapAll] at found
    obtain ⟨before, there, rfl⟩ := Option.map_eq_some_iff.1 found
    exact housed.waits there (List.mem_filter.1 member).1

end Moves

/-- A dispatcher of which all is true that is always true. -/
structure Regular (dispatcher : Dispatcher) : Prop where
  accounted : dispatcher.Accounted
  recorded : dispatcher.Recorded
  housed : dispatcher.Housed

section Regular

variable {dispatcher next : Dispatcher}

/-- A new dispatcher is regular. -/
theorem Regular.fresh (most : Nat) (keepAlive : Bool) : (fresh most keepAlive).Regular where
  accounted := .fresh most keepAlive
  recorded := .fresh most keepAlive
  housed := .fresh most keepAlive

/-- A dispatcher stays regular when an exchange comes in. -/
theorem Entry.regular {exchange : Exchange} (entry : dispatcher.Entry exchange next)
    (regular : dispatcher.Regular) : next.Regular where
  accounted := entry.accounted regular.accounted
  recorded := entry.recorded regular.recorded
  housed := entry.housed regular.housed

/-- A dispatcher stays regular with every move. -/
theorem Move.regular {hand rest : List Exchange} (move : dispatcher.Move hand next rest)
    (regular : dispatcher.Regular) : next.Regular where
  accounted := move.accounted regular.accounted
  recorded := move.recorded regular.accounted regular.recorded
  housed := move.housed regular.accounted regular.housed

/-- A dispatcher stays regular all the way. -/
theorem Leads.regular (leads : dispatcher.Leads next) (regular : dispatcher.Regular) :
    next.Regular :=
  leads.keeps Regular (fun _ _ _ _ move regular => move.regular regular) regular

/-- What every stride of a regular dispatcher keeps, and every entry, errands keep. -/
theorem regular_attendAll (property : Dispatcher → Prop) (net : Nat → HandoverIo)
    (strides : ∀ dispatcher next : Dispatcher, dispatcher.Regular → dispatcher.Stride net next →
      property dispatcher → property next)
    (enters : ∀ (dispatcher next : Dispatcher) (exchange : Exchange),
      dispatcher.Entry exchange next → property dispatcher → property next)
    (errands : List Errand) (regular : dispatcher.Regular) (holds : property dispatcher) :
    (dispatcher.attendAll net errands).Regular ∧ property (dispatcher.attendAll net errands) :=
  attendAll_keeps_strides (fun _ dispatcher => dispatcher.Regular ∧ property dispatcher) net
    (fun _ _ _ stride kept => ⟨stride.leads.regular kept.1, strides _ _ kept.1 stride kept.2⟩)
    (fun _ _ _ _ entry kept => ⟨entry.regular kept.1, enters _ _ _ entry kept.2⟩)
    errands [] ⟨regular, holds⟩

end Regular

end Dispatcher

end HttpEngine
