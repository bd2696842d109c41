import HttpEngine.Net.Address
import HttpEngine.Outbound.Exchange

/-! The connections to one host, and the exchanges that wait for one of them. -/

namespace HttpEngine

/-- The connections to one host by their keys, and the exchanges that wait. -/
structure Pool where
  address : SocketAddr
  /-- How many connections there are, whatever they do. -/
  connections : Nat := 0
  /-- The connections that carry nothing, the one that was used last in front. -/
  idle : List Nat := []
  queue : List Exchange := []
  deriving DecidableEq, Repr

namespace Pool

/-- How often the waiting exchanges can still be handed out. -/
def chances (pool : Pool) : Nat := Exchange.totalChances pool.queue

/-- One more exchange at the end of the queue. -/
def enqueue (pool : Pool) (exchange : Exchange) : Pool :=
  { pool with queue := pool.queue ++ [exchange] }

/-- One more exchange in front of the queue. -/
def requeue (pool : Pool) (exchange : Exchange) : Pool :=
  { pool with queue := exchange :: pool.queue }

/-- The pool with other exchanges in its queue. -/
def withQueue (pool : Pool) (queue : List Exchange) : Pool := { pool with queue }

/-- The pool with other connections that carry nothing. -/
def withIdle (pool : Pool) (idle : List Nat) : Pool := { pool with idle }

/-- One more connection, which carries something. -/
def addConnection (pool : Pool) : Pool := { pool with connections := pool.connections + 1 }

/-- One connection fewer, whichever it is. -/
def removeConnection (pool : Pool) : Pool := { pool with connections := pool.connections - 1 }

/-- One more connection that carries nothing. -/
def putIdle (pool : Pool) (key : Nat) : Pool :=
  { pool with idle := key :: pool.idle }

/-- One connection fewer. -/
def forget (pool : Pool) (key : Nat) : Pool :=
  { pool with
    connections := pool.connections - 1, idle := pool.idle.filter (fun other => other != key) }

/-- The pool without the exchanges whose deadline has come. -/
def expire (pool : Pool) (now : Instant) : Pool :=
  { pool with queue := pool.queue.filter fun exchange => !exchange.isExpired now }

/-- The exchanges whose deadline has come. -/
def expired (pool : Pool) (now : Instant) : List Exchange :=
  pool.queue.filter fun exchange => exchange.isExpired now

/-- The chances are those of the queue. -/
@[simp] theorem chances_withQueue (pool : Pool) (queue : List Exchange) :
    (pool.withQueue queue).chances = Exchange.totalChances queue := rfl

/-- Idle connections have no part in the chances. -/
@[simp] theorem chances_withIdle (pool : Pool) (idle : List Nat) :
    (pool.withIdle idle).chances = pool.chances := rfl

/-- The number of connections has no part in the chances. -/
@[simp] theorem chances_addConnection (pool : Pool) :
    pool.addConnection.chances = pool.chances := rfl

/-- The number of connections has no part in the chances. -/
@[simp] theorem chances_removeConnection (pool : Pool) :
    pool.removeConnection.chances = pool.chances := rfl

/-- Forgetting a connection leaves the queue alone. -/
@[simp] theorem chances_forget (pool : Pool) (key : Nat) :
    (pool.forget key).chances = pool.chances := rfl

/-- An exchange in front of the queue brings its own chances. -/
@[simp] theorem chances_requeue (pool : Pool) (exchange : Exchange) :
    (pool.requeue exchange).chances = exchange.chances + pool.chances := by
  simp [requeue, chances, Exchange.totalChances]

end Pool

/-- The pools of a client by their hosts, in the order of their first use. -/
structure Pools where
  entries : List (String × Pool) := []
  /-- No host has two pools. -/
  hosts_nodup : (entries.map Prod.fst).Nodup := by exact List.nodup_nil
  deriving DecidableEq, Repr

namespace Pools

/-- The pool of a host. -/
def get? (pools : Pools) (authority : String) : Option Pool :=
  pools.entries.lookup authority

/-- A change of every pool, which may depend on its host. -/
def mapAll (pools : Pools) (change : String → Pool → Pool) : Pools where
  entries := pools.entries.map fun (name, pool) => (name, change name pool)
  hosts_nodup := by
    -- The hosts are the same as before.
    rw [List.map_map]
    exact pools.hosts_nodup

/-- A change of the pool of a host, if there is one. -/
def modify (pools : Pools) (authority : String) (change : Pool → Pool) : Pools :=
  pools.mapAll fun name pool => if name = authority then change pool else pool

/-- The pool of a host, whether or not it had one. -/
def insert (pools : Pools) (authority : String) (pool : Pool) : Pools :=
  if known : authority ∈ pools.entries.map Prod.fst then pools.modify authority fun _ => pool
  else
    { entries := pools.entries ++ [(authority, pool)]
      hosts_nodup := by
        -- The host is a new one, and all the others are different already.
        rw [List.map_append, List.map_cons, List.map_nil, List.nodup_append]
        refine ⟨pools.hosts_nodup, by simp, ?_⟩
        intro host member other here
        rw [List.mem_singleton.1 here]
        rintro rfl
        exact known member }

/-- The exchanges that wait, host by host. -/
def queued (pools : Pools) : List Exchange :=
  pools.entries.flatMap fun (_, pool) => pool.queue

/-- A change of every pool is seen at every host. -/
theorem get?_mapAll (pools : Pools) (change : String → Pool → Pool) (authority : String) :
    (pools.mapAll change).get? authority = (pools.get? authority).map (change authority) := by
  -- Both sides walk the same entries, and a change keeps the hosts.
  unfold mapAll get?
  dsimp only
  induction pools.entries with
  | nil => rfl
  | cons entry rest ih =>
    obtain ⟨name, pool⟩ := entry
    rw [List.map_cons, List.lookup_cons, List.lookup_cons]
    by_cases here : authority = name
    · -- The first entry is the one that is looked for, on both sides.
      subst here
      simp
    · simpa [beq_false_of_ne here] using ih

/-- A change of a pool is seen at its host, and at no other. -/
theorem get?_modify (pools : Pools) (authority other : String) (change : Pool → Pool) :
    (pools.modify authority change).get? other =
      if other = authority then (pools.get? other).map change else pools.get? other := by
  -- At the other hosts, nothing is changed by the change.
  rw [modify, get?_mapAll]
  split
  · rfl
  · cases pools.get? other <;> rfl

/-- A host without a pool is in no entry. -/
theorem not_mem_of_get?_eq_none {pools : Pools} {authority : String}
    (absent : pools.get? authority = none) : authority ∉ pools.entries.map Prod.fst := by
  -- An entry for the host would be found.
  intro member
  obtain ⟨entry, inside, rfl⟩ := List.mem_map.1 member
  rw [get?, List.lookup_eq_none_iff] at absent
  simpa using absent entry inside

/-- A new pool is seen at its host, and at no other. -/
theorem get?_insert {pools : Pools} {authority : String} (absent : pools.get? authority = none)
    (pool : Pool) (other : String) :
    (pools.insert authority pool).get? other =
      if other = authority then some pool else pools.get? other := by
  -- The new entry stands behind all the others, none of which is for its host.
  rw [insert, dif_neg (not_mem_of_get?_eq_none absent)]
  unfold get? at absent ⊢
  dsimp only
  rw [List.lookup_append]
  by_cases here : other = authority
  · -- Nothing is found in front of the new entry.
    subst here
    rw [absent, if_pos rfl]
    simp
  · rw [if_neg here]
    simp [List.lookup_cons, beq_false_of_ne here]

end Pools

end HttpEngine
