import HttpEngine.Outbound.Pool

/-! Pools as collections: which hosts have one, and how many waiting exchanges have a property. -/

namespace HttpEngine

namespace Pools

/-- The entries are the pools of the hosts. -/
theorem mem_entries {pools : Pools} {host : String} {pool : Pool} :
    (host, pool) ∈ pools.entries ↔ pools.get? host = some pool := by
  -- The first entry of a host is its only one.
  obtain ⟨entries, nodup⟩ := pools
  unfold get?
  dsimp only
  induction entries with
  | nil => simp
  | cons entry rest ih =>
    obtain ⟨name, first⟩ := entry
    rw [List.map_cons, List.nodup_cons] at nodup
    rw [List.lookup_cons, List.mem_cons, ih nodup.2]
    by_cases here : host = name
    · -- The host is found in front, and so it cannot be found again behind.
      subst here
      have elsewhere : rest.lookup host ≠ some pool := by
        intro found
        have member : (host, pool) ∈ rest := (ih nodup.2).2 found
        exact nodup.1 (List.mem_map.2 ⟨(host, pool), member, rfl⟩)
      simp [elsewhere, eq_comm]
    · simp [here, beq_false_of_ne here]

/-- An exchange waits in the queue of some host. -/
theorem mem_queued {pools : Pools} {exchange : Exchange} :
    exchange ∈ pools.queued ↔
      ∃ host pool, pools.get? host = some pool ∧ exchange ∈ pool.queue := by
  rw [queued, List.mem_flatMap]
  constructor
  · rintro ⟨⟨host, pool⟩, member, waits⟩
    exact ⟨host, pool, mem_entries.1 member, waits⟩
  · rintro ⟨host, pool, found, waits⟩
    exact ⟨(host, pool), mem_entries.2 found, waits⟩

/-- A change of a pool changes one entry. -/
theorem entries_modify {pools : Pools} {host : String} {pool : Pool}
    (found : pools.get? host = some pool) (change : Pool → Pool) :
    ∃ before after, pools.entries = before ++ (host, pool) :: after ∧
      (pools.modify host change).entries = before ++ (host, change pool) :: after := by
  obtain ⟨before, after, split⟩ := List.append_of_mem (mem_entries.2 found)
  refine ⟨before, after, split, ?_⟩
  -- No other entry is for the same host.
  have nodup := pools.hosts_nodup
  rw [split, List.map_append, List.map_cons, List.nodup_append, List.nodup_cons] at nodup
  -- The entries on both sides keep what they are.
  obtain ⟨_, ⟨notAfter, _⟩, notBefore⟩ := nodup
  have same : ∀ (alter : String × Pool → String × Pool) (entries : List (String × Pool)),
      (∀ entry, entry.1 ≠ host → alter entry = entry) → host ∉ entries.map Prod.fst →
      entries.map alter = entries := by
    intro alter entries keeps absent
    refine (List.map_congr_left fun entry member => keeps entry ?_).trans entries.map_id
    rintro rfl
    exact absent (List.mem_map_of_mem member)
  have notThere : host ∉ before.map Prod.fst := fun member =>
    notBefore host member host List.mem_cons_self rfl
  rw [modify, mapAll]
  dsimp only
  rw [split, List.map_append, List.map_cons, same _ before (fun entry differs => ?_) notThere,
    same _ after (fun entry differs => ?_) notAfter, if_pos rfl]
  all_goals rw [if_neg differs]

/-- What waits after a change of one pool: its old queue goes, and its new queue comes. -/
theorem countP_queued_modify {pools : Pools} {host : String} {pool : Pool}
    (found : pools.get? host = some pool) (change : Pool → Pool) (property : Exchange → Bool) :
    (pools.modify host change).queued.countP property + pool.queue.countP property =
      pools.queued.countP property + (change pool).queue.countP property := by
  -- The queues in front of the one that changes and behind it are on both sides.
  obtain ⟨before, after, old, new⟩ := entries_modify found change
  simp only [queued, old, new, List.flatMap_append, List.flatMap_cons, List.countP_append]
  omega

/-- What waits after a change of one pool waits in it, or waited before. -/
theorem mem_queued_modify {pools : Pools} {host : String} {pool : Pool}
    (found : pools.get? host = some pool) {change : Pool → Pool} {exchange : Exchange}
    (member : exchange ∈ (pools.modify host change).queued) :
    exchange ∈ (change pool).queue ∨ exchange ∈ pools.queued := by
  obtain ⟨other, changed, there, waits⟩ := mem_queued.1 member
  rw [get?_modify] at there
  split at there
  · -- This is the pool that was changed.
    rename_i here
    subst here
    rw [found] at there
    cases there
    exact .inl waits
  · exact .inr (mem_queued.2 ⟨other, changed, there, waits⟩)

/-- What waits after a change that keeps the queue of one pool. -/
theorem mem_queued_of_kept {pools : Pools} {host : String} {change : Pool → Pool}
    (keeps : ∀ pool, (change pool).queue = pool.queue) {exchange : Exchange}
    (member : exchange ∈ (pools.modify host change).queued) : exchange ∈ pools.queued := by
  obtain ⟨other, changed, there, waits⟩ := mem_queued.1 member
  rw [get?_modify] at there
  split at there
  · obtain ⟨pool, found, rfl⟩ := Option.map_eq_some_iff.1 there
    exact mem_queued.2 ⟨other, pool, found, keeps pool ▸ waits⟩
  · exact mem_queued.2 ⟨other, changed, there, waits⟩

/-- A new pool in which nothing waits. -/
theorem queued_insert {pools : Pools} {host : String} (absent : pools.get? host = none)
    {pool : Pool} (nobody : pool.queue = []) : (pools.insert host pool).queued = pools.queued := by
  rw [insert, dif_neg (not_mem_of_get?_eq_none absent), queued, queued]
  simp [nobody]

/-- The waiting exchanges whose deadline has come, host by host. -/
def overdue (pools : Pools) (now : Instant) : List Exchange :=
  pools.entries.flatMap fun (_, pool) => pool.expired now

/-- An exchange waits on, or has run out of time. -/
theorem countP_queued_expire (pools : Pools) (now : Instant) (property : Exchange → Bool) :
    (pools.mapAll fun _ pool => pool.expire now).queued.countP property +
        (pools.overdue now).countP property =
      pools.queued.countP property := by
  -- Every queue is parted into what waits on and what does not.
  have parted : ∀ pool : Pool, (pool.expire now).queue.countP property +
      (pool.expired now).countP property = pool.queue.countP property := by
    intro pool
    rw [Pool.expire, Pool.expired]
    dsimp only
    induction pool.queue with
    | nil => rfl
    | cons exchange rest ih =>
      rw [List.filter_cons, List.filter_cons, List.countP_cons, ← ih]
      cases exchange.isExpired now <;> simp [List.countP_cons] <;> omega
  unfold queued overdue mapAll
  dsimp only
  -- The queues are parted one by one, and the parts are counted together.
  induction pools.entries with
  | nil => rfl
  | cons entry rest ih =>
    have here := parted entry.2
    simp only [List.map_cons, List.flatMap_cons, List.countP_append] at ih ⊢
    omega

/-- What is overdue waits, and its deadline has come. -/
theorem mem_overdue {pools : Pools} {now : Instant} {exchange : Exchange} :
    exchange ∈ pools.overdue now ↔ exchange ∈ pools.queued ∧ exchange.isExpired now = true := by
  simp only [overdue, queued, List.mem_flatMap, Pool.expired, List.mem_filter]
  constructor
  · rintro ⟨entry, member, waits, expired⟩
    exact ⟨⟨entry, member, waits⟩, expired⟩
  · rintro ⟨⟨entry, member, waits⟩, expired⟩
    exact ⟨entry, member, waits, expired⟩

/-- What waits on waited before. -/
theorem mem_queued_of_expire {pools : Pools} {now : Instant} {exchange : Exchange}
    (member : exchange ∈ (pools.mapAll fun _ pool => pool.expire now).queued) :
    exchange ∈ pools.queued := by
  -- The queue that is left is a part of the old one of the same host.
  obtain ⟨host, pool, there, waits⟩ := mem_queued.1 member
  rw [get?_mapAll] at there
  obtain ⟨before, found, rfl⟩ := Option.map_eq_some_iff.1 there
  exact mem_queued.2 ⟨host, before, found, (List.mem_filter.1 waits).1⟩

end Pools

end HttpEngine
