import HttpEngine.Proofs.Outbound.Restart

/-!
Where the exchanges of a dispatcher stem from. What is held or in hand after any number of moves was
held or in hand before them, perhaps not yet on its second way.
-/

namespace HttpEngine

/-- An exchange that is one of others, or one of them on its second way. -/
def Exchange.StemsFrom (exchange : Exchange) (others : List Exchange) : Prop :=
  ∃ origin ∈ others, exchange = origin ∨ exchange = origin.again

namespace Exchange.StemsFrom

variable {exchange : Exchange} {others origins : List Exchange}

/-- An exchange stems from itself. -/
theorem of_mem (member : exchange ∈ others) : exchange.StemsFrom others :=
  ⟨exchange, member, .inl rfl⟩

/-- What stems from exchanges stems from those from which they stem. -/
theorem trans (stems : exchange.StemsFrom others)
    (further : ∀ other ∈ others, other.StemsFrom origins) : exchange.StemsFrom origins := by
  -- There is no third way.
  obtain ⟨other, member, same⟩ := stems
  obtain ⟨origin, first, alike⟩ := further other member
  refine ⟨origin, first, ?_⟩
  rcases same with rfl | rfl <;> rcases alike with rfl | rfl
  · exact .inl rfl
  · exact .inr rfl
  · exact .inr rfl
  · exact .inr rfl

end Exchange.StemsFrom

namespace Dispatcher

variable {dispatcher next : Dispatcher} {hand rest : List Exchange} {exchange : Exchange}
  {key : Nat} {connection : Connection}

/-- What is held is on a connection or in a queue. -/
theorem mem_held : exchange ∈ dispatcher.held ↔
    (∃ key connection, dispatcher.connections.get? key = some connection ∧
      connection.exchange = some exchange) ∨ exchange ∈ dispatcher.pools.queued := by
  rw [held, List.mem_append, List.mem_filterMap]
  refine or_congr_left ⟨?_, ?_⟩
  · rintro ⟨⟨key, connection⟩, member, carried⟩
    exact ⟨key, connection, Roster.mem_entries.1 member, carried⟩
  · rintro ⟨key, connection, present, carried⟩
    exact ⟨(key, connection), Roster.mem_entries.2 present, carried⟩

/-- What a connection carries is held. -/
theorem carried_held (present : dispatcher.connections.get? key = some connection)
    (carried : connection.exchange = some exchange) : exchange ∈ dispatcher.held :=
  mem_held.2 (.inl ⟨key, connection, present, carried⟩)

/-- What waits in a queue is held. -/
theorem queued_held (waits : exchange ∈ dispatcher.pools.queued) : exchange ∈ dispatcher.held :=
  mem_held.2 (.inr waits)

/-- What is held after a change of connections and queues is looked for in both. -/
theorem stems_of_held {whole : List Exchange}
    (connections : ∀ key connection exchange,
      next.connections.get? key = some connection → connection.exchange = some exchange →
        exchange.StemsFrom whole)
    (queues : ∀ exchange ∈ next.pools.queued, exchange.StemsFrom whole)
    (left : ∀ exchange ∈ rest, exchange.StemsFrom whole) :
    ∀ exchange ∈ next.held ++ rest, exchange.StemsFrom whole := by
  intro exchange member
  -- What is held is carried or waits, and what is in the hand is neither.
  rcases List.mem_append.1 member with inside | outside
  · rcases mem_held.1 inside with ⟨key, connection, present, carried⟩ | waits
    · exact connections key connection exchange present carried
    · exact queues exchange waits
  · exact left exchange outside

/-- No move brings forth an exchange that was not there. -/
theorem Move.stems (move : dispatcher.Move hand next rest) :
    ∀ exchange ∈ next.held ++ rest, exchange.StemsFrom (dispatcher.held ++ hand) := by
  have ofCarried : ∀ key connection exchange, dispatcher.connections.get? key = some connection →
      connection.exchange = some exchange → exchange.StemsFrom (dispatcher.held ++ hand) :=
    fun _ _ _ present carried => .of_mem (List.mem_append_left _ (carried_held present carried))
  have ofQueued : ∀ exchange ∈ dispatcher.pools.queued,
      exchange.StemsFrom (dispatcher.held ++ hand) :=
    fun _ waits => .of_mem (List.mem_append_left _ (queued_held waits))
  have ofHand : ∀ exchange ∈ hand, exchange.StemsFrom (dispatcher.held ++ hand) :=
    fun _ member => .of_mem (List.mem_append_right _ member)
  -- What is left in the table after a removal was in it before.
  have ofErased : ∀ key other connection exchange,
      (dispatcher.connections.erase key).get? other = some connection →
        connection.exchange = some exchange → exchange.StemsFrom (dispatcher.held ++ hand) :=
    fun _ other connection exchange present =>
      ofCarried other connection exchange (Roster.get?_erase_cases present).2
  -- Behind the first one of a queue there are only exchanges of that queue.
  have ofUnqueued : ∀ {host : String} {pool : Pool} {first : Exchange} {waiting : List Exchange},
      dispatcher.pools.get? host = some pool → pool.queue = first :: waiting →
      ∀ change : Pool → Pool, (∀ pool, (change pool).queue = pool.queue) →
      ∀ exchange ∈ (dispatcher.unqueue host waiting change).pools.queued,
        exchange.StemsFrom (dispatcher.held ++ hand) :=
    fun found queued change keeps exchange member =>
      ofQueued exchange (mem_queued_of_unqueue found queued keeps member)
  have first : ∀ {host : String} {pool : Pool} {first : Exchange} {waiting : List Exchange},
      dispatcher.pools.get? host = some pool → pool.queue = first :: waiting →
      first.StemsFrom (dispatcher.held ++ hand) := fun found queued =>
    ofQueued _ (Pools.mem_queued.2 ⟨_, _, found, queued ▸ List.mem_cons_self⟩)
  -- Whatever else changes in a pool, its queue does not.
  have ofKept : ∀ (host : String) (change : Pool → Pool),
      (∀ pool, (change pool).queue = pool.queue) →
      ∀ exchange ∈ (dispatcher.pools.modify host change).queued,
        exchange.StemsFrom (dispatcher.held ++ hand) :=
    fun host change keeps exchange member =>
      ofQueued exchange (Pools.mem_queued_of_kept keeps member)
  -- What a connection carries may come into the hand.
  have given : ∀ (taken : List Exchange), (∀ exchange ∈ taken, exchange ∈ dispatcher.held) →
      ∀ exchange ∈ taken ++ hand, exchange.StemsFrom (dispatcher.held ++ hand) :=
    fun taken held exchange member => (List.mem_append.1 member).elim
      (fun inside => .of_mem (List.mem_append_left _ (held exchange inside))) (ofHand exchange)
  cases move with
  | discovered absent address =>
    refine stems_of_held ofCarried (fun exchange waits => ofQueued exchange ?_) ofHand
    rwa [Pools.queued_insert absent rfl] at waits
  | unreachable found queued error =>
    exact stems_of_held ofCarried (ofUnqueued found queued id fun _ => rfl) ofHand
  | misdirected found queued rested gone error =>
    exact stems_of_held ofCarried (ofUnqueued found queued (·.withIdle _) fun _ => rfl) ofHand
  | reused found queued rested present =>
    -- The connection that is taken carries the first one of the queue, and the others what they
    -- did.
    refine stems_of_held (fun other carrier exchange there carried => ?_)
      (ofUnqueued found queued (·.withIdle _) fun _ => rfl) ofHand
    rcases Roster.get?_set_cases present there with ⟨_, rfl⟩ | ⟨_, old⟩
    · cases carried
      exact first found queued
    · exact ofCarried other carrier exchange old carried
  | opened found queued rested room =>
    -- The new connection does too, and its key belongs to no other one.
    refine stems_of_held (fun other carrier exchange there carried => ?_)
      (ofUnqueued found queued Pool.addConnection fun _ => rfl) ofHand
    rw [setConnection, record, openConnection, record, unqueue] at there
    dsimp only at there
    rw [Roster.set_insert] at there
    rcases Roster.get?_insert_cases there with ⟨_, rfl⟩ | old
    · cases carried
      exact first found queued
    · exact ofCarried other carrier exchange old carried
  | tended present connected still writeBuffer =>
    -- Giving bytes out, or taking them in, leaves the exchange where it is.
    refine stems_of_held (fun other carrier exchange there carried => ?_) ofQueued ofHand
    rcases Roster.get?_set_cases present there with ⟨_, rfl⟩ | ⟨_, old⟩
    · exact ofCarried _ _ exchange present carried
    · exact ofCarried other carrier exchange old carried
  | filled present arrival harmless =>
    refine stems_of_held (fun other carrier exchange there carried => ?_) ofQueued ofHand
    rcases Roster.get?_set_cases present there with ⟨_, rfl⟩ | ⟨_, old⟩
    · exact ofCarried _ _ exchange present carried
    · exact ofCarried other carrier exchange old carried
  | answered present carried connected decoded reusable =>
    -- Its exchange comes into the hand, and the connection rests without it.
    rename_i key connection polled exchange response consumed
    refine stems_of_held (fun other carrier found there carries => ?_)
      (ofKept connection.authority (·.putIdle key) fun _ => rfl)
      (given [exchange] fun _ member =>
        List.mem_singleton.1 member ▸ carried_held present carried)
    rcases Roster.get?_set_cases present there with ⟨_, rfl⟩ | ⟨_, old⟩
    · cases carries
    · exact ofCarried other carrier found old carries
  | answeredLast present carried decoded =>
    rename_i key connection polled exchange response consumed
    exact stems_of_held (ofErased key) (ofKept connection.authority (·.forget key) fun _ => rfl)
      (given [exchange] fun _ member =>
        List.mem_singleton.1 member ▸ carried_held present carried)
  | spoiled present free bytes =>
    rename_i key connection
    exact stems_of_held (ofErased key) (ofKept connection.authority (·.forget key) fun _ => rfl)
      ofHand
  | closed present =>
    rename_i key connection
    -- A connection that ends may have carried an exchange, which comes into the hand as well.
    refine stems_of_held (ofErased key) (ofKept connection.authority (·.forget key) fun _ => rfl)
      (given connection.exchange.toList fun exchange member => ?_)
    exact carried_held present (Option.mem_toList.1 member)
  | retried present carried stale found =>
    rename_i key connection exchange pool
    refine stems_of_held (ofErased key) (fun other member => ?_) ofHand
    have forgotten : (dispatcher.pools.modify connection.authority (·.forget key)).get?
        connection.authority = some (pool.forget key) := by
      rw [Pools.get?_modify, if_pos rfl, found]
      rfl
    rcases Pools.mem_queued_modify forgotten member with here | waits
    · rcases List.mem_cons.1 here with rfl | behind
      · -- This is the exchange on its second way.
        exact ⟨exchange, List.mem_append_left _ (carried_held present carried), .inr rfl⟩
      · exact ofQueued other (Pools.mem_queued.2 ⟨_, pool, found, behind⟩)
    · exact ofKept connection.authority (·.forget key) (fun _ => rfl) other waits
  | settled held outcome =>
    refine stems_of_held ofCarried ofQueued fun exchange member => ofHand exchange ?_
    rw [held]
    exact List.mem_cons_of_mem _ member
  | overdue now =>
    -- The expiry takes exchanges out of the queues, and puts these into the hand.
    refine stems_of_held ofCarried
      (fun exchange member => ofQueued exchange (Pools.mem_queued_of_expire member)) ?_
    intro exchange member
    rcases List.mem_append.1 member with expired | inHand
    · exact ofQueued exchange (Pools.mem_overdue.1 expired).1
    · exact ofHand exchange inHand

/-- Whatever a dispatcher does, it brings forth no exchange that it did not hold. -/
theorem Leads.stems (leads : dispatcher.Leads next) :
    ∀ exchange ∈ next.held, exchange.StemsFrom dispatcher.held := by
  have kept := (leads []).keeps
    (fun desk => ∀ exchange ∈ desk.dispatcher.held ++ desk.inHand,
      exchange.StemsFrom dispatcher.held)
    (fun desk after move stems exchange member => (Move.stems move exchange member).trans stems)
    fun exchange member => .of_mem (by simpa using member)
  exact fun exchange member => kept exchange (List.mem_append_left _ member)

end Dispatcher

end HttpEngine
