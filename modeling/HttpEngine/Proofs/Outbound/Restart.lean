import HttpEngine.Proofs.Outbound.Conservation

/-!
Why exchanges are started again: a connection that was used before was lost before one byte of an
answer had come over it. No exchange is started more than twice.
-/

namespace HttpEngine

namespace Dispatcher

variable {dispatcher next : Dispatcher} {hand rest : List Exchange} {promise : Nat}

/-- A dispatcher whose connections know how many responses came over them. -/
def Tallied (dispatcher : Dispatcher) : Prop :=
  ∀ key connection, dispatcher.connections.get? key = some connection →
    connection.served = Journal.answersOver dispatcher.journal key

/-- The tallies are right if every connection has counted on. -/
theorem tallied_of_notes (dispatcher : Dispatcher) (notes : List Transit)
    (journal : next.journal = dispatcher.journal ++ notes)
    (counts : ∀ key connection, next.connections.get? key = some connection →
      connection.served =
        notes.foldl (Transit.countAnswer key) (Journal.answersOver dispatcher.journal key)) :
    next.Tallied := by
  -- The count goes on over the notes.
  intro key connection present
  rw [journal, Journal.answersOver_append]
  exact counts key connection present

/-- An exchange that comes in changes no tally. -/
theorem Entry.tallied {exchange : Exchange} (entry : dispatcher.Entry exchange next)
    (tallied : dispatcher.Tallied) : next.Tallied := by
  -- No response is noted, and the connections stay as they are.
  cases entry with
  | refused error =>
    exact tallied_of_notes dispatcher
      [.received exchange, .settled exchange.promise (.error error)] (List.append_assoc ..) tallied
  | admitted found => exact tallied_of_notes dispatcher [.received exchange] rfl tallied

/-- The end of a connection takes its tally away, and leaves the others alone. -/
theorem Tallied.drop (tallied : dispatcher.Tallied) (accounted : dispatcher.Accounted) {key : Nat}
    {connection : Connection} (present : dispatcher.connections.get? key = some connection)
    (notes : List Transit)
    (alone : ∀ other count, key ≠ other →
      notes.foldl (Transit.countAnswer other) count = count) :
    (dispatcher.drop key connection.authority notes).Tallied := by
  refine tallied_of_notes dispatcher _ (accounted.journal_drop present notes) ?_
  intro other found there
  obtain ⟨differs, old⟩ := Roster.get?_erase_cases there
  rw [List.foldl_append, alone _ _ differs]
  exact tallied other found old

/-- Every move keeps the tallies right. -/
theorem Move.tallied (move : dispatcher.Move hand next rest) (accounted : dispatcher.Accounted)
    (tallied : dispatcher.Tallied) : next.Tallied := by
  cases move with
  | discovered absent address => exact tallied
  | unreachable found queued error =>
    rename_i host pool exchange waiting
    exact tallied_of_notes dispatcher [.settled exchange.promise (.error error)] rfl tallied
  | misdirected found queued rested gone error =>
    exact absurd (accounted.idle found rested) (not_idleAt gone)
  | reused found queued rested present =>
    rename_i host pool exchange waiting key idle connection
    -- To start an exchange leaves the tally of the connection as it is.
    refine tallied_of_notes dispatcher [.started key exchange] rfl fun other found there => ?_
    rcases Roster.get?_set_cases present there with ⟨rfl, rfl⟩ | ⟨_, old⟩
    · exact tallied key connection present
    · exact tallied other found old
  | opened found queued rested room =>
    rename_i host pool exchange waiting
    refine tallied_of_notes dispatcher [.opened dispatcher.connections.nextKey host,
      .started dispatcher.connections.nextKey exchange]
      (by simp [setConnection, record, openConnection, unqueue]) fun other found there => ?_
    have inserted : (dispatcher.connections.insert
        (({ authority := host } : Connection).start exchange dispatcher.keepAlive)).get? other =
          some found := by
      rw [← Roster.set_insert dispatcher.connections { authority := host }]
      exact there
    rcases Roster.get?_insert_cases inserted with ⟨rfl, rfl⟩ | old
    · -- Under the new key the count begins at zero.
      simp [Transit.countAnswer, Connection.start]
    · -- The new connection is under a key of its own.
      have differs : dispatcher.connections.nextKey ≠ other := by
        rintro rfl
        rw [Roster.get?_nextKey] at old
        cases old
      simpa [Transit.countAnswer, differs] using tallied other found old
  | tended present connected still writeBuffer =>
    rename_i key connection
    intro other found there
    rcases Roster.get?_set_cases present there with ⟨rfl, rfl⟩ | ⟨_, old⟩
    · exact tallied key connection present
    · exact tallied other found old
  | filled present arrival harmless =>
    rename_i key connection
    refine tallied_of_notes dispatcher [.arrived key arrival.bytes] rfl fun other found there => ?_
    rcases Roster.get?_set_cases present there with ⟨rfl, rfl⟩ | ⟨_, old⟩
    · exact tallied key connection present
    · exact tallied other found old
  | answered present carried connected decoded reusable =>
    rename_i key connection polled exchange response consumed
    refine tallied_of_notes dispatcher [.answered key response] rfl fun other found there => ?_
    rcases Roster.get?_set_cases present there with ⟨rfl, rfl⟩ | ⟨differs, old⟩
    · -- One response more is noted, and one more is counted.
      rw [Connection.polled_eq decoded]
      simpa [Transit.countAnswer, Connection.release] using tallied key connection present
    · simpa [Transit.countAnswer, differs] using tallied other found old
  | answeredLast present carried decoded =>
    refine tallied.drop accounted present _ fun other count differs => ?_
    simp [Transit.countAnswer, differs]
  | spoiled present free bytes => exact tallied.drop accounted present _ fun _ _ _ => rfl
  | closed present => exact tallied.drop accounted present _ fun _ _ _ => rfl
  | retried present carried stale found =>
    -- What happens to the queue does not matter.
    rename_i key connection exchange pool
    exact tallied_of_notes (dispatcher.drop key connection.authority [])
      [.requeued exchange.again] rfl (tallied.drop accounted present _ fun _ _ _ => rfl)
  | settled held outcome =>
    rename_i exchange
    exact tallied_of_notes dispatcher [.settled exchange.promise outcome] rfl tallied
  | overdue now => exact tallied

/--
A dispatcher that starts the exchange of a promise twice at most, and the second time only if there
is an excuse.
-/
structure Traced (dispatcher : Dispatcher) (promise : Nat) : Prop where
  unknown : Journal.receipts dispatcher.journal promise = 0 →
    Journal.starts dispatcher.journal promise = 0
  few : Journal.starts dispatcher.journal promise ≤ 2
  excused : Journal.Excused dispatcher.journal promise
  /-- What waits was not started, or it was once and has returned. -/
  waits : ∀ exchange ∈ dispatcher.pools.queued, exchange.promise = promise →
    Journal.starts dispatcher.journal promise = 0 ∨
      exchange.retried = true ∧ Journal.Returned dispatcher.journal promise
  /-- What is carried for the first time was started once, where it is. -/
  carried : ∀ key connection exchange, dispatcher.connections.get? key = some connection →
    connection.exchange = some exchange → exchange.promise = promise →
    exchange.retried = false →
    Journal.UnderWay dispatcher.journal promise key connection.served connection.readBuffer

namespace Traced

/-- A new dispatcher has started nothing. -/
theorem fresh (most : Nat) (keepAlive : Bool) (promise : Nat) :
    (fresh most keepAlive).Traced promise where
  unknown _ := rfl
  few := Nat.zero_le 2
  excused := Journal.excused_of_starts_le_one (Nat.zero_le 1)
  waits _ member := absurd member List.not_mem_nil
  carried key connection exchange present := by
    rw [Dispatcher.fresh, Roster.get?_empty] at present
    cases present

/-- Nothing changes for a promise while its exchange is not started. -/
theorem quiet (traced : dispatcher.Traced promise) (notes : List Transit)
    (journal : next.journal = dispatcher.journal ++ notes)
    (unstarted : Journal.starts notes promise = 0)
    (waits : ∀ exchange ∈ next.pools.queued, exchange.promise = promise →
      exchange ∈ dispatcher.pools.queued ∨ Journal.starts dispatcher.journal promise = 0 ∨
        exchange.retried = true ∧ Journal.Returned next.journal promise)
    (carried : ∀ key connection exchange, next.connections.get? key = some connection →
      connection.exchange = some exchange → exchange.promise = promise →
      exchange.retried = false →
      ∃ old, dispatcher.connections.get? key = some old ∧ old.exchange = some exchange ∧
        connection.served = old.served ∧ .closed key ∉ notes ∧
        connection.readBuffer = old.readBuffer ++ Journal.bytesOver notes key) :
    next.Traced promise where
  unknown unheard := by
    -- What is not heard of now was not heard of before.
    rw [journal, Journal.receipts_append] at unheard
    rw [journal, Journal.starts_append, unstarted]
    exact traced.unknown (by omega)
  few := by
    have few := traced.few
    rw [journal, Journal.starts_append, unstarted]
    omega
  excused := by
    rw [journal]
    exact traced.excused.append unstarted
  waits exchange member same := by
    -- An exchange that waited before does so for the same reason as before.
    have unchanged : Journal.starts next.journal promise =
        Journal.starts dispatcher.journal promise := by
      rw [journal, Journal.starts_append, unstarted, Nat.add_zero]
    rw [unchanged]
    rcases waits exchange member same with old | zero | returned
    · rcases traced.waits exchange old same with zero | ⟨retried, returned⟩
      · exact .inl zero
      · rw [journal]
        exact .inr ⟨retried, returned.append unstarted⟩
    · exact .inl zero
    · exact .inr returned
  carried key connection exchange present carries same first := by
    -- What the connection has read since is what the notes say that arrived.
    obtain ⟨old, there, carried, served, stillOpen, read⟩ :=
      carried key connection exchange present carries same first
    rw [journal, served, read]
    exact (traced.carried key old exchange there carried same first).append unstarted stillOpen

/-- Nothing changes for a promise while its exchange stays where it is, or goes away. -/
theorem still (traced : dispatcher.Traced promise) (notes : List Transit)
    (journal : next.journal = dispatcher.journal ++ notes)
    (unstarted : Journal.starts notes promise = 0)
    (waits : ∀ exchange ∈ next.pools.queued, exchange.promise = promise →
      exchange ∈ dispatcher.pools.queued ∨ Journal.starts dispatcher.journal promise = 0 ∨
        exchange.retried = true ∧ Journal.Returned next.journal promise)
    (carried : ∀ key connection exchange, next.connections.get? key = some connection →
      connection.exchange = some exchange → exchange.promise = promise →
      dispatcher.connections.get? key = some connection ∧ .closed key ∉ notes ∧
        Journal.bytesOver notes key = []) :
    next.Traced promise := by
  refine traced.quiet notes journal unstarted waits ?_
  intro key connection exchange present carries same first
  obtain ⟨old, stillOpen, silent⟩ := carried key connection exchange present carries same
  exact ⟨connection, old, carries, rfl, stillOpen, by rw [silent, List.append_nil]⟩

/-- The exchange of a promise is started. It is the only one, and it waited before. -/
theorem start (traced : dispatcher.Traced promise) (notes : List Transit) {key : Nat}
    {exchange : Exchange} (same : exchange.promise = promise)
    (waited : exchange ∈ dispatcher.pools.queued)
    (received : 0 < Journal.receipts dispatcher.journal promise)
    (journal : next.journal = dispatcher.journal ++ notes ++ [.started key exchange])
    (unstarted : Journal.starts notes promise = 0)
    (alone : ∀ other ∈ next.pools.queued, other.promise ≠ promise)
    (carried : ∀ found connection other, next.connections.get? found = some connection →
      connection.exchange = some other → other.promise = promise →
      found = key ∧ other = exchange ∧
        connection.served = Journal.answersOver (dispatcher.journal ++ notes) key ∧
        connection.readBuffer = []) :
    next.Traced promise := by
  have one : Journal.starts [.started key exchange] promise = 1 := by
    rw [Journal.starts_cons, if_pos (Journal.starts_of_promise key same)]
    rfl
  have counted : Journal.starts next.journal promise =
      Journal.starts dispatcher.journal promise + 1 := by
    rw [journal, Journal.starts_append, Journal.starts_append, unstarted, one]
  -- An exchange that waits has come in.
  have heard : Journal.receipts next.journal promise ≠ 0 := by
    rw [journal, Journal.receipts_append, Journal.receipts_append]
    omega
  rcases traced.waits exchange waited same with zero | ⟨retried, returned⟩
  · -- This is the first start.
    have before : Journal.starts (dispatcher.journal ++ notes) promise = 0 := by
      rw [Journal.starts_append, zero, unstarted]
    constructor
    · exact fun unheard => absurd unheard heard
    · omega
    · exact Journal.excused_of_starts_le_one (by omega)
    · exact fun other member alike => absurd alike (alone other member)
    · intro found connection other present carries alike first
      obtain ⟨rfl, rfl, served, empty⟩ := carried found connection other present carries alike
      rw [journal, served, empty]
      exact Journal.underWay_start before same found
  · -- This is the second start, and the last one.
    have once := returned.starts_eq
    constructor
    · exact fun unheard => absurd unheard heard
    · omega
    · rw [journal]
      exact (returned.append unstarted).excused key
    · exact fun other member alike => absurd alike (alone other member)
    · intro found connection other present carries alike first
      obtain ⟨_, rfl, _⟩ := carried found connection other present carries alike
      rw [retried] at first
      cases first

end Traced

/-- Nobody is held for a promise without holdings. -/
theorem not_held (unheld : dispatcher.holdings promise = 0) :
    (∀ exchange ∈ dispatcher.pools.queued, exchange.promise ≠ promise) ∧
      ∀ key connection exchange, dispatcher.connections.get? key = some connection →
        connection.exchange = some exchange → exchange.promise ≠ promise := by
  -- One that waits would be counted, and so would one that is carried.
  rw [holdings] at unheld
  constructor
  · rintro exchange member rfl
    have waits : 0 < dispatcher.pools.queued.countP (Exchange.isFor exchange.promise) :=
      List.countP_pos_iff.2 ⟨exchange, member, by simp [Exchange.isFor]⟩
    omega
  · rintro key connection exchange present carries rfl
    have holds : connection.carries exchange.promise = true := by
      rw [Connection.carries_of_some carries]
      simp [Exchange.isFor]
    have counted := Roster.count_pos present holds
    omega

/-- An exchange that leaves its queue was the only one for its promise. -/
theorem alone {host : String} {pool : Pool} {exchange : Exchange} {waiting : List Exchange}
    (found : dispatcher.pools.get? host = some pool) (queued : pool.queue = exchange :: waiting)
    (change : Pool → Pool) (keeps : ∀ pool, (change pool).queue = pool.queue)
    (conserved : dispatcher.Conserved hand) (same : exchange.promise = promise)
    (once : Journal.receipts dispatcher.journal promise ≤ 1) :
    0 < Journal.receipts dispatcher.journal promise ∧
      (dispatcher.unqueue host waiting change).holdings promise = 0 := by
  -- It was received once, so that nothing else is held for the promise.
  have left := holdings_unqueue found queued change keeps promise
  have balance := conserved promise
  have counts : exchange.isFor promise = true := by simp [Exchange.isFor, same]
  rw [counts, Bool.toNat_true] at left
  constructor <;> omega

/-- What waits behind an exchange that leaves its queue waited before. -/
theorem mem_queued_of_unqueue {host : String} {pool : Pool} {exchange other : Exchange}
    {waiting : List Exchange} (found : dispatcher.pools.get? host = some pool)
    (queued : pool.queue = exchange :: waiting) {change : Pool → Pool}
    (keeps : ∀ pool, (change pool).queue = pool.queue)
    (member : other ∈ (dispatcher.unqueue host waiting change).pools.queued) :
    other ∈ dispatcher.pools.queued := by
  rcases Pools.mem_queued_modify found member with here | before
  · -- It stood behind the exchange that left.
    rw [keeps] at here
    refine Pools.mem_queued.2 ⟨host, pool, found, ?_⟩
    rw [queued]
    exact List.mem_cons_of_mem exchange here
  · exact before

/-- An exchange is handed out to a connection, for its own promise or for another one. -/
theorem Traced.handOut (traced : dispatcher.Traced promise) (conserved : dispatcher.Conserved hand)
    (once : Journal.receipts dispatcher.journal promise ≤ 1) {host : String} {pool : Pool}
    {exchange : Exchange} {waiting : List Exchange}
    (found : dispatcher.pools.get? host = some pool) (queued : pool.queue = exchange :: waiting)
    (change : Pool → Pool) (keeps : ∀ pool, (change pool).queue = pool.queue)
    (notes : List Transit) (key : Nat) (started : Connection)
    (journal : next.journal = dispatcher.journal ++ notes ++ [.started key exchange])
    (unstarted : Journal.starts notes promise = 0)
    (silent : ∀ other, .closed other ∉ notes ∧ Journal.bytesOver notes other = [])
    (pools : next.pools = (dispatcher.unqueue host waiting change).pools)
    (lives : ∀ other connection, next.connections.get? other = some connection →
      key = other ∧ connection = started ∨
        dispatcher.connections.get? other = some connection)
    (carries : started.exchange = some exchange)
    (served : started.served = Journal.answersOver (dispatcher.journal ++ notes) key)
    (read : started.readBuffer = []) : next.Traced promise := by
  by_cases same : exchange.promise = promise
  · -- Nobody else is held for the promise.
    obtain ⟨received, empty⟩ := alone found queued change keeps conserved same once
    obtain ⟨notWaiting, notCarried⟩ := not_held empty
    have waited : exchange ∈ dispatcher.pools.queued :=
      Pools.mem_queued.2 ⟨host, pool, found, by rw [queued]; exact List.mem_cons_self⟩
    refine traced.start notes same waited received journal unstarted ?_ ?_
    · intro other member
      rw [pools] at member
      exact notWaiting other member
    · intro other connection held present holds alike
      rcases lives other connection present with ⟨rfl, rfl⟩ | old
      · rw [carries] at holds
        cases holds
        exact ⟨rfl, rfl, served, read⟩
      · exact absurd alike (notCarried other connection held old holds)
  · -- Another exchange is started, which does not count for the promise.
    have quiet : Journal.starts (notes ++ [.started key exchange]) promise = 0 := by
      rw [Journal.starts_append, unstarted]
      simp [Journal.starts, Transit.starts, same]
    refine traced.still (notes ++ [.started key exchange]) (by rw [journal, List.append_assoc])
      quiet ?_ ?_
    · intro other member _
      rw [pools] at member
      exact .inl (mem_queued_of_unqueue found queued keeps member)
    · intro other connection held present holds alike
      obtain ⟨stillOpen, nothing⟩ := silent other
      rcases lives other connection present with ⟨rfl, rfl⟩ | old
      · rw [carries] at holds
        cases holds
        exact absurd alike same
      · refine ⟨old, by simp [stillOpen], ?_⟩
        rw [Journal.bytesOver_append, nothing]
        rfl

/-- An exchange that comes in was not started before. -/
theorem Entry.traced {exchange : Exchange} (entry : dispatcher.Entry exchange next)
    (once : Journal.receipts next.journal promise ≤ 1) (traced : dispatcher.Traced promise) :
    next.Traced promise := by
  cases entry with
  | refused error =>
    -- It is settled before it is held anywhere.
    refine traced.still [.received exchange, .settled exchange.promise (.error error)]
      (List.append_assoc ..) rfl (fun other member _ => .inl member) ?_
    exact fun key connection other present carries same => ⟨present, by simp, rfl⟩
  | admitted found =>
    refine traced.still [.received exchange] rfl rfl (fun other member same => ?_) ?_
    · rcases Pools.mem_queued_modify found member with here | before
      · rcases List.mem_append.1 here with before | last
        · exact .inl (Pools.mem_queued.2 ⟨_, _, found, before⟩)
        · -- It was not heard of before, and so not started either.
          cases List.mem_singleton.1 last
          have comes := Journal.receipts_received exchange promise
          have counts : exchange.isFor promise = true := by simp [Exchange.isFor, same]
          rw [counts, Bool.toNat_true] at comes
          have total : Journal.receipts (dispatcher.journal ++ [.received exchange]) promise ≤ 1 :=
            once
          rw [Journal.receipts_append] at total
          exact .inr (.inl (traced.unknown (by omega)))
      · exact .inl before
    · exact fun key connection other present carries same => ⟨present, by simp, rfl⟩

/-- The end of a connection leaves the others alone, and starts nothing. -/
theorem Traced.drop (traced : dispatcher.Traced promise) (accounted : dispatcher.Accounted)
    {key : Nat} {connection : Connection}
    (present : dispatcher.connections.get? key = some connection) (notes : List Transit)
    (unstarted : Journal.starts notes promise = 0)
    (alone : ∀ other, key ≠ other →
      .closed other ∉ notes ∧ Journal.bytesOver notes other = []) :
    (dispatcher.drop key connection.authority notes).Traced promise := by
  obtain ⟨pool, found⟩ := accounted.hosted present
  refine traced.still _ (accounted.journal_drop present notes) ?_ ?_ ?_
  · rw [Journal.starts_append, unstarted]
    rfl
  · -- The pool of the connection keeps its queue.
    intro exchange member _
    rcases Pools.mem_queued_modify found member with here | before
    · exact .inl (Pools.mem_queued.2 ⟨_, _, found, here⟩)
    · exact .inl before
  · intro other found exchange there carries same
    obtain ⟨differs, old⟩ := Roster.get?_erase_cases there
    obtain ⟨stillOpen, silent⟩ := alone other differs
    refine ⟨old, ?_, ?_⟩
    · simpa [stillOpen] using Ne.symm differs
    · rw [Journal.bytesOver_append, silent]
      rfl

/-- Every move starts an exchange with an excuse only, or for the first time. -/
theorem Move.traced (move : dispatcher.Move hand next rest) (accounted : dispatcher.Accounted)
    (conserved : dispatcher.Conserved hand) (tallied : dispatcher.Tallied)
    (once : Journal.receipts dispatcher.journal promise ≤ 1)
    (traced : dispatcher.Traced promise) : next.Traced promise := by
  cases move with
  | discovered absent address =>
    -- Nobody waits in a new pool.
    refine traced.still [] (List.append_nil _).symm rfl (fun exchange member _ => .inl ?_) ?_
    · rw [Pools.queued_insert absent rfl] at member
      exact member
    · exact fun key connection other present carries same => ⟨present, by simp, rfl⟩
  | unreachable found queued error =>
    -- The exchange goes away without having been started.
    rename_i host pool exchange waiting
    refine traced.still [.settled exchange.promise (.error error)] rfl rfl
      (fun other member same => .inl ?_) ?_
    · exact mem_queued_of_unqueue found queued (fun _ => rfl) member
    · exact fun key connection other present carries same => ⟨present, by simp, rfl⟩
  | misdirected found queued rested gone error =>
    exact absurd (accounted.idle found rested) (not_idleAt gone)
  | reused found queued rested present =>
    rename_i host pool exchange waiting key idle connection
    -- An idle connection has read nothing, and knows how many responses came over it.
    obtain ⟨-, free⟩ := (idleAt_iff present).1 (accounted.idle found rested)
    refine traced.handOut conserved once found queued (·.withIdle idle) (fun _ => rfl) [] key
      (connection.start exchange dispatcher.keepAlive) ?_ rfl (fun _ => ⟨List.not_mem_nil, rfl⟩)
      rfl ?_ rfl ?_ (accounted.rests present free).nothingRead
    · rw [List.append_nil]
      rfl
    · intro other found there
      exact (Roster.get?_set_cases present there).imp_right And.right
    · rw [List.append_nil]
      exact tallied key connection present
  | opened found queued rested room =>
    -- Nothing has come over a new connection.
    rename_i host pool exchange waiting
    refine traced.handOut conserved once found queued Pool.addConnection (fun _ => rfl)
      [.opened dispatcher.connections.nextKey host] dispatcher.connections.nextKey
      (({ authority := host } : Connection).start exchange dispatcher.keepAlive) rfl rfl
      (fun _ => ⟨by simp, rfl⟩) rfl ?_ rfl ?_ rfl
    · intro other found there
      have inserted : (dispatcher.connections.insert
          (({ authority := host } : Connection).start exchange dispatcher.keepAlive)).get? other =
            some found := by
        rw [← Roster.set_insert dispatcher.connections { authority := host }]
        exact there
      exact Roster.get?_insert_cases inserted
    · simp [Journal.answersOver_append, Transit.countAnswer, Connection.start]
  | tended present connected still writeBuffer =>
    rename_i key connection
    refine traced.quiet [] (List.append_nil _).symm rfl (fun exchange member _ => .inl member) ?_
    intro other found exchange there carries same first
    rcases Roster.get?_set_cases present there with ⟨rfl, rfl⟩ | ⟨_, old⟩
    · exact ⟨connection, present, carries, rfl, by simp, (List.append_nil _).symm⟩
    · exact ⟨found, old, carries, rfl, by simp, (List.append_nil _).symm⟩
  | filled present arrival harmless =>
    rename_i key connection
    refine traced.quiet [.arrived key arrival.bytes] rfl rfl
      (fun exchange member _ => .inl member) ?_
    intro other found exchange there carries same first
    rcases Roster.get?_set_cases present there with ⟨rfl, rfl⟩ | ⟨differs, old⟩
    · -- What arrives is read, and stands behind what was read before.
      refine ⟨connection, present, carries, rfl, by simp, ?_⟩
      simp [Connection.fill, Journal.bytesOver, Transit.bytesOver]
    · refine ⟨found, old, carries, rfl, by simp, ?_⟩
      simp [Journal.bytesOver, Transit.bytesOver, differs]
  | answered present carried connected decoded reusable =>
    rename_i key connection polled exchange response consumed
    obtain ⟨pool, found⟩ := accounted.hosted present
    refine traced.still [.answered key response] rfl rfl (fun other member _ => .inl ?_) ?_
    · rcases Pools.mem_queued_modify found member with here | before
      · exact Pools.mem_queued.2 ⟨_, _, found, here⟩
      · exact before
    · -- The connection that is free now carries nothing.
      intro other live held there carries same
      rcases Roster.get?_set_cases present there with ⟨rfl, rfl⟩ | ⟨differs, old⟩
      · cases carries
      · exact ⟨old, by simp, rfl⟩
  | answeredLast present carried decoded =>
    -- A response is neither a start nor an end.
    exact traced.drop accounted present _ rfl fun other differs => ⟨by simp, rfl⟩
  | spoiled present free bytes =>
    refine traced.drop accounted present _ rfl fun other differs => ⟨by simp, ?_⟩
    simp [Journal.bytesOver, Transit.bytesOver, differs]
  | closed present =>
    exact traced.drop accounted present _ rfl fun other differs => ⟨by simp, rfl⟩
  | retried present carried stale found =>
    rename_i key connection exchange pool
    -- The end of the connection is the excuse for the next start.
    have ended := traced.drop accounted present [] rfl fun other differs => ⟨by simp, rfl⟩
    have there : (dispatcher.drop key connection.authority []).pools.get? connection.authority =
        some (pool.forget key) := by
      rw [drop, Pools.get?_modify, if_pos rfl, found]
      rfl
    refine ended.still [.requeued exchange.again] rfl rfl (fun other member same => ?_)
      fun key connection other present carries same => ⟨present, by simp, rfl⟩
    rcases Pools.mem_queued_modify there member with here | before
    · rcases List.mem_cons.1 here with rfl | before
      · -- The connection was used before, and nothing has come since.
        obtain ⟨used, silent, first⟩ := (Connection.isStale_iff carried).1 stale
        have underWay := traced.carried key connection exchange present carried same first
        rw [silent] at underWay
        have returned : Journal.Returned
            (dispatcher.journal ++ [.closed key] ++ [.requeued exchange.again]) promise :=
          (underWay.close used).append rfl
        refine .inr (.inr ⟨rfl, ?_⟩)
        rw [record, modifyPool, accounted.journal_drop present]
        exact returned
      · exact .inl (Pools.mem_queued.2 ⟨_, _, there, before⟩)
    · exact .inl before
  | settled held outcome =>
    rename_i exchange
    refine traced.still [.settled exchange.promise outcome] rfl rfl
      (fun other member same => .inl member) ?_
    exact fun key connection other present carries same => ⟨present, by simp, rfl⟩
  | overdue now =>
    -- Whoever waits on waited before.
    refine traced.still [] (List.append_nil _).symm rfl
      (fun other member same => .inl (Pools.mem_queued_of_expire member)) ?_
    exact fun key connection other present carries same => ⟨present, by simp, rfl⟩

end Dispatcher

end HttpEngine
