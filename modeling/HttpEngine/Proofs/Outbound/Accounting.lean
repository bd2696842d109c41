import HttpEngine.Proofs.Outbound.Course
import HttpEngine.Proofs.Roster

/-!
The accounts of the pools: how many connections a host has, and which of them are idle. Every move
keeps them right.
-/

namespace HttpEngine

/-- A connection to a host that carries nothing. -/
def IdleAt (connections : Roster Connection) (host : String) (key : Nat) : Prop :=
  ∃ connection, connections.get? key = some connection ∧ connection.authority = host ∧
    connection.exchange = none

section IdleAt

variable {connections : Roster Connection} {host : String} {key other : Nat}
  {old connection : Connection}

/-- Whether a connection under a known key is idle. -/
theorem idleAt_iff (present : connections.get? key = some connection) :
    IdleAt connections host key ↔ connection.authority = host ∧ connection.exchange = none := by
  constructor
  · rintro ⟨found, there, properties⟩
    rw [present] at there
    cases there
    exact properties
  · exact fun properties => ⟨connection, present, properties⟩

/-- No connection is idle under a key that is not in use. -/
theorem not_idleAt (absent : connections.get? key = none) : ¬IdleAt connections host key := by
  rintro ⟨found, there, _⟩
  rw [absent] at there
  cases there

/-- Which connections are idle depends on what is under their keys. -/
theorem idleAt_congr {others : Roster Connection}
    (same : others.get? key = connections.get? key) :
    IdleAt others host key ↔ IdleAt connections host key := by
  rw [IdleAt, same, IdleAt]

/-- Other connections are idle or not as before. -/
theorem idleAt_set_of_ne (present : connections.get? key = some old) (differs : key ≠ other) :
    IdleAt (connections.set key connection) host other ↔ IdleAt connections host other :=
  idleAt_congr (by rw [Roster.get?_set present, if_neg differs])

/-- The connection that was set is idle if it carries nothing. -/
theorem idleAt_set_self (present : connections.get? key = some old) :
    IdleAt (connections.set key connection) host key ↔
      connection.authority = host ∧ connection.exchange = none :=
  idleAt_iff (Roster.get?_set_self present connection)

/-- A connection that ended is no longer idle. -/
theorem idleAt_erase :
    IdleAt (connections.erase key) host other ↔ key ≠ other ∧ IdleAt connections host other := by
  by_cases same : key = other
  · -- Nothing is under the key any more.
    subst same
    simp [not_idleAt (Roster.get?_erase_self connections key)]
  · have unchanged : (connections.erase key).get? other = connections.get? other := by
      rw [Roster.get?_erase, if_neg same]
    rw [idleAt_congr unchanged]
    simp [same]

/-- A new connection that carries something is not idle, and all others are as before. -/
theorem idleAt_insert (busy : connection.exchange ≠ none) :
    IdleAt (connections.insert connection) host other ↔ IdleAt connections host other := by
  by_cases same : connections.nextKey = other
  · -- Nothing was under the new key before.
    subst same
    have there := Roster.get?_insert connections connection connections.nextKey
    rw [if_pos rfl] at there
    rw [idleAt_iff there]
    simp [busy, not_idleAt (Roster.get?_nextKey connections)]
  · exact idleAt_congr (by rw [Roster.get?_insert, if_neg same])

end IdleAt

/-- A pool whose accounts are right. -/
structure Pool.Fits (pool : Pool) (connections : Roster Connection) (most : Nat)
    (host : String) : Prop where
  counted : pool.connections = connections.count (·.authority == host)
  bounded : pool.connections ≤ most
  idle_nodup : pool.idle.Nodup
  mem_idle : ∀ key, key ∈ pool.idle ↔ IdleAt connections host key

namespace Pool.Fits

variable {pool : Pool} {connections others : Roster Connection} {most : Nat} {host : String}
  {key : Nat} {old connection : Connection}

/-- The accounts of a pool say nothing about its queue. -/
theorem of_queue (fits : pool.Fits connections most host) {next : Pool}
    (sameConnections : next.connections = pool.connections) (sameIdle : next.idle = pool.idle) :
    next.Fits connections most host where
  counted := sameConnections.trans fits.counted
  bounded := sameConnections ▸ fits.bounded
  idle_nodup := sameIdle ▸ fits.idle_nodup
  mem_idle := sameIdle ▸ fits.mem_idle

/-- The accounts of a pool depend on the connections to its host. -/
theorem congr (fits : pool.Fits connections most host)
    (sameCount : others.count (·.authority == host) = connections.count (·.authority == host))
    (sameIdle : ∀ key, IdleAt others host key ↔ IdleAt connections host key) :
    pool.Fits others most host where
  counted := fits.counted.trans sameCount.symm
  bounded := fits.bounded
  idle_nodup := fits.idle_nodup
  mem_idle key := (fits.mem_idle key).trans (sameIdle key).symm

/-- Another connection to the same host leaves the number of its connections as it is. -/
theorem count_set_of_authority (present : connections.get? key = some old)
    (same : connection.authority = old.authority) (host : String) :
    (connections.set key connection).count (·.authority == host) =
      connections.count (·.authority == host) := by
  -- What is counted is the host, and that is the same.
  have counted := Roster.count_set present connection (·.authority == host)
  rw [same] at counted
  omega

/-- A change of a connection that stays busy or stays idle. -/
theorem set (fits : pool.Fits connections most host) (present : connections.get? key = some old)
    (same : connection.authority = old.authority)
    (alike : connection.exchange = none ↔ old.exchange = none) :
    pool.Fits (connections.set key connection) most host := by
  refine fits.congr (count_set_of_authority present same host) fun other => ?_
  by_cases here : key = other
  · -- The connection itself is idle exactly if it was.
    subst here
    rw [idleAt_set_self present, idleAt_iff present, same, alike]
  · exact idleAt_set_of_ne present here

/-- A change of a connection to another host. -/
theorem set_elsewhere (fits : pool.Fits connections most host)
    (present : connections.get? key = some old) (same : connection.authority = old.authority)
    (elsewhere : old.authority ≠ host) :
    pool.Fits (connections.set key connection) most host := by
  refine fits.congr (count_set_of_authority present same host) fun other => ?_
  by_cases here : key = other
  · -- It is not idle for this host, whatever it carries.
    subst here
    rw [idleAt_set_self present, idleAt_iff present, same]
    simp [elsewhere]
  · exact idleAt_set_of_ne present here

/-- The idle connection that was used last takes something up. -/
theorem take (fits : pool.Fits connections most host) {idle : List Nat}
    (rested : pool.idle = key :: idle) (present : connections.get? key = some old)
    (same : connection.authority = old.authority) (busy : connection.exchange ≠ none) :
    (pool.withIdle idle).Fits (connections.set key connection) most host := by
  have nodup := fits.idle_nodup
  rw [rested, List.nodup_cons] at nodup
  -- The connections of the host are as many as before, and one fewer of them is idle.
  constructor
  · exact fits.counted.trans (count_set_of_authority present same host).symm
  · exact fits.bounded
  · exact nodup.2
  · intro other
    have member := fits.mem_idle other
    rw [rested, List.mem_cons] at member
    by_cases here : key = other
    · -- It was in front of the others once, and is gone from them.
      subst here
      rw [idleAt_set_self present]
      simp [Pool.withIdle, nodup.1, busy]
    · rw [idleAt_set_of_ne present here, ← member]
      simp [Pool.withIdle, Ne.symm here]

/-- A connection that was busy becomes idle. -/
theorem rest (fits : pool.Fits connections most host) (present : connections.get? key = some old)
    (here : old.authority = host) (busy : old.exchange ≠ none)
    (same : connection.authority = old.authority) (free : connection.exchange = none) :
    (pool.putIdle key).Fits (connections.set key connection) most host := by
  -- While it was busy it was not among the idle ones, so that it is not there twice now.
  have absent : key ∉ pool.idle := by
    rw [fits.mem_idle, idleAt_iff present]
    exact fun idle => busy idle.2
  constructor
  · exact fits.counted.trans (count_set_of_authority present same host).symm
  · exact fits.bounded
  · exact List.nodup_cons.2 ⟨absent, fits.idle_nodup⟩
  · intro other
    rw [Pool.putIdle, List.mem_cons]
    by_cases sameKey : key = other
    · subst sameKey
      rw [idleAt_set_self present]
      simp [same, here, free]
    · rw [idleAt_set_of_ne present sameKey, fits.mem_idle]
      simp [Ne.symm sameKey]

/-- A connection ends. -/
theorem forget (fits : pool.Fits connections most host)
    (present : connections.get? key = some old) (here : old.authority = host) :
    (pool.forget key).Fits (connections.erase key) most host := by
  -- It was counted, so that the count does not stop at zero.
  have counted := Roster.count_erase present (·.authority == host)
  have before := fits.counted
  simp only [here, beq_self_eq_true, Bool.toNat_true] at counted
  constructor
  · simp only [Pool.forget]
    omega
  · exact Nat.le_trans (Nat.sub_le _ _) fits.bounded
  · exact fits.idle_nodup.filter _
  · -- Without the key the idle ones are those of the connections that are left.
    intro other
    rw [Pool.forget, List.mem_filter, fits.mem_idle, idleAt_erase, bne_iff_ne, and_comm, ne_comm]

/-- A connection to another host ends. -/
theorem erase_elsewhere (fits : pool.Fits connections most host)
    (present : connections.get? key = some old) (elsewhere : old.authority ≠ host) :
    pool.Fits (connections.erase key) most host := by
  have counted := Roster.count_erase present (·.authority == host)
  simp only [beq_false_of_ne elsewhere, Bool.toNat_false, Nat.add_zero] at counted
  refine fits.congr counted fun other => ?_
  -- The connection that ended was not idle for this host.
  rw [idleAt_erase]
  refine ⟨fun idle => idle.2, fun idle => ⟨?_, idle⟩⟩
  rintro rfl
  exact elsewhere ((idleAt_iff present).1 idle).1

/-- A connection is opened, and takes something up at once. -/
theorem open_ (fits : pool.Fits connections most host) (room : pool.connections < most)
    (here : connection.authority = host) (busy : connection.exchange ≠ none) :
    pool.addConnection.Fits (connections.insert connection) most host := by
  -- There was room for one more, and it is busy from the first.
  have counted := Roster.count_insert connections connection (·.authority == host)
  have before := fits.counted
  simp only [here, beq_self_eq_true, Bool.toNat_true] at counted
  constructor
  · simp only [Pool.addConnection]
    omega
  · exact room
  · exact fits.idle_nodup
  · exact fun other => (fits.mem_idle other).trans (idleAt_insert busy).symm

/-- A connection to another host is opened, and takes something up at once. -/
theorem insert_elsewhere (fits : pool.Fits connections most host)
    (elsewhere : connection.authority ≠ host) (busy : connection.exchange ≠ none) :
    pool.Fits (connections.insert connection) most host := by
  have counted := Roster.count_insert connections connection (·.authority == host)
  simp only [beq_false_of_ne elsewhere, Bool.toNat_false, Nat.add_zero] at counted
  exact fits.congr counted fun other => idleAt_insert busy

end Pool.Fits

/-- A connection on which nothing is under way, and which can be used at once. -/
structure Connection.Rests (connection : Connection) : Prop where
  connected : connection.connected = true
  peerOpen : connection.peerClosed = false
  nothingRead : connection.readBuffer = []

/-- Notes of something that must not happen. -/
def Transit.isAlarm : Transit → Bool
  | overdrawn _ => true
  | misdirected _ => true
  | _ => false

namespace Dispatcher

/-- A dispatcher whose accounts are right, and always have been. -/
structure Accounted (dispatcher : Dispatcher) : Prop where
  hosted : ∀ {key connection}, dispatcher.connections.get? key = some connection →
    ∃ pool, dispatcher.pools.get? connection.authority = some pool
  fits : ∀ {host pool}, dispatcher.pools.get? host = some pool →
    pool.Fits dispatcher.connections dispatcher.maxConnectionsPerHost host
  rests : ∀ {key connection}, dispatcher.connections.get? key = some connection →
    connection.exchange = none → connection.Rests
  sober : ∀ note ∈ dispatcher.journal, note.isAlarm = false

namespace Accounted

variable {dispatcher next : Dispatcher} {host : String} {pool : Pool} {key : Nat}
  {connection : Connection}

/-- A new dispatcher has no accounts yet. -/
theorem fresh (most : Nat) (keepAlive : Bool) : (fresh most keepAlive).Accounted where
  hosted {key connection} present := by
    -- There are no connections and no pools yet.
    rw [Dispatcher.fresh, Roster.get?_empty] at present
    cases present
  fits found := by
    cases found
  rests {key connection} present := by
    rw [Dispatcher.fresh, Roster.get?_empty] at present
    cases present
  sober _ member := absurd member List.not_mem_nil

/-- What is noted does not matter, unless it is an alarm. -/
theorem noted (accounted : dispatcher.Accounted) {notes : List Transit}
    (sober : ∀ note ∈ notes, note.isAlarm = false) :
    { dispatcher with journal := dispatcher.journal ++ notes }.Accounted where
  hosted := accounted.hosted
  fits := accounted.fits
  rests := accounted.rests
  sober note member := (List.mem_append.1 member).elim (accounted.sober note) (sober note)

/-- What is noted does not matter, unless it is an alarm. -/
theorem record (accounted : dispatcher.Accounted) {note : Transit}
    (sober : note.isAlarm = false) : (dispatcher.record note).Accounted :=
  accounted.noted fun _ member => List.mem_singleton.1 member ▸ sober

/-- How many hosts were looked up does not matter. -/
theorem looked (accounted : dispatcher.Accounted) :
    { dispatcher with lookups := dispatcher.lookups + 1 }.Accounted where
  hosted := accounted.hosted
  fits := accounted.fits
  rests := accounted.rests
  sober := accounted.sober

/-- The queues do not matter. -/
theorem mapAll (accounted : dispatcher.Accounted) {change : String → Pool → Pool}
    (connections : ∀ host pool, (change host pool).connections = pool.connections)
    (idle : ∀ host pool, (change host pool).idle = pool.idle) :
    { dispatcher with pools := dispatcher.pools.mapAll change }.Accounted where
  hosted present := by
    -- The pools are altered one by one, in what does not count for the accounts.
    obtain ⟨pool, found⟩ := accounted.hosted present
    exact ⟨change _ pool, by rw [Pools.get?_mapAll, found]; rfl⟩
  fits {host pool} found := by
    rw [Pools.get?_mapAll] at found
    obtain ⟨before, there, rfl⟩ := Option.map_eq_some_iff.1 found
    exact (accounted.fits there).of_queue (connections host before) (idle host before)
  rests := accounted.rests
  sober := accounted.sober

/-- The first exchange for a host brings a pool without connections. -/
theorem insert (accounted : dispatcher.Accounted) (absent : dispatcher.pools.get? host = none)
    (address : SocketAddr) :
    { dispatcher with pools := dispatcher.pools.insert host { address } }.Accounted where
  hosted {key connection} present := by
    obtain ⟨pool, found⟩ := accounted.hosted present
    rw [Pools.get?_insert absent]
    split
    · exact ⟨_, rfl⟩
    · exact ⟨pool, found⟩
  fits {other pool} found := by
    rw [Pools.get?_insert absent] at found
    split at found
    · -- No connection leads to a host without a pool.
      rename_i here
      subst here
      cases found
      have nowhere : ∀ key connection, dispatcher.connections.get? key = some connection →
          connection.authority ≠ other := by
        rintro key connection present rfl
        obtain ⟨pool, found⟩ := accounted.hosted present
        rw [absent] at found
        cases found
      constructor
      · rw [eq_comm, Roster.count, List.countP_eq_zero]
        rintro ⟨key, connection⟩ member
        simpa using nowhere key connection (Roster.mem_entries.1 member)
      · exact Nat.zero_le _
      · exact List.nodup_nil
      · intro key
        refine ⟨fun member => absurd member List.not_mem_nil, ?_⟩
        rintro ⟨connection, present, here, _⟩
        exact absurd here (nowhere key connection present)
    · exact accounted.fits found
  rests := accounted.rests
  sober := accounted.sober

/-- A change of the connections to one host, for which the accounts of its pool are right. -/
theorem change (accounted : dispatcher.Accounted) (found : dispatcher.pools.get? host = some pool)
    (alter : Pool → Pool) (notes : List Transit) {live : Roster Connection}
    (connections : next.connections = live)
    (pools : next.pools = dispatcher.pools.modify host alter)
    (most : next.maxConnectionsPerHost = dispatcher.maxConnectionsPerHost)
    (journal : next.journal = dispatcher.journal ++ notes)
    (sober : ∀ note ∈ notes, note.isAlarm = false)
    (here : (alter pool).Fits live dispatcher.maxConnectionsPerHost host)
    (elsewhere : ∀ {other : String} {pool : Pool}, host ≠ other →
      pool.Fits dispatcher.connections dispatcher.maxConnectionsPerHost other →
      pool.Fits live dispatcher.maxConnectionsPerHost other)
    (lives : ∀ {key : Nat} {connection : Connection}, live.get? key = some connection →
      dispatcher.connections.get? key = some connection ∨
      connection.authority = host ∧ (connection.exchange = none → connection.Rests)) :
    next.Accounted where
  hosted {key connection} present := by
    rw [connections] at present
    rw [pools, Pools.get?_modify]
    -- A connection that is there was there before, or is the one that has come.
    rcases lives present with old | ⟨rfl, _⟩
    · obtain ⟨pool, found⟩ := accounted.hosted old
      rw [found]
      split
      · exact ⟨_, rfl⟩
      · exact ⟨pool, rfl⟩
    · rw [if_pos rfl, found]
      exact ⟨_, rfl⟩
  fits {other pool} there := by
    rw [pools, Pools.get?_modify] at there
    rw [most, connections]
    split at there
    · -- This is the pool that was altered, and its accounts are given.
      rename_i same
      subst same
      rw [found] at there
      cases there
      exact here
    · rename_i differs
      exact elsewhere (Ne.symm differs) (accounted.fits there)
  rests present free := by
    rw [connections] at present
    rcases lives present with old | ⟨_, rests⟩
    · exact accounted.rests old free
    · exact rests free
  sober := by
    rw [journal]
    exact (accounted.noted sober).sober

/-- The connections that are kept as idle are there, and idle. -/
theorem idle (accounted : dispatcher.Accounted) (found : dispatcher.pools.get? host = some pool)
    {others : List Nat} (rested : pool.idle = key :: others) :
    IdleAt dispatcher.connections host key := by
  rw [← (accounted.fits found).mem_idle, rested]
  exact List.mem_cons_self

/-- A host with a live connection is not overdrawn when it ends. -/
theorem overdraft_eq_nil (accounted : dispatcher.Accounted)
    (present : dispatcher.connections.get? key = some connection) :
    dispatcher.pools.overdraft connection.authority = [] := by
  -- The connection is one of those that its pool counts.
  obtain ⟨pool, found⟩ := accounted.hosted present
  have counted := (accounted.fits found).counted
  have live : 0 < dispatcher.connections.count (·.authority == connection.authority) :=
    Roster.count_pos present (by simp)
  rw [Pools.overdraft, found]
  dsimp only
  rw [if_neg (by omega)]

/-- Nothing but alarms is noted while a connection ends, and there are none. -/
theorem journal_drop (accounted : dispatcher.Accounted)
    (present : dispatcher.connections.get? key = some connection) (notes : List Transit) :
    (dispatcher.drop key connection.authority notes).journal =
      dispatcher.journal ++ (notes ++ [.closed key]) := by
  rw [Dispatcher.drop, accounted.overdraft_eq_nil present, List.append_nil, List.append_assoc]

/-- The end of a connection with an alarm in none of the notes. -/
theorem drop (accounted : dispatcher.Accounted)
    (present : dispatcher.connections.get? key = some connection) {notes : List Transit}
    (sober : ∀ note ∈ notes, note.isAlarm = false) :
    (dispatcher.drop key connection.authority notes).Accounted := by
  -- Its own pool forgets it, and the others never knew of it.
  obtain ⟨pool, found⟩ := accounted.hosted present
  refine accounted.change found (·.forget key) (notes ++ [.closed key]) rfl rfl rfl
    (accounted.journal_drop present notes) ?_ ((accounted.fits found).forget present rfl)
    (fun differs fits => fits.erase_elsewhere present differs)
    fun there => .inl (Roster.get?_erase_cases there).2
  · intro note member
    rcases List.mem_append.1 member with member | member
    · exact sober note member
    · rw [List.mem_singleton.1 member]
      rfl

/-- A connection that stays busy or stays idle. -/
theorem setConnection (accounted : dispatcher.Accounted)
    (present : dispatcher.connections.get? key = some connection) {changed : Connection}
    (same : changed.authority = connection.authority)
    (alike : changed.exchange = none ↔ connection.exchange = none)
    (rests : connection.Rests → changed.exchange = none → changed.Rests) :
    (dispatcher.setConnection key changed).Accounted where
  hosted {other found} there := by
    -- A connection that is changed stays one to its host.
    rcases Roster.get?_set_cases present there with ⟨_, rfl⟩ | ⟨_, old⟩
    · rw [same]
      exact accounted.hosted present
    · exact accounted.hosted old
  fits found := (accounted.fits found).set present same alike
  rests {other found} there free := by
    rcases Roster.get?_set_cases present there with ⟨_, rfl⟩ | ⟨_, old⟩
    · exact rests (accounted.rests present (alike.1 free)) free
    · exact accounted.rests old free
  sober := accounted.sober

end Accounted

/-- An exchange that comes in keeps the accounts right. -/
theorem Entry.accounted {dispatcher next : Dispatcher} {exchange : Exchange}
    (entry : dispatcher.Entry exchange next) (accounted : dispatcher.Accounted) :
    next.Accounted := by
  cases entry with
  | refused error => exact (accounted.looked.record rfl).record rfl
  | admitted found =>
    refine (accounted.record rfl).mapAll ?_ ?_ <;> intro host pool <;> split <;> rfl

/-- Every move keeps the accounts right. -/
theorem Move.accounted {dispatcher next : Dispatcher} {hand rest : List Exchange}
    (move : dispatcher.Move hand next rest) (accounted : dispatcher.Accounted) :
    next.Accounted := by
  -- Most moves change one pool and one connection to its host.
  cases move with
  | discovered absent address =>
    -- A host that is found has no connections yet.
    exact accounted.looked.insert absent address
  | unreachable found queued error =>
    -- The connection was counted and counted off again, and only the queue is shorter.
    rename_i host pool exchange waiting
    exact accounted.change found (·.withQueue waiting) [.settled exchange.promise (.error error)]
      rfl rfl rfl rfl (by simp [Transit.isAlarm]) ((accounted.fits found).of_queue rfl rfl)
      (fun _ fits => fits) fun there => .inl there
  | misdirected found queued rested gone error =>
    -- The idle connections are there, so that this cannot happen.
    exact absurd (accounted.idle found rested) (not_idleAt gone)
  | reused found queued rested present =>
    -- The connection leaves the idle ones and becomes busy at once.
    rename_i pool exchange waiting key idle connection
    obtain ⟨rfl, -⟩ := (idleAt_iff present).1 (accounted.idle found rested)
    have fits := ((accounted.fits found).of_queue rfl rfl : (pool.withQueue waiting).Fits _ _ _)
    have busy : (connection.start exchange dispatcher.keepAlive).exchange ≠ none :=
      Option.some_ne_none exchange
    refine accounted.change found (fun pool => (pool.withQueue waiting).withIdle idle)
      [.started key exchange] rfl rfl rfl rfl (by simp [Transit.isAlarm])
      (fits.take rested present rfl busy)
      (fun differs fits => fits.set_elsewhere present rfl differs) fun there => ?_
    rcases Roster.get?_set_cases present there with ⟨_, rfl⟩ | ⟨_, old⟩
    · exact .inr ⟨rfl, fun free => absurd free busy⟩
    · exact .inl old
  | opened found queued rested room =>
    -- The connection that comes is the one that is counted.
    rename_i host pool exchange waiting
    have fits := ((accounted.fits found).of_queue rfl rfl : (pool.withQueue waiting).Fits _ _ _)
    have busy : (({ authority := host } : Connection).start exchange
        dispatcher.keepAlive).exchange ≠ none := Option.some_ne_none exchange
    refine accounted.change found (fun pool => (pool.withQueue waiting).addConnection)
      [.opened dispatcher.connections.nextKey host,
        .started dispatcher.connections.nextKey exchange]
      (Roster.set_insert dispatcher.connections _ _) rfl rfl ?_ ?_ (fits.open_ room rfl busy)
      (fun differs fits => fits.insert_elsewhere differs busy) fun there => ?_
    · simp [Dispatcher.setConnection, Dispatcher.record, openConnection, unqueue]
    · simp [Transit.isAlarm]
    · rcases Roster.get?_insert_cases there with ⟨_, rfl⟩ | old
      · exact .inr ⟨rfl, fun free => absurd free busy⟩
      · exact .inl old
  | tended present connected still writeBuffer =>
    -- A connection that rests goes on resting when its flags are set.
    refine accounted.setConnection present rfl Iff.rfl fun rests _ => ?_
    exact ⟨still rests.connected, rests.peerOpen, rests.nothingRead⟩
  | filled present arrival harmless =>
    refine Accounted.record (accounted.setConnection present (by rfl) (by rfl) ?_) (by rfl)
    -- An idle connection rests only if nothing came at all.
    intro rests free
    rcases harmless with busy | ⟨nothing, goesOn⟩
    · rw [Option.isSome_iff_ne_none] at busy
      exact absurd free busy
    · refine ⟨rests.connected, ?_, ?_⟩
      · simp [Connection.fill, rests.peerOpen, goesOn]
      · simp [Connection.fill, rests.nothingRead, nothing]
  | answered present carried connected decoded reusable =>
    -- A connection is kept only if the server goes on and has sent nothing else.
    rename_i key connection polled exchange response consumed
    obtain ⟨pool, found⟩ := accounted.hosted present
    have polledEq := Connection.polled_eq decoded
    have same : polled.release.authority = connection.authority := by rw [polledEq]; rfl
    simp only [Connection.isReusable, Connection.hasUnsolicited, Bool.and_eq_true,
      Bool.not_eq_true', Bool.not_not, List.isEmpty_iff] at reusable
    have rests : polled.release.Rests := by
      refine ⟨?_, reusable.1.2, reusable.2⟩
      rw [polledEq]
      exact connected
    refine accounted.change found (·.putIdle key) [.answered key response] rfl rfl rfl rfl
      (by simp; rfl) ((accounted.fits found).rest present rfl (by simp [carried]) same rfl)
      (fun differs fits => fits.set_elsewhere present same differs) fun there => ?_
    rcases Roster.get?_set_cases present there with ⟨_, rfl⟩ | ⟨_, old⟩
    · exact .inr ⟨same, fun _ => rests⟩
    · exact .inl old
  | answeredLast present carried decoded => exact accounted.drop present (by simp; rfl)
  | spoiled present free bytes => exact accounted.drop present (by simp; rfl)
  | closed present => exact accounted.drop present (by simp)
  | retried present carried stale found =>
    -- The exchange goes back to a queue, of which the accounts say nothing.
    refine Accounted.record (Accounted.mapAll (accounted.drop present (by simp)) ?_ ?_) rfl <;>
      intro host pool <;> split <;> rfl
  | settled held outcome => exact accounted.record rfl
  | overdue now => exact accounted.mapAll (fun _ _ => rfl) fun _ _ => rfl

/-- The accounts stay right all the way. -/
theorem Leads.accounted {dispatcher next : Dispatcher} (leads : dispatcher.Leads next)
    (accounted : dispatcher.Accounted) : next.Accounted :=
  leads.keeps Accounted (fun _ _ _ _ move => move.accounted) accounted

/-- No move changes how many connections a host may have. -/
theorem Move.most {dispatcher next : Dispatcher} {hand rest : List Exchange}
    (move : dispatcher.Move hand next rest) :
    next.maxConnectionsPerHost = dispatcher.maxConnectionsPerHost := by
  cases move <;> rfl

/-- No entry changes how many connections a host may have. -/
theorem Entry.most {dispatcher next : Dispatcher} {exchange : Exchange}
    (entry : dispatcher.Entry exchange next) :
    next.maxConnectionsPerHost = dispatcher.maxConnectionsPerHost := by
  cases entry <;> rfl

/--
The accounts of every pool are right between errands, whatever they are.

A pool has as many connections as there are to its host, and no more than it may. Its idle
connections are those that carry nothing, each of them once, and they can be used at once. No
connection was ever counted off a host that had none, and no exchange was ever given to a connection
that was not there.
-/
theorem accounts_hold (net : Nat → HandoverIo) (most : Nat) (keepAlive : Bool)
    (errands : List Errand) :
    let dispatcher := (fresh most keepAlive).attendAll net errands
    (∀ host pool, dispatcher.pools.get? host = some pool →
      pool.connections = dispatcher.connections.count (·.authority == host) ∧
      pool.connections ≤ most ∧ pool.idle.Nodup ∧
      (∀ key, key ∈ pool.idle ↔ ∃ connection, dispatcher.connections.get? key = some connection ∧
        connection.authority = host ∧ connection.exchange = none) ∧
      ∀ key ∈ pool.idle, ∀ connection, dispatcher.connections.get? key = some connection →
        connection.connected = true ∧ connection.peerClosed = false ∧
          connection.readBuffer = []) ∧
    (∀ host, .overdrawn host ∉ dispatcher.journal) ∧
    ∀ key, .misdirected key ∉ dispatcher.journal := by
  intro dispatcher
  -- The accounts are kept by every move, together with the number that they are held against.
  obtain ⟨accounted, same⟩ : dispatcher.Accounted ∧ dispatcher.maxConnectionsPerHost = most :=
    attendAll_keeps (fun _ desk => desk.dispatcher.Accounted ∧
        desk.dispatcher.maxConnectionsPerHost = most)
      (fun _ _ _ move kept => ⟨move.accounted kept.1, move.most.trans kept.2⟩)
      (fun _ _ _ _ entry kept => ⟨entry.accounted kept.1, entry.most.trans kept.2⟩)
      net errands [] ⟨.fresh most keepAlive, rfl⟩
  refine ⟨fun host pool found => ?_, fun host alarm => ?_, fun key alarm => ?_⟩
  · have fits := accounted.fits found
    refine ⟨fits.counted, Nat.le_trans fits.bounded (Nat.le_of_eq same), fits.idle_nodup,
      fits.mem_idle, ?_⟩
    intro key idle connection present
    have free := ((idleAt_iff present).1 ((fits.mem_idle key).1 idle)).2
    obtain ⟨connected, peerOpen, nothingRead⟩ := accounted.rests present free
    exact ⟨connected, peerOpen, nothingRead⟩
  · exact Bool.noConfusion (accounted.sober _ alarm)
  · exact Bool.noConfusion (accounted.sober _ alarm)

end Dispatcher

end HttpEngine
