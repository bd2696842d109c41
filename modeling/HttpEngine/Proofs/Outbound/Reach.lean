import HttpEngine.Proofs.Outbound.Notes

/-!
How far the handing out of exchanges for one host reaches. It leaves alone the connections that
carry something, and everything that belongs to other hosts.
-/

namespace HttpEngine

namespace Dispatcher

/-- What happens to one connection of a host leaves the others and the other hosts as they are. -/
structure Confined (key : Nat) (host : String) (before after : Dispatcher) : Prop where
  connections : ∀ other, key ≠ other →
    after.connections.get? other = before.connections.get? other
  pools : ∀ other, other ≠ host → after.pools.get? other = before.pools.get? other

/-- The connections that carry something stay as they are, and so do the other hosts. -/
structure Spares (host : String) (before after : Dispatcher) : Prop where
  busy : ∀ {key connection}, before.connections.get? key = some connection →
    connection.exchange ≠ none → after.connections.get? key = some connection
  pools : ∀ other, other ≠ host → after.pools.get? other = before.pools.get? other

variable {dispatcher next last : Dispatcher} {host : String} {key : Nat} {connection : Connection}
  {exchange : Exchange}

/-- Nothing has to happen. -/
theorem Confined.nothing : Confined key host dispatcher dispatcher :=
  ⟨fun _ _ => rfl, fun _ _ => rfl⟩

/-- One thing after the other. -/
theorem Confined.trans (first : Confined key host dispatcher next)
    (second : Confined key host next last) : Confined key host dispatcher last where
  connections other differs :=
    (second.connections other differs).trans (first.connections other differs)
  pools other differs := (second.pools other differs).trans (first.pools other differs)

/-- Nothing has to happen. -/
theorem Spares.nothing : Spares host dispatcher dispatcher := ⟨fun there _ => there, fun _ _ => rfl⟩

/-- One thing after the other. -/
theorem Spares.trans (first : Spares host dispatcher next) (second : Spares host next last) :
    Spares host dispatcher last where
  busy there carries := second.busy (first.busy there carries) carries
  pools other differs := (second.pools other differs).trans (first.pools other differs)

/-- What is confined to a connection that carries nothing spares those that carry something. -/
theorem Confined.spares (confined : Confined key host dispatcher next)
    (free : ∀ connection, dispatcher.connections.get? key = some connection →
      connection.exchange = none) : Spares host dispatcher next where
  busy {other connection} there carries := by
    -- What carries something is not the one that carries nothing.
    have differs : key ≠ other := by
      rintro rfl
      exact carries (free connection there)
    rw [confined.connections other differs]
    exact there
  pools := confined.pools

/-- A change of the pool of one host does not reach the others. -/
theorem get?_modify_of_ne (pools : Pools) {host other : String} (differs : other ≠ host)
    (change : Pool → Pool) : (pools.modify host change).get? other = pools.get? other := by
  rw [Pools.get?_modify, if_neg differs]

/-- The end of a connection concerns no other one. -/
theorem confined_drop (dispatcher : Dispatcher) (key : Nat) (host : String)
    (notes : List Transit) : Confined key host dispatcher (dispatcher.drop key host notes) where
  connections other differs := by rw [drop, Roster.get?_erase, if_neg differs]
  pools other differs := get?_modify_of_ne dispatcher.pools differs (·.forget key)

/-- What becomes of a connection that ends concerns no other one. -/
theorem Parting.confined {error : Error} (parting : dispatcher.Parting key error next)
    (present : dispatcher.connections.get? key = some connection) :
    Confined key connection.authority dispatcher next := by
  have ended := confined_drop dispatcher key connection.authority []
  cases parting with
  | freed there free =>
    -- A connection that carries nothing just ends.
    rw [present] at there
    cases there
    exact ended
  | rejected there carried =>
    rw [present] at there
    cases there
    exact ⟨ended.connections, ended.pools⟩
  | requeued there carried stale found =>
    -- The exchange goes back into the pool of its host, and the other pools stay.
    rw [present] at there
    cases there
    refine ⟨ended.connections, fun other differs => ?_⟩
    exact (get?_modify_of_ne _ differs _).trans (ended.pools other differs)

/-- A launch concerns one connection. -/
theorem Launch.confined (launch : dispatcher.Launch host key exchange next) :
    Confined key host dispatcher next := by
  cases launch with
  | reused found queued rested present =>
    -- The one connection is written over.
    refine ⟨fun other differs => ?_, fun other differs => get?_modify_of_ne _ differs _⟩
    rw [setConnection, Roster.get?_set (by exact present), if_neg differs]
    rfl
  | opened found queued rested room same =>
    -- The new connection gets a key that no other one has.
    subst same
    refine ⟨fun other differs => ?_, fun other differs => get?_modify_of_ne _ differs _⟩
    rw [setConnection, record, openConnection, record, unqueue]
    dsimp only
    rw [Roster.set_insert, Roster.get?_insert, if_neg differs]

/-- A launch takes a connection that carries nothing, or a new one. -/
theorem Launch.free (launch : dispatcher.Launch host key exchange next)
    (accounted : dispatcher.Accounted)
    (present : dispatcher.connections.get? key = some connection) :
    connection.exchange = none := by
  cases launch with
  | reused found queued rested there =>
    -- What rests in a pool carries nothing.
    exact ((idleAt_iff present).1 (accounted.idle found rested)).2
  | opened found queued rested room same =>
    -- A new key belongs to no connection yet.
    subst same
    rw [Roster.get?_nextKey] at present
    cases present

/-- An exchange is launched on a connection to its host. -/
theorem Launch.authority (launch : dispatcher.Launch host key exchange next)
    (accounted : dispatcher.Accounted)
    (present : next.connections.get? key = some connection) : connection.authority = host := by
  cases launch with
  | reused found queued rested there =>
    -- What rests in the pool of a host is a connection to it.
    rename_i pool waiting idle rests
    rcases Roster.get?_set_cases there present with ⟨_, rfl⟩ | ⟨differs, _⟩
    · exact ((idleAt_iff there).1 (accounted.idle found rested)).1
    · exact absurd rfl differs
  | opened found queued rested room same =>
    -- A connection is opened to the host that the exchange waits for.
    subst same
    rw [setConnection, record, openConnection, record, unqueue] at present
    dsimp only at present
    rw [Roster.set_insert, Roster.get?_insert, if_pos rfl] at present
    cases present
    rfl

/-- What becomes of a connection that takes an exchange concerns no other one. -/
theorem Landing.confined (landing : dispatcher.Landing key next)
    (home : ∀ connection, dispatcher.connections.get? key = some connection →
      connection.authority = host) : Confined key host dispatcher next := by
  -- Writing to a connection changes this one only.
  have flushed : ∀ {connection : Connection},
      dispatcher.connections.get? key = some connection → ∀ changed : Connection,
        Confined key host dispatcher (dispatcher.setConnection key changed) := by
    intro connection present changed
    refine ⟨fun other differs => ?_, fun _ _ => rfl⟩
    rw [setConnection, Roster.get?_set present, if_neg differs]
  cases landing with
  | stays present writeBuffer => exact flushed present _
  | parts present writeBuffer error parting =>
    rename_i connection
    -- The connection that ends is the one that was written to, and it is still there.
    have same := home _ present
    subst same
    have there : (dispatcher.setConnection key { connection with writeBuffer }).connections.get?
        key = some { connection with writeBuffer } := Roster.get?_set_self present _
    have parted := parting.confined there
    exact (flushed present _).trans parted

/-- A handover spares what carries something already. -/
theorem Handover.spares (handover : dispatcher.Handover host next)
    (accounted : dispatcher.Accounted) : Spares host dispatcher next := by
  cases handover with
  | refused found queued rested error =>
    -- Only the queue of the host got shorter.
    refine ⟨fun there _ => there, fun other differs => ?_⟩
    exact get?_modify_of_ne _ differs _
  | misdirected found queued rested gone error =>
    -- What rests in a pool is there.
    exact absurd (accounted.idle found rested) (not_idleAt gone)
  | given launch landing =>
    -- Whatever follows upon the launch is confined to the connection that it took.
    exact (launch.confined.trans (landing.confined fun _ => launch.authority accounted)).spares
      fun _ present => launch.free accounted present

/-- A pump spares what carries something already. -/
theorem spares_pump (net : Nat → HandoverIo) (host : String) (accounted : dispatcher.Accounted) :
    Spares host dispatcher (dispatcher.pump net host) :=
  (pump_keeps (fun reached => reached.Accounted ∧ Spares host dispatcher reached) host
    (fun _ _ handover kept =>
      ⟨handover.leads.accounted kept.1, kept.2.trans (handover.spares kept.1)⟩)
    net dispatcher ⟨accounted, .nothing⟩).2

end Dispatcher

end HttpEngine
