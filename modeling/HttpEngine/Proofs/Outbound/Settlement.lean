import HttpEngine.Proofs.Outbound.Restart

/-!
Every exchange that comes in is settled once. Until then it is in one place, and afterwards in none.
-/

namespace HttpEngine

/-- Where an exchange is held. -/
inductive Place where
  | connection (key : Nat)
  | queue (host : String)
  deriving DecidableEq, Repr

namespace Dispatcher

variable {dispatcher next : Dispatcher} {hand rest : List Exchange} {promise : Nat}

/-- The places at which the exchange of a promise is held. -/
def places (dispatcher : Dispatcher) (promise : Nat) : List Place :=
  (dispatcher.connections.entries.filter fun (_, connection) => connection.carries promise).map
      (fun (key, _) => .connection key) ++
    dispatcher.pools.entries.flatMap fun (host, pool) =>
      (pool.queue.filter (Exchange.isFor promise)).map fun _ => .queue host

/-- There are as many places as there are holdings. -/
theorem length_places (dispatcher : Dispatcher) (promise : Nat) :
    (dispatcher.places promise).length = dispatcher.holdings promise := by
  -- The queues are searched host by host in both ways of counting.
  rw [places, holdings, List.length_append, List.length_map, ← List.countP_eq_length_filter,
    Roster.count, Pools.queued, List.length_flatMap, List.countP_flatMap]
  congr 2
  refine List.map_congr_left fun entry _ => ?_
  rw [List.length_map, ← List.countP_eq_length_filter]
  rfl

/-- The exchanges that are held count as holdings. -/
theorem countP_held (dispatcher : Dispatcher) (promise : Nat) :
    dispatcher.held.countP (Exchange.isFor promise) = dispatcher.holdings promise := by
  -- Both look at the connections first and at the queues afterwards.
  rw [held, holdings, List.countP_append, List.countP_filterMap, Roster.count]
  congr 1
  refine List.countP_congr fun entry _ => ?_
  obtain ⟨key, connection⟩ := entry
  dsimp only [Connection.carries]
  cases connection.exchange <;> rfl

/-- An exchange that is held counts as a holding. -/
theorem holdings_pos {exchange : Exchange} (held : exchange ∈ dispatcher.held) :
    0 < dispatcher.holdings exchange.promise := by
  rw [← countP_held]
  exact List.countP_pos_iff.2 ⟨exchange, held, by simp [Exchange.isFor]⟩

/-- Where one thing at most has a property, two that have it are the same. -/
theorem eq_of_countP_le_one {α : Type} {property : α → Bool} {values : List α} {first second : α}
    (once : values.countP property ≤ 1) (here : first ∈ values) (holds : property first = true)
    (there : second ∈ values) (alsoHolds : property second = true) : first = second := by
  rw [List.countP_eq_length_filter] at once
  have one := List.mem_filter.2 ⟨here, holds⟩
  have other := List.mem_filter.2 ⟨there, alsoHolds⟩
  match values.filter property, once, one, other with
  | [only], _, one, other => rw [List.mem_singleton.1 one, List.mem_singleton.1 other]

/-- Where promises are held once at most, two exchanges that are held have different ones. -/
theorem held_unique {exchange other : Exchange} (once : dispatcher.holdings exchange.promise ≤ 1)
    (held : exchange ∈ dispatcher.held) (alsoHeld : other ∈ dispatcher.held)
    (same : other.promise = exchange.promise) : other = exchange := by
  rw [← countP_held] at once
  exact eq_of_countP_le_one once alsoHeld (by simp [Exchange.isFor, same]) held
    (by simp [Exchange.isFor])

/-- The exchange of a promise that is in a queue waits there. -/
theorem queued_of_places {host : String}
    (member : .queue host ∈ dispatcher.places promise) :
    ∃ exchange ∈ dispatcher.pools.queued, exchange.promise = promise := by
  rcases List.mem_append.1 member with carried | waits
  · -- A place on a connection is not one in a queue.
    obtain ⟨entry, _, same⟩ := List.mem_map.1 carried
    cases same
  · obtain ⟨⟨other, pool⟩, inside, found⟩ := List.mem_flatMap.1 waits
    obtain ⟨exchange, queued, _⟩ := List.mem_map.1 found
    obtain ⟨member, isFor⟩ := List.mem_filter.1 queued
    exact ⟨exchange, Pools.mem_queued.2 ⟨other, pool, Pools.mem_entries.1 inside, member⟩,
      by simpa [Exchange.isFor] using isFor⟩

/-- A journal grows with every move, and no move lets an exchange in. -/
theorem Move.grows (move : dispatcher.Move hand next rest) (accounted : dispatcher.Accounted) :
    ∃ notes, next.journal = dispatcher.journal ++ notes ∧
      ∀ promise, Journal.receipts notes promise = 0 := by
  -- Every move notes something else, and the end of a connection is noted last.
  cases move with
  | discovered absent address => exact ⟨[], (List.append_nil _).symm, fun _ => rfl⟩
  | unreachable found queued error => exact ⟨[_], rfl, fun _ => rfl⟩
  | misdirected found queued rested gone error =>
    exact absurd (accounted.idle found rested) (not_idleAt gone)
  | reused found queued rested present => exact ⟨[_], rfl, fun _ => rfl⟩
  | opened found queued rested room =>
    rename_i host pool exchange waiting
    exact ⟨[.opened dispatcher.connections.nextKey host,
      .started dispatcher.connections.nextKey exchange], List.append_assoc .., fun _ => rfl⟩
  | tended present connected still writeBuffer =>
    exact ⟨[], (List.append_nil _).symm, fun _ => rfl⟩
  | filled present arrival harmless => exact ⟨[_], rfl, fun _ => rfl⟩
  | answered present carried connected decoded reusable => exact ⟨[_], rfl, fun _ => rfl⟩
  | answeredLast present carried decoded =>
    exact ⟨_, accounted.journal_drop present _, fun _ => rfl⟩
  | spoiled present free bytes => exact ⟨_, accounted.journal_drop present _, fun _ => rfl⟩
  | closed present => exact ⟨_, accounted.journal_drop present _, fun _ => rfl⟩
  | retried present carried stale found =>
    rename_i key connection exchange pool
    refine ⟨[.closed key, .requeued exchange.again], ?_, fun _ => rfl⟩
    rw [record, modifyPool, accounted.journal_drop present, List.append_assoc]
    rfl
  | settled held outcome => exact ⟨[_], rfl, fun _ => rfl⟩
  | overdue now => exact ⟨[], (List.append_nil _).symm, fun _ => rfl⟩

/-- A journal grows with every exchange that comes in, which is received once. -/
theorem Entry.grows {exchange : Exchange} (entry : dispatcher.Entry exchange next) :
    ∃ notes, next.journal = dispatcher.journal ++ notes ∧
      ∀ promise, Journal.receipts notes promise = (exchange.isFor promise).toNat := by
  -- The receipt is noted first, whatever becomes of the exchange.
  cases entry with
  | refused error =>
    exact ⟨[.received exchange, .settled exchange.promise (.error error)],
      List.append_assoc .., Journal.receipts_received exchange⟩
  | admitted found => exact ⟨[.received exchange], rfl, Journal.receipts_received exchange⟩

/-- What is true of a dispatcher after exchanges have come in, with an early part of its journal. -/
structure Sound (early : List Transit) (came : List Exchange) (desk : Desk) : Prop where
  accounted : desk.dispatcher.Accounted
  conserved : desk.dispatcher.Conserved desk.inHand
  tallied : desk.dispatcher.Tallied
  received : ∀ promise, Journal.receipts desk.dispatcher.journal promise =
    came.countP (Exchange.isFor promise)
  traced : ∀ promise, came.countP (Exchange.isFor promise) ≤ 1 → desk.dispatcher.Traced promise
  grown : ∃ late, desk.dispatcher.journal = early ++ late

namespace Sound

/-- A new dispatcher is sound. -/
theorem fresh (most : Nat) (keepAlive : Bool) : Sound [] [] ⟨fresh most keepAlive, []⟩ where
  -- Nothing has come in, and nothing is noted.
  accounted := .fresh most keepAlive
  conserved _ := rfl
  tallied key connection present := by
    rw [Dispatcher.fresh, Roster.get?_empty] at present
    cases present
  received _ := rfl
  traced promise _ := .fresh most keepAlive promise
  grown := ⟨[], rfl⟩

/-- Every move keeps a dispatcher sound. -/
theorem move {early : List Transit} {came : List Exchange} {desk after : Desk}
    (moves : desk.Moves after) (sound : Sound early came desk) : Sound early came after := by
  obtain ⟨notes, journal, unreceived⟩ := Move.grows moves sound.accounted
  constructor
  · exact Move.accounted moves sound.accounted
  · exact Move.conserved moves sound.accounted sound.conserved
  · exact Move.tallied moves sound.accounted sound.tallied
  · -- Nothing came in.
    intro promise
    rw [journal, Journal.receipts_append, unreceived, Nat.add_zero]
    exact sound.received promise
  · intro promise once
    refine Move.traced moves sound.accounted sound.conserved sound.tallied ?_
      (sound.traced promise once)
    rw [sound.received]
    exact once
  · obtain ⟨late, grown⟩ := sound.grown
    exact ⟨late ++ notes, by rw [journal, grown, List.append_assoc]⟩

/-- Every exchange that comes in keeps a dispatcher sound. -/
theorem enter {early : List Transit} {came : List Exchange} {exchange : Exchange}
    (entry : dispatcher.Entry exchange next) (sound : Sound early came ⟨dispatcher, []⟩) :
    Sound early (came ++ [exchange]) ⟨next, []⟩ := by
  obtain ⟨notes, journal, comes⟩ := entry.grows
  -- The exchange that comes in is the last one of those that have come.
  have received : ∀ promise, Journal.receipts next.journal promise =
      (came ++ [exchange]).countP (Exchange.isFor promise) := by
    intro promise
    have before : Journal.receipts dispatcher.journal promise = _ := sound.received promise
    rw [journal, Journal.receipts_append, comes, List.countP_append, countP_isFor_cons,
      List.countP_nil]
    omega
  constructor
  · exact entry.accounted sound.accounted
  · exact entry.conserved sound.conserved
  · exact entry.tallied sound.tallied
  · exact received
  · intro promise once
    refine entry.traced (by rw [received]; exact once) (sound.traced promise ?_)
    -- If it came once at most until now, then it did so before.
    rw [List.countP_append] at once
    omega
  · obtain ⟨late, grown⟩ := sound.grown
    exact ⟨late ++ notes, by rw [journal, ← List.append_assoc]; exact congrArg (· ++ notes) grown⟩

/-- Errands keep a dispatcher sound. -/
theorem attendAll {early : List Transit} {came : List Exchange} (net : Nat → HandoverIo)
    (errands : List Errand) (sound : Sound early came ⟨dispatcher, []⟩) :
    Sound early (came ++ submitted errands) ⟨dispatcher.attendAll net errands, []⟩ :=
  attendAll_keeps (Sound early) (fun _ _ _ => move) (fun _ _ _ _ => enter) net errands came sound

/-- While nothing is in hand, what has come in was settled or is held. -/
theorem balance {early : List Transit} {came : List Exchange}
    (sound : Sound early came ⟨dispatcher, []⟩) (promise : Nat) :
    came.countP (Exchange.isFor promise) =
      (Journal.settlements dispatcher.journal promise).length + dispatcher.holdings promise :=
  (sound.received promise).symm.trans (sound.conserved promise)

/-- An exchange that came in once is held in one place, or was settled and is held nowhere. -/
theorem held_or_settled {early : List Transit} {came : List Exchange}
    (sound : Sound early came ⟨dispatcher, []⟩)
    (one : came.countP (Exchange.isFor promise) = 1) :
    (Journal.settlements dispatcher.journal promise = [] ∧
        ∃ place, dispatcher.places promise = [place]) ∨
      ∃ outcome, Journal.settlements dispatcher.journal promise = [outcome] ∧
        dispatcher.places promise = [] := by
  -- The settlements and the places are one together.
  have balance := sound.balance promise
  have held := length_places dispatcher promise
  rw [one] at balance
  rcases Nat.eq_zero_or_pos (Journal.settlements dispatcher.journal promise).length with
    unsettled | positive
  · left
    refine ⟨List.eq_nil_of_length_eq_zero unsettled, ?_⟩
    exact List.length_eq_one_iff.1 (by omega)
  · right
    obtain ⟨outcome, settled⟩ := List.length_eq_one_iff.1
      (by omega : (Journal.settlements dispatcher.journal promise).length = 1)
    exact ⟨outcome, settled, List.eq_nil_of_length_eq_zero (by omega)⟩

end Sound

/-- Rejecting exchanges one after the other does not change where others are held. -/
theorem places_rejectAll (dispatcher : Dispatcher) (exchanges : List Exchange)
    (error : Exchange → Error) (promise : Nat) :
    (exchanges.foldl (fun dispatcher exchange => dispatcher.reject exchange (error exchange))
        dispatcher).places promise = dispatcher.places promise := by
  rw [rejectAll_eq]
  rfl

/-- Everything that is held or given at the end is settled once more. -/
theorem length_settlements_abort (dispatcher : Dispatcher) (others : List Exchange)
    (promise : Nat) :
    (Journal.settlements (dispatcher.abort others).journal promise).length =
      (Journal.settlements dispatcher.journal promise).length + dispatcher.holdings promise +
        others.countP (Exchange.isFor promise) := by
  have counted : ∀ exchanges : List Exchange, (Journal.settlements (exchanges.map fun exchange =>
      .settled exchange.promise (.error .shutdown)) promise).length =
        exchanges.countP (Exchange.isFor promise) := by
    -- Every rejection is a settlement of its own promise.
    intro exchanges
    induction exchanges with
    | nil => rfl
    | cons exchange rest ih =>
      have first := Journal.settlements_settled exchange (.error .shutdown) promise
      rw [List.map_cons, ← List.singleton_append, Journal.settlements_append, List.length_append,
        first, ih, countP_isFor_cons, Nat.add_comm]
  -- Both what is held and what is added is rejected.
  rw [abort, rejectAll_eq, Journal.settlements_append, List.length_append, counted,
    List.countP_append, countP_held, Nat.add_assoc]

/-- Nothing is started at the end. -/
theorem starts_abort (dispatcher : Dispatcher) (others : List Exchange) (promise : Nat) :
    ∃ notes, (dispatcher.abort others).journal = dispatcher.journal ++ notes ∧
      Journal.starts notes promise = 0 := by
  -- All that is noted is settlements.
  refine ⟨_, by rw [abort, rejectAll_eq], ?_⟩
  rw [Journal.starts, List.countP_map, List.countP_eq_zero]
  simp [Transit.starts]

/-- Nothing is held after the end. -/
theorem places_abort (dispatcher : Dispatcher) (others : List Exchange) (promise : Nat) :
    (dispatcher.abort others).places promise = [] := by
  -- The connections and the pools are gone before anything is rejected.
  rw [abort, places_rejectAll]
  rfl

/-- A promise that is settled once at most stays as it was settled first. -/
theorem settled_for_good {journal notes : List Transit} {outcome : Outcome Response}
    (first : Journal.settlements journal promise = [outcome])
    (once : (Journal.settlements (journal ++ notes) promise).length ≤ 1) :
    Journal.settlements (journal ++ notes) promise = [outcome] := by
  -- There is no room for another settlement behind the first one.
  rw [Journal.settlements_append, first] at once ⊢
  rw [List.length_append, List.length_singleton] at once
  rw [List.eq_nil_of_length_eq_zero (by omega : (Journal.settlements notes promise).length = 0),
    List.append_nil]

/-- Exchanges with promises of their own are one for every promise at most. -/
theorem countP_le_one {exchanges : List Exchange}
    (distinct : (exchanges.map Exchange.promise).Nodup) (promise : Nat) :
    exchanges.countP (Exchange.isFor promise) ≤ 1 := by
  -- To count the exchanges for a promise is to count the promise.
  have once := List.nodup_iff_count.1 distinct promise
  rw [List.count, List.countP_map] at once
  exact once

/-- Among exchanges with promises of their own, each is the only one for its promise. -/
theorem countP_eq_one {exchanges : List Exchange} {exchange : Exchange}
    (distinct : (exchanges.map Exchange.promise).Nodup) (member : exchange ∈ exchanges) :
    exchanges.countP (Exchange.isFor exchange.promise) = 1 := by
  have once := countP_le_one distinct exchange.promise
  have least : 0 < exchanges.countP (Exchange.isFor exchange.promise) :=
    List.countP_pos_iff.2 ⟨exchange, member, by simp [Exchange.isFor]⟩
  omega

/-- At the end everything that came in or was given is settled, once for each time. -/
theorem Sound.length_settlements_abort {early : List Transit} {came : List Exchange}
    (sound : Sound early came ⟨dispatcher, []⟩) (others : List Exchange) (promise : Nat) :
    (Journal.settlements (dispatcher.abort others).journal promise).length =
      (came ++ others).countP (Exchange.isFor promise) := by
  -- What was settled before and what was held until the end make up all that came in.
  have balance := sound.balance promise
  have last := Dispatcher.length_settlements_abort dispatcher others promise
  rw [List.countP_append]
  omega

/--
Every exchange that comes in is settled exactly once, and held in one place until then.

The exchanges have promises of their own. After any errands, each that came in is either held in one
place, on a connection or in a queue, or its promise is settled, for good, and it is held nowhere
any more. When the dispatcher ends, every exchange that came in before or is given then is settled
once. None was started more than twice, and the second time only after a connection that had been
used before was closed without a byte of an answer.
-/
theorem settled_once (net : Nat → HandoverIo) (most : Nat) (keepAlive : Bool)
    (errands later : List Errand) (others : List Exchange)
    (distinct : ((submitted (errands ++ later) ++ others).map Exchange.promise).Nodup) :
    let early := (fresh most keepAlive).attendAll net errands
    let late := early.attendAll net later
    let ended := late.abort others
    (∀ exchange ∈ submitted errands,
      (Journal.settlements early.journal exchange.promise = [] ∧
        ∃ place, early.places exchange.promise = [place]) ∨
      ∃ outcome, Journal.settlements early.journal exchange.promise = [outcome] ∧
        early.places exchange.promise = [] ∧ late.places exchange.promise = [] ∧
        Journal.settlements ended.journal exchange.promise = [outcome]) ∧
    ∀ exchange ∈ submitted (errands ++ later) ++ others,
      (∃ outcome, Journal.settlements ended.journal exchange.promise = [outcome]) ∧
      ended.places exchange.promise = [] ∧
      Journal.starts ended.journal exchange.promise ≤ 2 ∧
      Journal.Excused ended.journal exchange.promise := by
  intro early late ended
  have parted : submitted (errands ++ later) = submitted errands ++ submitted later :=
    List.filterMap_append
  rw [parted] at distinct ⊢
  have distinctLate : ((submitted errands ++ submitted later).map Exchange.promise).Nodup := by
    rw [List.map_append] at distinct
    exact (List.nodup_append.1 distinct).1
  have distinctEarly : ((submitted errands).map Exchange.promise).Nodup := by
    rw [List.map_append] at distinctLate
    exact (List.nodup_append.1 distinctLate).1
  -- The run is cut where the first errands end, and is sound in both parts.
  have soundEarly : Sound [] (submitted errands) ⟨early, []⟩ :=
    (Sound.fresh most keepAlive).attendAll net errands
  have soundLate : Sound early.journal (submitted errands ++ submitted later) ⟨late, []⟩ :=
    Sound.attendAll net later { soundEarly with grown := ⟨[], (List.append_nil _).symm⟩ }
  constructor
  · intro exchange member
    rcases soundEarly.held_or_settled (countP_eq_one distinctEarly member) with
      held | ⟨outcome, settled, nowhere⟩
    · exact .inl held
    · -- It came in once only, so that it is neither held nor settled again.
      right
      have cameIn : exchange ∈ submitted errands ++ submitted later :=
        List.mem_append_left _ member
      obtain ⟨more, grown⟩ : ∃ more, late.journal = early.journal ++ more := soundLate.grown
      have stays : Journal.settlements late.journal exchange.promise = [outcome] ∧
          late.places exchange.promise = [] := by
        rcases soundLate.held_or_settled (countP_eq_one distinctLate cameIn) with
          ⟨unsettled, _⟩ | ⟨again, settledAgain, nowhereAgain⟩
        · rw [grown, Journal.settlements_append, settled] at unsettled
          cases unsettled
        · refine ⟨?_, nowhereAgain⟩
          rw [grown]
          refine settled_for_good settled ?_
          rw [← grown, settledAgain]
          exact Nat.le_refl 1
      obtain ⟨last, finished, _⟩ := starts_abort late others exchange.promise
      refine ⟨outcome, settled, nowhere, stays.2, ?_⟩
      show Journal.settlements (late.abort others).journal exchange.promise = [outcome]
      rw [finished]
      refine settled_for_good stays.1 ?_
      rw [← finished, soundLate.length_settlements_abort]
      exact countP_le_one distinct _
  · intro exchange member
    have settled := soundLate.length_settlements_abort others exchange.promise
    rw [countP_eq_one distinct member] at settled
    have traced := soundLate.traced exchange.promise (countP_le_one distinctLate _)
    -- Nothing is started at the end, so that what was true of the starts stays true.
    obtain ⟨notes, journal, nothing⟩ := starts_abort late others exchange.promise
    refine ⟨List.length_eq_one_iff.1 settled, places_abort late others _, ?_, ?_⟩
    · rw [journal, Journal.starts_append, nothing]
      exact traced.few
    · rw [journal]
      exact traced.excused.append nothing

/--
One request that comes in before its host is known, one that comes in later, and one that is given
at the end.
-/
theorem settled_once_three :
    let ask (promise : Nat) : Exchange :=
      { promise, request := { method := .get, target := "/" }, authority := "localhost:80"
        timeout := .ofSecs 30, deadline := ⟨30⟩ }
    let net : Nat → HandoverIo := fun asked =>
      { connect := fun _ => .ok (), departure := ⟨0, none⟩
        lookup := fun _ =>
          if asked = 0 then .error unknownHost else .ok [(.v4 [127, 0, 0, 1], 0)] }
    let early := (fresh 1 true).attendAll net [.submit (ask 0)]
    let late := early.attendAll net [.expire ⟨7⟩, .submit (ask 1)]
    ((submitted [.submit (ask 0), .expire ⟨7⟩, .submit (ask 1)] ++ [ask 2]).map
        Exchange.promise).Nodup ∧
      early.journal = [.received (ask 0), .settled 0 (.error (.transport unknownHost))] ∧
      late.places 1 ≠ [] ∧
      ∀ exchange ∈ [ask 0, ask 1, ask 2],
        (∃ outcome, Journal.settlements (late.abort [ask 2]).journal exchange.promise = [outcome]) ∧
        (late.abort [ask 2]).places exchange.promise = [] := by
  intro ask net early late
  have distinct : ((submitted [.submit (ask 0), .expire ⟨7⟩, .submit (ask 1)] ++ [ask 2]).map
      Exchange.promise).Nodup := by decide
  refine ⟨distinct, by decide +kernel, by decide +kernel, fun exchange member => ?_⟩
  obtain ⟨settled, gone, _⟩ := (settled_once net 1 true [.submit (ask 0)]
    [.expire ⟨7⟩, .submit (ask 1)] [ask 2] distinct).2 exchange member
  exact ⟨settled, gone⟩

end Dispatcher

end HttpEngine
