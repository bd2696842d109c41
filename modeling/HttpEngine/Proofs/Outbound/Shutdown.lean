import HttpEngine.Proofs.Outbound.Sendings

/-!
No promise is left without an outcome when a client is shut down. What is with a thread when it ends
is rejected, and what comes too late for a thread is turned away.
-/

namespace HttpEngine

namespace Client

/-- How a promise was settled, one outcome after the other. -/
def settlementsOf (client : Client) (promise : Nat) : List (Outcome Response) :=
  client.settlements.filterMap fun (other, outcome) =>
    if other = promise then some outcome else none

/-- A promise that was given out, and whose sending is over. -/
def Returned (client : Client) (promise : Nat) : Prop :=
  promise < client.promises ∧ ∀ sending ∈ client.sendings, sending.isFor promise = false

variable {net : Nat → Nat → HandoverIo} {client next : Client} {promise : Nat}

/-- The outcome of a promise is the first one that it was settled with. -/
theorem outcome?_eq_head? (client : Client) (promise : Nat) :
    client.outcome? promise = (client.settlementsOf promise).head? := by
  rw [outcome?, settlementsOf]
  induction client.settlements with
  | nil => rfl
  | cons settlement rest ih =>
    obtain ⟨other, outcome⟩ := settlement
    by_cases same : other = promise
    · simp [same]
    · simp [same, List.lookup_cons, beq_false_of_ne (Ne.symm same), ih]

/-- A promise whose sending is over is not on its way any more. -/
theorem Returned.countP_sendings (returned : client.Returned promise) :
    client.sendings.countP (Sending.isFor promise) = 0 :=
  List.countP_eq_zero.2 fun sending member => by simp [returned.2 sending member]

/-- The outcomes of a promise: those by the threads, and those of exchanges turned away. -/
theorem settlementsOf_eq (client : Client) (promise : Nat) :
    client.settlementsOf promise =
      client.threads.flatMap
          (fun thread => Journal.settlements thread.dispatcher.journal promise) ++
        (client.turnedAway.filter (Exchange.isFor promise)).map fun _ => .error .shutdown := by
  rw [settlementsOf, settlements, List.filterMap_append, List.filterMap_flatMap,
    List.filterMap_map]
  congr 1
  · -- A note that is no settlement is left out by either reading.
    congr 1
    funext thread
    rw [List.filterMap_filterMap, Journal.settlements]
    congr 1
    funext note
    cases note with
    | settled other outcome => rfl
    | _ => rfl
  · rw [← List.filterMap_eq_filter, List.map_filterMap]
    congr 1
    funext exchange
    by_cases same : exchange.promise = promise <;> simp [Exchange.isFor, Option.guard, same]

/-- A promise was settled by a thread, or its exchange was turned away. -/
theorem mem_settlementsOf {outcome : Outcome Response} :
    outcome ∈ client.settlementsOf promise ↔
      (∃ thread ∈ client.threads, .settled promise outcome ∈ thread.dispatcher.journal) ∨
      outcome = .error .shutdown ∧ ∃ exchange ∈ client.turnedAway, exchange.promise = promise := by
  rw [settlementsOf_eq, List.mem_append, List.mem_flatMap, List.mem_map]
  refine or_congr ?_ ⟨?_, ?_⟩
  · exact exists_congr fun thread => and_congr_right fun _ => Journal.mem_settlements
  · rintro ⟨exchange, member, rfl⟩
    -- An exchange that was turned away is told of the shutdown, and of nothing else.
    obtain ⟨away, own⟩ := List.mem_filter.1 member
    exact ⟨rfl, exchange, away, beq_iff_eq.1 own⟩
  · rintro ⟨rfl, exchange, away, own⟩
    exact ⟨exchange, List.mem_filter.2 ⟨away, beq_iff_eq.2 own⟩, rfl⟩

/-- What is settled and rejected is part of the tally. -/
theorem length_settlementsOf (client : Client) (promise : Nat) :
    (client.settlementsOf promise).length =
      (client.threads.map fun thread =>
        (Journal.settlements thread.dispatcher.journal promise).length).sum +
      client.turnedAway.countP (Exchange.isFor promise) := by
  rw [settlementsOf_eq, List.length_append, List.length_flatMap, List.length_map,
    List.countP_eq_length_filter]

/-- No promise is settled twice. -/
theorem Orderly.length_settlementsOf_le (orderly : client.Orderly) (promise : Nat) :
    (client.settlementsOf promise).length ≤ 1 := by
  have one : client.tally promise ≤ 1 := by
    -- The tally counts every trace of a promise, and of these there is at most one.
    rw [orderly.tally]
    split <;> omega
  have part : (client.threads.map fun thread =>
      (Journal.settlements thread.dispatcher.journal promise).length).sum ≤
        (client.threads.map (·.account promise)).sum :=
    sum_map_le client.threads fun thread => by
      rw [IoThread.account]
      omega
  rw [Client.tally] at one
  rw [length_settlementsOf]
  omega

/-- A promise that was given out is settled once its sending is over and no thread is left. -/
theorem Orderly.length_settlementsOf_eq (orderly : client.Orderly)
    (gone : ∀ thread ∈ client.threads, thread.stage = .gone) (returned : client.Returned promise) :
    (client.settlementsOf promise).length = 1 := by
  -- A sending that has returned is counted no more, so that what is left is a settlement.
  have one := orderly.tally promise
  -- A thread that is gone holds nothing and has no inbox.
  have all : client.threads.map (·.account promise) =
      client.threads.map fun thread =>
        (Journal.settlements thread.dispatcher.journal promise).length := by
    refine List.map_congr_left fun thread member => ?_
    have ended := gone thread member
    have own := orderly.threads thread member
    have inbox := own.closed ended
    rw [IoThread.account, own.empty (by simp [IoThread.isWorking, ended]), IoThread.unread, inbox]
    rfl
  rw [Client.tally, all, returned.countP_sendings, if_pos returned.1] at one
  rw [length_settlementsOf]
  exact one

/-- A note that a thread has made is still there after one thread has changed. -/
theorem mem_journal_set {index : Nat} {thread changed : IoThread} {note : Transit}
    (there : client.threads[index]? = some thread)
    (grown : ∃ notes, changed.dispatcher.journal = thread.dispatcher.journal ++ notes)
    (made : ∃ thread ∈ client.threads, note ∈ thread.dispatcher.journal) :
    ∃ thread ∈ client.threads.set index changed, note ∈ thread.dispatcher.journal := by
  obtain ⟨writer, member, noted⟩ := made
  obtain ⟨place, found⟩ := List.mem_iff_getElem?.1 member
  -- The thread that changes keeps its notes and adds to them.
  by_cases here : index = place
  · subst here
    cases Option.some.inj (there.symm.trans found)
    obtain ⟨inside, -⟩ := List.getElem?_eq_some_iff.1 there
    obtain ⟨notes, journal⟩ := grown
    refine ⟨changed, List.mem_set inside changed, ?_⟩
    rw [journal]
    exact List.mem_append_left _ noted
  · exact ⟨writer, List.mem_of_getElem? (by rw [List.getElem?_set_ne here, found]), noted⟩

/-- An outcome stays. -/
theorem Shift.keeps (shift : client.Shift net next) (orderly : client.Orderly)
    {outcome : Outcome Response} (settled : outcome ∈ client.settlementsOf promise) :
    outcome ∈ next.settlementsOf promise := by
  rw [mem_settlementsOf] at settled ⊢
  -- Nothing that is noted is taken back: threads only add to their notes.
  cases shift with
  | nothing | issued _ | admitted _ _ | addressed _ _ _ | stopped _ | skipped _ => exact settled
  | turnedAway place =>
    refine settled.imp_right fun away => ?_
    obtain ⟨shutdown, exchange, member, own⟩ := away
    exact ⟨shutdown, exchange, List.mem_append_left _ member, own⟩
  | delivered place there present =>
    exact settled.imp_left (mem_journal_set there ⟨[], (List.append_nil _).symm⟩)
  | told stops there present =>
    exact settled.imp_left (mem_journal_set there ⟨[], (List.append_nil _).symm⟩)
  | worked act there =>
    rename_i index thread
    have goesOn := IoThread.step_goesOn (orderly.threads thread (List.mem_of_getElem? there))
      (net index) act
    exact settled.imp_left (mem_journal_set there goesOn.grown)

/-- Whatever a thread gives up is rejected by the shutdown. -/
theorem rejected_of_givesUp (net : Nat → Nat → HandoverIo) {thread : IoThread} {index : Nat}
    {act : ThreadAct} {exchange : Exchange} (there : client.threads[index]? = some thread)
    (givesUp : thread.givesUp act = true)
    (outstanding : exchange ∈ thread.dispatcher.held ++ thread.unread) :
    .error .shutdown ∈ (client.step net (.thread index act)).settlementsOf exchange.promise := by
  -- Three acts give a thread up, and each of them rejects what the thread has.
  obtain ⟨stage, gaveUp⟩ : ∃ stage, thread.step (net index) act = thread.giveUp stage := by
    cases act with
    | receive | ready _ _ _ | expire _ => cases givesUp
    | abort => exact ⟨.aborted, if_pos givesUp⟩
    | leave => exact ⟨.gone, if_pos (beq_iff_eq.1 givesUp)⟩
    | crash => exact ⟨.gone, if_pos givesUp⟩
  obtain ⟨inside, -⟩ := List.getElem?_eq_some_iff.1 there
  rw [mem_settlementsOf]
  left
  refine ⟨thread.giveUp stage, ?_, ?_⟩
  · unfold step
    dsimp only
    rw [modify_eq_set there, gaveUp]
    exact List.mem_set inside _
  · -- Everything that is held and everything that is unread is rejected.
    rw [IoThread.giveUp, Dispatcher.abort, Dispatcher.rejectAll_eq]
    exact List.mem_append_right _ (List.mem_map.2 ⟨exchange, outstanding, rfl⟩)

/-- A promise that no sending has looked at the client for. -/
def Unsent (client : Client) (promise : Nat) : Prop :=
  client.promises ≤ promise ∨
    ∃ exchange, .begun exchange ∈ client.sendings ∧ exchange.promise = promise

/-- A promise that comes too late for every thread. -/
structure Barred (client : Client) (promise : Nat) : Prop where
  stopped : client.stopped = true
  nowhere : ∀ thread ∈ client.threads, thread.account promise = 0
  early : ∀ sending ∈ client.sendings, sending.isFor promise = true →
    ∃ exchange, sending = .begun exchange

/-- Whoever has not looked before the shutdown begins comes too late. -/
theorem Orderly.barred (orderly : client.Orderly) (stopped : client.stopped = true)
    (unsent : client.Unsent promise) : client.Barred promise := by
  have one := orderly.tally promise
  have zero : (client.threads.map (·.account promise)).sum = 0 →
      ∀ thread ∈ client.threads, thread.account promise = 0 := fun nothing thread member =>
    List.sum_eq_zero_iff_forall_eq_nat.1 nothing _ (List.mem_map.2 ⟨thread, member, rfl⟩)
  rw [Client.tally] at one
  rcases unsent with later | ⟨exchange, begun, own⟩
  · -- The promise was not given out yet.
    rw [if_neg (Nat.not_lt.2 later)] at one
    refine ⟨stopped, zero (by omega), fun sending member isFor => ?_⟩
    have foreign := List.countP_eq_zero.1
      (by omega : client.sendings.countP (Sending.isFor promise) = 0) sending member
    exact absurd isFor foreign
  · -- The sending that has begun is the one place where the exchange is.
    have isFor : Sending.isFor promise (.begun exchange) = true := beq_iff_eq.2 own
    have present := List.countP_pos_iff.2 ⟨_, begun, isFor⟩
    have few : client.sendings.countP (Sending.isFor promise) ≤ 1 := by
      split at one <;> omega
    refine ⟨stopped, zero (by split at one <;> omega), fun sending member alsoFor => ?_⟩
    exact ⟨exchange, Dispatcher.eq_of_countP_le_one few member alsoFor begun isFor⟩

/-- Nothing brings a promise that comes too late to a thread. -/
theorem Shift.barred (shift : client.Shift net next) (orderly : client.Orderly)
    (barred : client.Barred promise) : next.Barred promise := by
  -- A sending that goes on has looked at the client, and so is not for the promise.
  have past : ∀ {before after : List Sending} {sending : Sending},
      client.sendings = before ++ sending :: after → (∀ exchange, sending ≠ .begun exchange) →
        sending.isFor promise = false := by
    intro before after sending place further
    refine Bool.eq_false_iff.2 fun isFor => ?_
    obtain ⟨exchange, begun⟩ := barred.early sending (by rw [place]; simp) isFor
    exact further exchange begun
  -- What is left of the sendings when one of them goes on were sendings before.
  have others : ∀ {before after : List Sending} {sending : Sending},
      client.sendings = before ++ sending :: after → ∀ other ∈ before ++ after,
        other.isFor promise = true → ∃ exchange, other = .begun exchange := by
    intro before after sending place other member
    refine barred.early other ?_
    rw [place]
    rcases List.mem_append.1 member with front | back
    · exact List.mem_append_left _ front
    · exact List.mem_append_right _ (List.mem_cons_of_mem _ back)
  -- A thread that changes has as much to do with the promise as is shown of it, and so nothing.
  have changed : ∀ {index : Nat} {thread : IoThread}, thread.account promise = 0 →
      ∀ other ∈ client.threads.set index thread, other.account promise = 0 := by
    intro index thread own other member
    rcases List.mem_or_eq_of_mem_set member with before | rfl
    · exact barred.nowhere other before
    · exact own
  cases shift with
  | nothing => exact barred
  | issued new =>
    -- A new sending has begun only, and will be turned away.
    refine ⟨barred.stopped, barred.nowhere, fun sending member isFor => ?_⟩
    rcases List.mem_append.1 member with before | comes
    · exact barred.early sending before isFor
    · exact ⟨_, List.mem_singleton.1 comes⟩
  | admitted place running =>
    -- Nobody is admitted any more.
    rw [barred.stopped] at running
    cases running
  | addressed place next thread =>
    -- A sending that got its address was admitted, so that it is not for the promise.
    refine ⟨barred.stopped, barred.nowhere, fun sending member isFor => ?_⟩
    rcases List.mem_append.1 member with before | comes
    · exact others place sending before isFor
    · have own : Sending.isFor promise (.admitted _) = false := past place fun _ => nofun
      rw [List.mem_singleton.1 comes] at isFor
      exact absurd (own.symm.trans isFor) nofun
  | turnedAway place => exact ⟨barred.stopped, barred.nowhere, others place⟩
  | delivered place there present =>
    -- Nor is one that is delivered.
    rename_i front back exchange index thread
    have inside := List.mem_of_getElem? there
    obtain ⟨-, account⟩ := orderly_deliver (orderly.threads thread inside) present
      (.submit exchange)
    refine ⟨barred.stopped, changed ?_, others place⟩
    have own : exchange.isFor promise = false := past place fun _ => nofun
    rw [account, barred.nowhere thread inside]
    simp [Command.exchange?, own]
  | stopped stops => exact ⟨rfl, barred.nowhere, barred.early⟩
  | skipped stops => exact ⟨barred.stopped, barred.nowhere, barred.early⟩
  | told stops there present =>
    rename_i index thread
    have inside := List.mem_of_getElem? there
    obtain ⟨-, account⟩ := orderly_deliver (orderly.threads thread inside) present .stop
    refine ⟨barred.stopped, changed ?_, barred.early⟩
    rw [account, barred.nowhere thread inside]
    rfl
  | worked act there =>
    -- What a thread does leaves its account as it is.
    rename_i index thread
    have inside := List.mem_of_getElem? there
    have goesOn := IoThread.step_goesOn (orderly.threads thread inside) (net index) act
    refine ⟨barred.stopped, changed ?_, barred.early⟩
    rw [goesOn.account, barred.nowhere thread inside]

/-- A promise with an outcome has no other. -/
theorem Orderly.settlementsOf_eq_singleton (orderly : client.Orderly) {outcome : Outcome Response}
    (settled : outcome ∈ client.settlementsOf promise) :
    client.settlementsOf promise = [outcome] := by
  have few := orderly.length_settlementsOf_le promise
  match client.settlementsOf promise, few, settled with
  | [only], _, settled => rw [List.mem_singleton.1 settled]

/-- Whatever is done, an outcome stays the only one. -/
theorem Orderly.settlementsOf_run (orderly : client.Orderly) {outcome : Outcome Response}
    (settled : outcome ∈ client.settlementsOf promise) (acts : List Act) :
    (client.run net acts).settlementsOf promise = [outcome] := by
  obtain ⟨later, stays⟩ := orderly.run_keeps
    (fun _ _ before shift kept => shift.keeps before kept) settled acts
  exact later.settlementsOf_eq_singleton stays

/-- A promise that comes too late for every thread is settled by the shutdown alone. -/
theorem Barred.settled (barred : client.Barred promise) {outcome : Outcome Response}
    (settled : outcome ∈ client.settlementsOf promise) : outcome = .error .shutdown := by
  rcases mem_settlementsOf.1 settled with ⟨thread, member, noted⟩ | ⟨shutdown, -⟩
  · -- No thread has anything to do with the promise.
    have nowhere := barred.nowhere thread member
    have positive := List.length_pos_of_mem (Journal.mem_settlements.2 noted)
    rw [IoThread.account] at nowhere
    omega
  · exact shutdown

/-- A promise that comes too late for every thread is turned away when its sending is over. -/
theorem Barred.settled_of_returned (barred : client.Barred promise) (orderly : client.Orderly)
    (returned : client.Returned promise) :
    client.settlementsOf promise = [.error .shutdown] := by
  -- No thread has the exchange and no sending, so it was turned away.
  have one := orderly.tally promise
  have nothing : (client.threads.map (·.account promise)).sum = 0 :=
    List.sum_eq_zero_iff_forall_eq_nat.2 fun count member => by
      obtain ⟨thread, inside, rfl⟩ := List.mem_map.1 member
      exact barred.nowhere thread inside
  rw [Client.tally, nothing, returned.countP_sendings, if_pos returned.1] at one
  obtain ⟨exchange, away, own⟩ := List.countP_pos_iff.1
    (by omega : 0 < client.turnedAway.countP (Exchange.isFor promise))
  exact orderly.settlementsOf_eq_singleton
    (mem_settlementsOf.2 (.inr ⟨rfl, exchange, away, beq_iff_eq.1 own⟩))

/--
No promise is left without an outcome when a client is shut down.

Sendings, the shutdown and the threads do what they do one after the other, in any order. No promise
is settled twice, and every promise that was given out is settled once its sending is over and no
thread is left. What a thread holds or has not read yet when it gives up is rejected by the
shutdown, and so is every exchange that was not looked at before the shutdown began.
-/
theorem settled_across_shutdown (net : Nat → Nat → HandoverIo) {options : ClientOptions}
    {now : Instant} {spawn : Nat → Option IoError} {client : Client}
    (created : create options now spawn = .ok client) (acts : List Act) :
    let final := client.run net acts
    (∀ promise, (final.settlementsOf promise).length ≤ 1) ∧
    ((∀ thread ∈ final.threads, thread.stage = .gone) →
      ∀ promise, final.Returned promise →
        ∃ outcome, final.settlementsOf promise = [outcome]) ∧
    (∀ earlier index act later thread exchange,
      acts = earlier ++ .thread index act :: later →
      (client.run net earlier).threads[index]? = some thread → thread.givesUp act = true →
      exchange ∈ thread.dispatcher.held ++ thread.unread →
        final.settlementsOf exchange.promise = [.error .shutdown]) ∧
    ∀ earlier later promise, acts = earlier ++ later →
      (client.run net earlier).stopped = true → (client.run net earlier).Unsent promise →
        (∀ outcome ∈ final.settlementsOf promise, outcome = .error .shutdown) ∧
        (final.Returned promise → final.settlementsOf promise = [.error .shutdown]) := by
  intro final
  -- The client keeps its books in order, and the claims are read off them.
  have orderly : client.Orderly := orderly_create created
  have last : final.Orderly := orderly.run acts
  refine ⟨last.length_settlementsOf_le, fun gone promise returned => ?_, ?_, ?_⟩
  · exact List.length_eq_one_iff.1 (last.length_settlementsOf_eq gone returned)
  · intro earlier index act later thread exchange split there givesUp outstanding
    -- What is rejected when the thread is given up stays the only settlement.
    have before : (client.run net earlier).Orderly := orderly.run earlier
    have after := (shift_step net _ (.thread index act)).orderly before
    have rejected := rejected_of_givesUp net there givesUp outstanding
    show (client.run net acts).settlementsOf exchange.promise = _
    rw [split, run_append]
    exact after.settlementsOf_run rejected later
  · intro earlier later promise split stopped unsent
    -- From the shutdown on, no sending for the promise gets to a thread.
    have before : (client.run net earlier).Orderly := orderly.run earlier
    have barred : final.Barred promise := by
      show (client.run net acts).Barred promise
      rw [split, run_append]
      exact (before.run_keeps (fun _ _ own shift kept => shift.barred own kept)
        (before.barred stopped unsent) later).2
    exact ⟨fun _ => barred.settled, barred.settled_of_returned last⟩

/-- One request on a connection, one unread at the end, and one that comes too late. -/
theorem settled_across_shutdown_three :
    let net : Nat → Nat → HandoverIo := fun _ _ =>
      { connect := fun _ => .ok (), departure := ⟨0, none⟩ }
    let client : Client :=
      { options := {}
        threads := [{ dispatcher := { maxConnectionsPerHost := 8, keepAlive := true } }] }
    let draft : Draft :=
      { target := .ok { authority := "127.0.0.1:80", path := "/" }
        request := { method := .get, target := "/" }
        timeout := .ofSecs 30 }
    let acts : List Act :=
      [.issue draft ⟨0⟩, .advance 0, .advance 0, .advance 0, .thread 0 .receive, .issue draft ⟨0⟩,
        .advance 0, .beginShutdown, .tellStop, .thread 0 .receive, .issue draft ⟨0⟩, .advance 1,
        .thread 0 .abort, .advance 0, .advance 0, .thread 0 .leave]
    let final := client.run net acts
    create {} ⟨0⟩ (fun _ => none) = .ok client ∧
      final.settlementsOf 0 = [.error .shutdown] ∧
      (∃ outcome, final.settlementsOf 1 = [outcome]) ∧
      final.settlementsOf 2 = [.error .shutdown] := by
  intro net client draft acts final
  have created : create {} ⟨0⟩ (fun _ => none) = .ok client := rfl
  obtain ⟨once, all, givenUp, late⟩ := settled_across_shutdown net created acts
  -- The shutdown has begun before the third request is looked at.
  refine ⟨created, ?_, all ?_ 1 ⟨?_, ?_⟩,
    (late (acts.take 10) (acts.drop 10) 2 rfl ?_ (.inl ?_)).2 ⟨?_, ?_⟩⟩
  · obtain ⟨thread, there, working, exchange, held, own⟩ :
        ∃ thread ∈ (client.run net (acts.take 12)).threads[0]?, thread.givesUp .abort = true ∧
          ∃ exchange ∈ thread.dispatcher.held ++ thread.unread, exchange.promise = 0 := by
      decide +kernel
    rw [← own]
    exact givenUp (acts.take 12) 0 .abort (acts.drop 13) thread exchange rfl there working held
  all_goals decide +kernel

end Client

end HttpEngine
