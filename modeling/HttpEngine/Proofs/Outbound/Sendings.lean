import HttpEngine.Proofs.Outbound.Acts
import HttpEngine.Proofs.Outbound.Thread
import Mathlib.Algebra.GroupWithZero.Nat

/-!
Where an exchange that a client sends can be: on its way, with one of the threads, or turned away.
Whatever is done in between, it is in one of these places.
-/

namespace HttpEngine

/-- The exchange of a sending has a promise. -/
def Sending.isFor (promise : Nat) (sending : Sending) : Bool := sending.exchange.isFor promise

namespace Client

/-- Everything that one act can do to a client. -/
inductive Shift (net : Nat → Nat → HandoverIo) (client : Client) : Client → Prop where
  | nothing : Shift net client client
  /-- Another promise is given out. -/
  | issued {exchange : Exchange} (new : exchange.promise = client.promises) :
      Shift net client
        { client with
          promises := client.promises + 1, sendings := client.sendings ++ [.begun exchange] }
  /-- A sending sees that the client was not shut down. -/
  | admitted {before after : List Sending} {exchange : Exchange}
      (place : client.sendings = before ++ .begun exchange :: after)
      (running : client.stopped = false) :
      Shift net client { client with sendings := before ++ after ++ [.admitted exchange] }
  /-- A sending chooses a thread. -/
  | addressed {before after : List Sending} {exchange : Exchange}
      (place : client.sendings = before ++ .admitted exchange :: after) (next thread : Nat) :
      Shift net client
        { client with next, sendings := before ++ after ++ [.addressed exchange thread] }
  /-- A sending is over, and its exchange is rejected. -/
  | turnedAway {before after : List Sending} {sending : Sending}
      (place : client.sendings = before ++ sending :: after) :
      Shift net client
        { client with
          sendings := before ++ after, turnedAway := client.turnedAway ++ [sending.exchange] }
  /-- A sending is over, and its exchange is in the inbox of its thread. -/
  | delivered {before after : List Sending} {exchange : Exchange} {index : Nat}
      {thread : IoThread} (place : client.sendings = before ++ .addressed exchange index :: after)
      (there : client.threads[index]? = some thread) (present : thread.stage ≠ .gone) :
      Shift net client
        { client with
          sendings := before ++ after
          threads := client.threads.set index
            { thread with inbox := thread.inbox ++ [.submit exchange] } }
  /-- The shutdown begins. -/
  | stopped (stops : List Nat) : Shift net client { client with stopped := true, stops }
  /-- A thread that is gone need not be told to stop. -/
  | skipped (stops : List Nat) : Shift net client { client with stops }
  /-- A thread is told to stop. -/
  | told {index : Nat} {thread : IoThread} (stops : List Nat)
      (there : client.threads[index]? = some thread) (present : thread.stage ≠ .gone) :
      Shift net client
        { client with
          stops
          threads := client.threads.set index { thread with inbox := thread.inbox ++ [.stop] } }
  /-- A thread does something. -/
  | worked {index : Nat} {thread : IoThread} (act : ThreadAct)
      (there : client.threads[index]? = some thread) :
      Shift net client
        { client with threads := client.threads.set index (thread.step (net index) act) }

section Shift

variable {net : Nat → Nat → HandoverIo} {client next : Client}

/-- A command is put into an inbox, or the thread is not there. -/
theorem deliver?_cases (client : Client) (index : Nat) (command : Command) :
    client.deliver? index command = none ∨
      ∃ thread, client.threads[index]? = some thread ∧ thread.stage ≠ .gone ∧
        client.deliver? index command =
          some { client with
            threads := client.threads.set index
              { thread with inbox := thread.inbox ++ [command] } } := by
  unfold deliver?
  cases there : client.threads[index]? with
  | none => exact .inl rfl
  | some thread =>
    by_cases gone : thread.stage = .gone
    · -- A thread that is gone takes no command.
      exact .inl (by simp [IoThread.deliver?, gone])
    · exact .inr ⟨thread, rfl, gone, by simp [IoThread.deliver?, gone]⟩

/-- The exchange of a draft has the promise that it is made for. -/
theorem promise_of_exchange {draft : Draft} {promise : Nat} {now : Instant} {exchange : Exchange}
    (made : draft.exchange promise now = .ok exchange) : exchange.promise = promise := by
  unfold Draft.exchange at made
  split at made
  · -- A draft without a target or a deadline makes no exchange.
    cases made
  · split at made
    · cases made
    · cases made
      rfl

/-- A list around one of its places. -/
theorem around {α : Type} {values : List α} {place : Nat} {value : α}
    (found : values[place]? = some value) :
    ∃ before after, values = before ++ value :: after ∧
      values.eraseIdx place = before ++ after := by
  obtain ⟨inside, rfl⟩ := List.getElem?_eq_some_iff.1 found
  refine ⟨values.take place, values.drop (place + 1), ?_, List.eraseIdx_eq_take_drop_succ ..⟩
  rw [List.getElem_cons_drop, List.take_append_drop]

/-- A change of one place. -/
theorem modify_eq_set {α : Type} {values : List α} {place : Nat} {value : α}
    (found : values[place]? = some value) (change : α → α) :
    values.modify place change = values.set place (change value) := by
  obtain ⟨inside, rfl⟩ := List.getElem?_eq_some_iff.1 found
  apply List.ext_getElem?
  intro other
  rw [List.getElem?_modify, List.getElem?_set]
  by_cases here : place = other
  · -- The place itself holds the changed value, and the others hold what they held.
    subst here
    simp [inside]
  · simp [here]

/-- Every act is one of these. -/
theorem shift_step (net : Nat → Nat → HandoverIo) (client : Client) (act : Act) :
    client.Shift net (client.step net act) := by
  cases act with
  | issue draft now =>
    unfold step issue
    dsimp only
    split
    · -- A draft either makes an exchange, or its promise is rejected at once.
      rename_i fresh exchange issued
      split at issued
      · cases issued
      · rename_i made
        cases issued
        exact .issued (promise_of_exchange made)
    · exact .nothing
  | advance place =>
    unfold step
    dsimp only
    cases found : client.sendings[place]? with
    | none => exact .nothing
    | some sending =>
      -- The sending leaves its place, and comes back behind the others if it is not over.
      obtain ⟨before, after, place, erased⟩ := around found
      rw [erased]
      cases sending with
      | begun exchange =>
        dsimp only [advance]
        -- A client that was shut down turns the exchange away.
        split
        · rename_i further moved
          split at moved
          · cases moved
          · rename_i open_
            cases moved
            rw [Bool.or_eq_true, not_or, Bool.not_eq_true] at open_
            exact .admitted place open_.1
        · rename_i turned moved
          split at moved
          · cases moved
            exact .turnedAway place
          · cases moved
      | admitted exchange =>
        -- The thread is chosen in turn.
        exact .addressed place _ _
      | addressed exchange index =>
        dsimp only [advance]
        -- The command may come too late for its thread.
        rcases deliver?_cases { client with sendings := before ++ after } index
          (.submit exchange) with absent | ⟨thread, there, present, delivered⟩
        · rw [absent]
          exact .turnedAway place
        · rw [delivered]
          exact .delivered place there present
  | beginShutdown =>
    unfold step beginShutdown
    dsimp only
    split
    · -- A second shutdown does nothing.
      exact .nothing
    · exact .stopped _
  | tellStop =>
    unfold step tellStop
    dsimp only
    split
    · exact .nothing
    · -- One more thread is told to stop, if it is still there.
      rename_i index rest _
      rcases deliver?_cases { client with stops := rest } index .stop with
        absent | ⟨thread, there, present, delivered⟩
      · rw [absent]
        exact .skipped rest
      · rw [delivered]
        exact .told rest there present
  | thread index act =>
    unfold step
    dsimp only
    cases there : client.threads[index]? with
    | none =>
      -- There is no such thread, and nothing happens.
      rw [List.modify_eq_self (List.getElem?_eq_none_iff.1 there)]
      exact .nothing
    | some thread =>
      rw [modify_eq_set there]
      exact .worked act there

end Shift

/-- How often the exchange of a promise is with a thread, turned away, or on its way. -/
def tally (client : Client) (promise : Nat) : Nat :=
  (client.threads.map (·.account promise)).sum +
    client.turnedAway.countP (Exchange.isFor promise) +
    client.sendings.countP (Sending.isFor promise)

/-- A client in which every promise that was given out has its exchange in one place. -/
structure Orderly (client : Client) : Prop where
  threads : ∀ thread ∈ client.threads, thread.Orderly
  tally : ∀ promise, client.tally promise = if promise < client.promises then 1 else 0

/-- What is summed up after one of the values has changed. -/
theorem sum_map_set {α : Type} (weight : α → Nat) {values : List α} {place : Nat} {old : α}
    (found : values[place]? = some old) (value : α) :
    ((values.set place value).map weight).sum + weight old =
      (values.map weight).sum + weight value := by
  -- The induction is on the place, which is the first one or among the others.
  induction values generalizing place with
  | nil => cases found
  | cons first rest ih =>
    cases place with
    | zero =>
      cases found
      simp only [List.set_cons_zero, List.map_cons, List.sum_cons]
      omega
    | succ place =>
      have behind := ih found
      simp only [List.set_cons_succ, List.map_cons, List.sum_cons]
      omega

/-- What is summed up is less if every value weighs less. -/
theorem sum_map_le {α : Type} {weight other : α → Nat} (values : List α)
    (less : ∀ value, weight value ≤ other value) :
    (values.map weight).sum ≤ (values.map other).sum := by
  induction values with
  | nil => exact Nat.le_refl 0
  | cons first rest ih =>
    rw [List.map_cons, List.map_cons, List.sum_cons, List.sum_cons]
    exact Nat.add_le_add (less first) ih

section Orderly

variable {net : Nat → Nat → HandoverIo} {client next : Client} {promise : Nat}

/-- A sending that leaves its place is counted no more. -/
theorem countP_sendings {before after : List Sending} {sending : Sending}
    (place : client.sendings = before ++ sending :: after) (promise : Nat) :
    client.sendings.countP (Sending.isFor promise) =
      (before ++ after).countP (Sending.isFor promise) +
        (sending.exchange.isFor promise).toNat := by
  rw [place, List.countP_append, List.countP_append, List.countP_cons, Sending.isFor]
  -- It is for the promise or for another one.
  cases sending.exchange.isFor promise with
  | false => rfl
  | true =>
    rw [if_pos rfl, Bool.toNat_true]
    omega

/-- A sending counts for its own promise. -/
theorem countP_singleton_isFor (sending : Sending) (promise : Nat) :
    [sending].countP (Sending.isFor promise) = (sending.exchange.isFor promise).toNat := by
  rw [List.countP_singleton, Sending.isFor]
  cases sending.exchange.isFor promise <;> rfl

/-- A command in the inbox of a thread that is there. -/
theorem orderly_deliver {thread : IoThread} (orderly : thread.Orderly)
    (present : thread.stage ≠ .gone) (command : Command) :
    ({ thread with inbox := thread.inbox ++ [command] } : IoThread).Orderly ∧
      ∀ promise, ({ thread with inbox := thread.inbox ++ [command] } : IoThread).account promise =
        thread.account promise + command.exchange?.toList.countP (Exchange.isFor promise) := by
  refine ⟨⟨orderly.sound, orderly.empty, fun gone => absurd gone present⟩, fun promise => ?_⟩
  -- What is unread is what the commands in the inbox bring.
  rw [IoThread.account, IoThread.account, IoThread.unread, IoThread.unread]
  dsimp only
  rw [List.filterMap_append, List.countP_append]
  cases command with
  | submit exchange => exact (Nat.add_assoc ..).symm
  | stop => rfl

/-- A sending that goes on stays the one place where its exchange is. -/
theorem Orderly.resent (orderly : client.Orderly) {before after : List Sending}
    {sending : Sending} (place : client.sendings = before ++ sending :: after)
    (further : Sending) (same : further.exchange = sending.exchange) (next : Nat) :
    ({ client with next, sendings := before ++ after ++ [further] } : Client).Orderly := by
  refine ⟨orderly.threads, fun promise => ?_⟩
  have known := orderly.tally promise
  have left := countP_sendings place promise
  have comes := countP_singleton_isFor further promise
  rw [same] at comes
  rw [Client.tally] at known ⊢
  dsimp only
  rw [List.countP_append, comes]
  -- The sending was counted in its old place, and is counted in the new one.
  omega

/-- One thread changes, in balance with the sendings, and the others stay as they are. -/
theorem Orderly.reworked (orderly : client.Orderly) {index : Nat} {thread changed : IoThread}
    (there : client.threads[index]? = some thread) (own : changed.Orderly)
    (sendings : List Sending) (stops : List Nat)
    (balance : ∀ promise, changed.account promise + sendings.countP (Sending.isFor promise) =
      thread.account promise + client.sendings.countP (Sending.isFor promise)) :
    ({ client with sendings, stops, threads := client.threads.set index changed } :
      Client).Orderly := by
  constructor
  · -- The threads are orderly one by one.
    intro other member
    rcases List.mem_or_eq_of_mem_set member with before | rfl
    · exact orderly.threads other before
    · exact own
  · intro promise
    -- Of the sum over all threads one part has changed, and the sendings make up for it.
    have before := orderly.tally promise
    have moved := sum_map_set (IoThread.account · promise) there changed
    have same := balance promise
    rw [Client.tally] at before ⊢
    dsimp only at moved ⊢
    omega

/-- Every act keeps the exchange of every promise in one place. -/
theorem Shift.orderly (shift : client.Shift net next) (orderly : client.Orderly) :
    next.Orderly := by
  cases shift with
  | nothing => exact orderly
  | issued new =>
    -- A promise was given out, and its exchange is sent.
    rename_i exchange
    refine ⟨orderly.threads, fun promise => ?_⟩
    have before := orderly.tally promise
    rw [tally] at before ⊢
    dsimp only
    rw [List.countP_append, List.countP_singleton]
    -- The new promise is the next one, and it was in no place before.
    have isNew : Sending.isFor promise (.begun exchange) = decide (client.promises = promise) := by
      rw [Sending.isFor, Sending.exchange, Exchange.isFor, new]
      rfl
    rw [isNew]
    by_cases same : client.promises = promise
    · -- Its exchange was nowhere, and is now in one place.
      subst same
      simp only [decide_true, if_true, Nat.lt_irrefl, if_false, Nat.lt_succ_self] at before ⊢
      omega
    · -- For any other promise nothing has changed.
      have alike : promise < client.promises + 1 ↔ promise < client.promises := by omega
      simp only [same, decide_false, Bool.false_eq_true, if_false, alike] at before ⊢
      omega
  | admitted place running => exact orderly.resent place (.admitted _) rfl client.next
  | addressed place next thread => exact orderly.resent place (.addressed _ thread) rfl next
  | turnedAway place =>
    -- The exchange was in the sending alone, and is nowhere afterwards.
    rename_i front back sending
    refine ⟨orderly.threads, fun promise => ?_⟩
    have before := orderly.tally promise
    have left := countP_sendings place promise
    rw [tally] at before ⊢
    dsimp only
    rw [List.countP_append, countP_isFor_cons, List.countP_nil]
    omega
  | delivered place there present =>
    -- The exchange goes from the sending to the inbox of the thread.
    rename_i front back exchange index thread
    obtain ⟨own, account⟩ := orderly_deliver
      (orderly.threads thread (List.mem_of_getElem? there)) present (.submit exchange)
    refine orderly.reworked there own (front ++ back) client.stops fun promise => ?_
    have left := countP_sendings place promise
    dsimp only [Sending.exchange] at left
    rw [account, Command.exchange?, Option.toList_some, countP_isFor_cons, List.countP_nil]
    omega
  | stopped stops => exact ⟨orderly.threads, orderly.tally⟩
  | skipped stops => exact ⟨orderly.threads, orderly.tally⟩
  | told stops there present =>
    -- A command to stop brings no exchange.
    rename_i index thread
    obtain ⟨own, account⟩ := orderly_deliver
      (orderly.threads thread (List.mem_of_getElem? there)) present .stop
    refine orderly.reworked there own client.sendings stops fun promise => ?_
    rw [account]
    rfl
  | worked act there =>
    -- What a thread does at its work keeps the balance of its own exchanges.
    rename_i index thread
    have goesOn := IoThread.step_goesOn (orderly.threads thread (List.mem_of_getElem? there))
      (net index) act
    refine orderly.reworked there goesOn.orderly client.sendings client.stops fun promise => ?_
    rw [goesOn.account]

/-- A new client has given out no promise. -/
theorem orderly_create {options : ClientOptions} {now : Instant} {spawn : Nat → Option IoError}
    (created : create options now spawn = .ok client) : client.Orderly := by
  have account : ∀ promise, (newThread options).account promise = 0 := fun _ => rfl
  -- Only a client with options that hold and with all its threads is created.
  unfold create at created
  split at created
  · cases created
  · split at created
    · cases created
    · cases created
      constructor
      · intro thread member
        rw [List.eq_of_mem_replicate member]
        exact ⟨fun _ => ⟨[], .fresh _ _⟩, fun _ _ => rfl, fun _ => rfl⟩
      · intro promise
        simp [tally, account]

/-- What every act keeps holds at the end, as the exchange of every promise stays in one place. -/
theorem Orderly.run_keeps {Kept : Client → Prop}
    (keeps : ∀ client next, client.Orderly → client.Shift net next → Kept client → Kept next)
    (orderly : client.Orderly) (kept : Kept client) (acts : List Act) :
    (client.run net acts).Orderly ∧ Kept (client.run net acts) := by
  -- Each act is a shift, and a shift keeps the order that the next one needs.
  induction acts generalizing client with
  | nil => exact ⟨orderly, kept⟩
  | cons act rest ih =>
    have shift := shift_step net client act
    exact ih (shift.orderly orderly) (keeps _ _ orderly shift kept)

/-- Any acts keep the exchange of every promise in one place. -/
theorem Orderly.run (orderly : client.Orderly) (acts : List Act) :
    (client.run net acts).Orderly :=
  (orderly.run_keeps (fun _ _ _ _ _ => trivial) trivial acts).1

end Orderly

end Client

end HttpEngine
