import HttpEngine.Outbound.Client

/-!
What a client does as a whole is acts, one after the other. A sending is its issue and three more
steps, and a shutdown is its beginning, the tellings and what every thread does then; so whatever is
true after any acts is true after these.
-/

namespace HttpEngine

namespace Client

/-- The client after some acts. -/
def run (net : Nat → Nat → HandoverIo) (client : Client) (acts : List Act) : Client :=
  acts.foldl (step net) client

variable {net : Nat → Nat → HandoverIo}

/-- Acts before and acts after. -/
theorem run_append (net : Nat → Nat → HandoverIo) (client : Client) (earlier later : List Act) :
    client.run net (earlier ++ later) = (client.run net earlier).run net later :=
  List.foldl_append

section Sending

/-- No step of a sending has to do with the other sendings. -/
theorem sendings_advance (client : Client) (sending : Sending) :
    (client.advance sending).1.sendings = client.sendings := by
  cases sending with
  | begun exchange =>
    -- It goes on or is turned away, and neither has to do with the list.
    dsimp only [advance]
    split <;> rfl
  | admitted exchange => rfl
  | addressed exchange index =>
    -- The command may be taken, which changes a thread only.
    dsimp only [advance, deliver?]
    cases client.threads[index]?.bind (·.deliver? (.submit exchange)) <;> rfl

/-- The sending at the end of the list goes on, and comes back there if it is not over. -/
theorem step_advance_last (client : Client) (sending : Sending) :
    (client.addSending sending).step net (.advance client.sendings.length) =
      ((client.advance sending).2.elim (client.advance sending).1
        (client.advance sending).1.addSending) := by
  -- The sending is the last one, and the others are all in front of it.
  have last : (client.addSending sending).sendings[client.sendings.length]? = some sending :=
    List.getElem?_concat_length
  have others : { client.addSending sending with
      sendings := (client.addSending sending).sendings.eraseIdx client.sendings.length } =
        client := by
    simp only [addSending, List.eraseIdx_append_of_length_le (Nat.le_refl _), Nat.sub_self,
      List.eraseIdx_cons_zero, List.append_nil]
  unfold step
  dsimp only
  rw [last]
  dsimp only
  rw [others]
  -- A sending that is over leaves the list, and one that goes on stands at its end again.
  cases client.advance sending with
  | mk next further => cases further <;> rfl

/-- Behind the end of the list no sending goes on. -/
theorem step_advance_beyond (client : Client) :
    client.step net (.advance client.sendings.length) = client := by
  unfold step
  dsimp only
  rw [List.getElem?_eq_none (Nat.le_refl _)]

/-- Behind the end of the list no sending goes on, however often it is tried. -/
theorem run_advance_beyond (client : Client) (steps : Nat) :
    client.run net (List.replicate steps (.advance client.sendings.length)) = client := by
  induction steps with
  | zero => rfl
  | succ steps ih =>
    rw [List.replicate_succ, run, List.foldl_cons, step_advance_beyond]
    exact ih

/-- How many steps a sending is from its end. -/
def stepsLeft : Sending → Nat
  | .begun _ => 3
  | .admitted _ => 2
  | .addressed _ _ => 1

/-- Every step brings a sending nearer to its end. -/
theorem stepsLeft_advance {client : Client} {sending further : Sending}
    (goesOn : (client.advance sending).2 = some further) :
    stepsLeft further + 1 = stepsLeft sending := by
  cases sending with
  | begun exchange =>
    -- The client may have been shut down, and then there are no more steps.
    dsimp only [advance] at goesOn
    split at goesOn
    · cases goesOn
    · cases goesOn
      rfl
  | admitted exchange =>
    cases goesOn
    rfl
  | addressed exchange index =>
    -- An addressed exchange has its last step.
    cases goesOn

/-- The steps of a sending are acts on the sending at the end of the list. -/
theorem carry_eq_run (client : Client) {sending : Sending} {steps : Nat}
    (enough : stepsLeft sending ≤ steps) :
    carry steps client sending =
      (client.addSending sending).run net
        (List.replicate steps (.advance client.sendings.length)) := by
  induction steps generalizing client sending with
  | zero =>
    -- Every sending has a step before it.
    cases sending <;> cases enough
  | succ steps ih =>
    rw [List.replicate_succ, run, List.foldl_cons, step_advance_last, carry]
    -- The step leaves the others where they are, and has one step less before it.
    have same := sendings_advance client sending
    have nearer := @stepsLeft_advance client sending
    cases moved : client.advance sending with
    | mk next further =>
      rw [moved] at same nearer
      dsimp only at same nearer ⊢
      rw [← same]
      cases further with
      | none =>
        -- The steps behind the last one find nothing at that place.
        exact (run_advance_beyond next steps).symm
      | some further =>
        have left := nearer rfl
        exact ih next (by omega)

/-- A whole sending is an issue and three steps, with nothing else in between. -/
theorem send_eq_run (net : Nat → Nat → HandoverIo) (client : Client) (draft : Draft)
    (now : Instant) :
    (client.send draft now).1 =
      client.run net
        (.issue draft now :: List.replicate 3 (.advance client.sendings.length)) := by
  rw [run, List.foldl_cons, send, step]
  -- If there is no exchange, there is nothing to carry.
  cases issued : client.issue draft now with
  | error error => exact (run_advance_beyond client 3).symm
  | ok result =>
    obtain ⟨next, exchange⟩ := result
    -- The issue of the promise leaves the other sendings alone.
    have same : next.sendings = client.sendings := by
      unfold issue at issued
      split at issued <;> cases issued
      rfl
    dsimp only
    -- The sending stands behind the others, which are as many as before.
    rw [← same]
    exact carry_eq_run next (Nat.le_refl 3)

end Sending

section Threads

/-- What one thread does, one act after the other. -/
theorem run_thread (net : Nat → Nat → HandoverIo) (client : Client) (index : Nat)
    (acts : List ThreadAct) :
    client.run net (acts.map (.thread index)) =
      { client with
        threads := client.threads.modify index fun thread =>
          acts.foldl (IoThread.step (net index)) thread } := by
  induction acts generalizing client with
  | nil =>
    -- Without acts every thread is left as it is.
    have same : (fun thread : IoThread => thread) = id := rfl
    simp [run, same]
  | cons act rest ih =>
    rw [List.map_cons, run, List.foldl_cons]
    -- Two changes of one thread are one change.
    refine (ih _).trans ?_
    simp [step, List.modify_modify_eq, Function.comp_def]

/-- A change right behind the front of a list. -/
theorem modify_behind {α : Type} (front back : List α) (value : α) (change : α → α) :
    (front ++ value :: back).modify front.length change = front ++ change value :: back := by
  induction front with
  | nil => rfl
  | cons first front ih =>
    rw [List.cons_append, List.length_cons, List.modify_succ_cons, ih, List.cons_append]

/-- What every thread does, one thread after the other. -/
theorem exists_run_threads (net : Nat → Nat → HandoverIo) (client : Client)
    (work : Nat → IoThread → List ThreadAct) :
    ∃ acts, client.run net acts =
      { client with
        threads := client.threads.mapIdx fun index thread =>
          (work index thread).foldl (IoThread.step (net index)) thread } := by
  -- The threads in front have done their work, and the rest follows.
  have follow : ∀ (rest done : List IoThread) (client : Client), client.threads = done ++ rest →
      ∃ acts, client.run net acts =
        { client with
          threads := done ++ rest.mapIdx fun index thread =>
            (work (done.length + index) thread).foldl
              (IoThread.step (net (done.length + index))) thread } := by
    intro rest
    induction rest with
    | nil =>
      -- No thread is left.
      intro done client all
      exact ⟨[], by simp [run, ← all]⟩
    | cons thread rest ih =>
      intro done client all
      -- The first of the remaining threads is behind those that are done.
      have first := run_thread net client done.length (work done.length thread)
      rw [all, modify_behind] at first
      obtain ⟨acts, last⟩ := ih
        (done ++ [(work done.length thread).foldl (IoThread.step (net done.length)) thread])
        (client.run net ((work done.length thread).map (.thread done.length)))
        (by rw [first, List.append_assoc, List.singleton_append])
      refine ⟨(work done.length thread).map (.thread done.length) ++ acts, ?_⟩
      rw [run_append, last, first]
      simp [List.mapIdx_cons, Nat.add_assoc, Nat.add_comm 1]
  obtain ⟨acts, all⟩ := follow client.threads [] client rfl
  exact ⟨acts, by simpa using all⟩

/-- A thread that takes in its inbox takes its commands one after the other. -/
theorem receiveAll_eq (net : Nat → HandoverIo) (thread : IoThread) :
    thread.receiveAll net =
      (thread.inbox.map fun _ => .receive).foldl (IoThread.step net) thread := by
  rw [IoThread.receiveAll, List.foldl_map]

/-- That every thread takes in its inbox is acts of the threads. -/
theorem receiveAll_eq_run (net : Nat → Nat → HandoverIo) (client : Client) :
    ∃ acts, client.receiveAll net = client.run net acts := by
  obtain ⟨acts, all⟩ := exists_run_threads net client fun _ thread =>
    thread.inbox.map fun _ => .receive
  refine ⟨acts, ?_⟩
  rw [all, receiveAll]
  simp only [receiveAll_eq]

/-- A whole shutdown is its beginning, the tellings, and acts of the threads. -/
theorem shutdown_eq_run (net : Nat → Nat → HandoverIo) (client : Client) :
    ∃ acts, client.shutdown net = client.run net (.beginShutdown :: acts) := by
  -- What a thread does last depends on whether it has taken the command to stop.
  obtain ⟨acts, all⟩ := exists_run_threads net
    ((List.range (client.stops.length + client.threads.length)).foldl
      (fun client _ => client.tellStop) client.beginShutdown)
    fun index thread =>
      thread.inbox.map (fun _ => .receive) ++
        if (thread.receiveAll (net index)).stage = .stopping then [.abort, .leave] else []
  refine ⟨(List.range (client.stops.length + client.threads.length)).map (fun _ => .tellStop) ++
    acts, ?_⟩
  -- Both sides begin with the shutdown and with the tellings.
  rw [run, List.foldl_cons, List.foldl_append, List.foldl_map]
  refine Eq.trans ?_ all.symm
  rw [shutdown]
  congr 2
  funext index thread
  dsimp only
  -- A thread that has taken the command gives up and leaves, and another one does no more.
  rw [List.foldl_append, ← receiveAll_eq]
  split <;> rfl

end Threads

end Client

end HttpEngine
