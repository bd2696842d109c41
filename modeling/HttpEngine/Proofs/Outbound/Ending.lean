import HttpEngine.Proofs.Outbound.Shutdown

/-!
A whole shutdown ends every thread, and so leaves no promise without an outcome. Every thread that
runs is told to stop, takes in its inbox up to there, gives up what it holds and leaves.
-/

namespace HttpEngine

namespace IoThread

variable {net : Nat → HandoverIo} {thread : IoThread}

/-- A thread that does not run takes in nothing. -/
theorem foldl_receive_of_not_running (idle : thread.stage ≠ .running) (commands : List Command) :
    commands.foldl (fun thread _ => thread.step net .receive) thread = thread := by
  induction commands with
  | nil => rfl
  | cons command rest ih =>
    rw [List.foldl_cons, step, if_neg idle]
    exact ih

/-- A thread that runs takes in its inbox up to the command to stop. -/
theorem stage_receiveAll (running : thread.stage = .running) (told : .stop ∈ thread.inbox) :
    (thread.receiveAll net).stage = .stopping := by
  rw [receiveAll]
  -- By induction on the inbox, which is as long as there are commands to take.
  generalize inbox : thread.inbox = commands at told ⊢
  induction commands generalizing thread with
  | nil => cases told
  | cons command rest ih =>
    rw [List.foldl_cons, step, if_pos running, receive, inbox]
    cases command with
    | submit exchange =>
      -- The exchange is taken in, and the command to stop is among the others.
      exact ih running rfl ((List.mem_cons.1 told).resolve_left fun wrong => by cases wrong)
    | stop =>
      -- The thread stops, and leaves the rest of its inbox unread.
      have idle : ThreadStage.stopping ≠ .running := by decide
      exact congrArg IoThread.stage (foldl_receive_of_not_running idle rest)

/-- A thread that was told to stop is gone after it has given up and left. -/
theorem stage_leave (stopping : thread.stage = .stopping) :
    ((thread.step net .abort).step net .leave).stage = .gone := by
  have working : thread.isWorking = true := by simp [isWorking, stopping]
  rw [step, step, if_pos working]
  rfl

end IoThread

namespace Client

variable {net : Nat → Nat → HandoverIo} {client : Client}

/-- Every thread is gone, or runs and is told to stop now or later. -/
def Summoned (client : Client) : Prop :=
  ∀ index thread, client.threads[index]? = some thread →
    thread.stage = .gone ∨
      thread.stage = .running ∧ (index ∈ client.stops ∨ .stop ∈ thread.inbox)

/-- When a shutdown begins, every thread that runs is to be told to stop. -/
theorem summoned_beginShutdown (running : client.stopped = false)
    (awake : ∀ thread ∈ client.threads, thread.stage = .running ∨ thread.stage = .gone) :
    client.beginShutdown.Summoned := by
  rw [beginShutdown, if_neg (by simp [running])]
  intro index thread there
  obtain ⟨inside, _⟩ := List.getElem?_eq_some_iff.1 there
  -- Whoever runs is among those that are to be told.
  rcases awake thread (List.mem_of_getElem? there) with runs | gone
  · exact .inr ⟨runs, .inl (List.mem_range.2 inside)⟩
  · exact .inl gone

/-- If no thread is to be told, a telling changes nothing. -/
theorem tellStop_of_nil (stops : client.stops = []) : client.tellStop = client := by
  unfold tellStop
  rw [stops]

/-- A telling leaves the command to stop in the inbox of a thread that is not gone. -/
theorem tellStop_eq {first : Nat} {rest : List Nat} (stops : client.stops = first :: rest) :
    client.tellStop =
      { client with
        stops := rest
        threads := client.threads.modify first fun thread =>
          (thread.deliver? .stop).getD thread } := by
  unfold tellStop
  rw [stops]
  dsimp only [deliver?]
  cases there : client.threads[first]? with
  | none =>
    -- There is no such thread, and nobody is told.
    rw [List.modify_eq_self (List.getElem?_eq_none_iff.1 there)]
    rfl
  | some thread =>
    rw [modify_eq_set there, Option.bind_some]
    cases delivered : thread.deliver? .stop with
    | some told => rfl
    | none =>
      -- The thread takes no command any more.
      obtain ⟨inside, own⟩ := List.getElem?_eq_some_iff.1 there
      simp [← own]

/-- A telling reaches the thread that it is for. -/
theorem Summoned.tellStop (summoned : client.Summoned) : client.tellStop.Summoned := by
  cases stops : client.stops with
  | nil =>
    rw [tellStop_of_nil stops]
    exact summoned
  | cons first rest =>
    rw [tellStop_eq stops]
    intro index thread there
    dsimp only at there ⊢
    rw [List.getElem?_modify] at there
    obtain ⟨before, found, rfl⟩ := Option.map_eq_some_iff.1 there
    -- The thread was told before, or is to be told now or later.
    have known := summoned index before found
    rw [stops] at known
    by_cases here : first = index
    · -- It is told now, unless it is gone.
      rw [if_pos here]
      by_cases gone : before.stage = .gone
      · simp [IoThread.deliver?, gone]
      · exact .inr ⟨by simpa [IoThread.deliver?, gone] using (known.resolve_left gone).1,
          .inr (by simp [IoThread.deliver?, gone])⟩
    · -- Whoever is not the first one is to be told later, or was told before.
      rw [if_neg here]
      refine known.imp_right (And.imp_right (Or.imp_left fun member => ?_))
      exact (List.mem_cons.1 member).resolve_left (Ne.symm here)

/-- After as many tellings as there are threads to be told, every thread was told. -/
theorem Summoned.told (summoned : client.Summoned) {times : List Nat}
    (enough : client.stops.length ≤ times.length) :
    ∀ thread ∈ (times.foldl (fun client _ => client.tellStop) client).threads,
      thread.stage = .gone ∨ thread.stage = .running ∧ .stop ∈ thread.inbox := by
  induction times generalizing client with
  | nil =>
    intro thread member
    obtain ⟨index, there⟩ := List.mem_iff_getElem?.1 member
    -- Nobody is left to be told, so that whoever runs was told.
    have empty := List.eq_nil_of_length_eq_zero (Nat.le_zero.1 enough)
    refine (summoned index thread there).imp_right (And.imp_right fun told => ?_)
    rw [empty] at told
    exact told.resolve_left List.not_mem_nil
  | cons time rest ih =>
    refine ih summoned.tellStop ?_
    -- Each telling makes the list of those that are to be told shorter.
    show client.tellStop.stops.length ≤ rest.length
    cases stops : client.stops with
    | nil => simp [tellStop_of_nil stops, stops]
    | cons first others =>
      rw [tellStop_eq stops]
      rw [stops] at enough
      exact Nat.le_of_succ_le_succ enough

/-- A thread that was told to stop is gone in the end, as is one that was gone before. -/
theorem stage_finish (net : Nat → HandoverIo) {thread : IoThread}
    (told : thread.stage = .gone ∨ thread.stage = .running ∧ .stop ∈ thread.inbox) :
    (if (thread.receiveAll net).stage = .stopping then
      ((thread.receiveAll net).step net .abort).step net .leave
    else thread.receiveAll net).stage = .gone := by
  rcases told with gone | ⟨runs, told⟩
  · -- A thread that is gone reads nothing.
    have same : thread.receiveAll net = thread :=
      IoThread.foldl_receive_of_not_running (by simp [gone]) thread.inbox
    rw [same, if_neg (by simp [gone])]
    exact gone
  · -- A thread that was told stops, gives up what it has, and leaves.
    have stopping : (thread.receiveAll net).stage = .stopping :=
      IoThread.stage_receiveAll runs told
    rw [if_pos stopping]
    exact IoThread.stage_leave stopping

/-- No thread is left after a whole shutdown, if every one ran or was gone before. -/
theorem gone_shutdown (net : Nat → Nat → HandoverIo) (running : client.stopped = false)
    (awake : ∀ thread ∈ client.threads, thread.stage = .running ∨ thread.stage = .gone) :
    ∀ thread ∈ (client.shutdown net).threads, thread.stage = .gone := by
  intro thread member
  have begun := summoned_beginShutdown running awake
  -- The shutdown tells at least as many times as there are threads to be told.
  have enough : client.beginShutdown.stops.length ≤
      (List.range (client.stops.length + client.threads.length)).length := by
    simp [beginShutdown, running]
  have told := begun.told enough
  obtain ⟨index, there⟩ := List.mem_iff_getElem?.1 member
  rw [shutdown, List.getElem?_mapIdx] at there
  -- Each thread finishes by itself.
  obtain ⟨before, found, rfl⟩ := Option.map_eq_some_iff.1 there
  exact stage_finish (net index) (told before (List.mem_of_getElem? found))

/--
A whole shutdown leaves no promise without an outcome.

The client has done anything before, and all its threads run or are gone. Then no thread is left,
and every promise that was given out and whose sending is over is settled, once.
-/
theorem settled_by_shutdown (net : Nat → Nat → HandoverIo) (orderly : client.Orderly)
    (running : client.stopped = false)
    (awake : ∀ thread ∈ client.threads, thread.stage = .running ∨ thread.stage = .gone) :
    (∀ thread ∈ (client.shutdown net).threads, thread.stage = .gone) ∧
      ∀ promise, (client.shutdown net).Returned promise →
        ∃ outcome, (client.shutdown net).settlementsOf promise = [outcome] ∧
          (client.shutdown net).outcome? promise = some outcome := by
  have gone := gone_shutdown net running awake
  -- A shutdown is a run of acts, which keeps the exchange of every promise in one place.
  obtain ⟨acts, whole⟩ := shutdown_eq_run net client
  have last : (client.shutdown net).Orderly := by
    rw [whole]
    exact orderly.run _
  refine ⟨gone, fun promise returned => ?_⟩
  -- Where no thread is left, that place can only be a settlement.
  obtain ⟨outcome, one⟩ := List.length_eq_one_iff.1
    (last.length_settlementsOf_eq gone returned)
  exact ⟨outcome, one, by rw [outcome?_eq_head?, one, List.head?_cons]⟩

end Client

end HttpEngine
