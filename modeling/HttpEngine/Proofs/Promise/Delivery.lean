import HttpEngine.Proofs.Promise.Run

/-!
Callbacks start once, with the outcome of their promise, whenever they are registered and wherever
the promise is settled. What is registered on a promise is at any time either stored in its cell, or
due on some thread, or has started.
-/

namespace HttpEngine

variable {α σ : Type}

/-- The start of a callback of a promise that a frame is about to bring, if any. -/
def Frame.due? (promise : Nat) : Frame α σ → Option (Start α σ)
  | .task _ => none
  | .call place outcome callback => if place = promise then some (callback.start outcome) else none

/-- The starts of callbacks of a promise that frames are about to bring. -/
def dueOn (promise : Nat) (frames : List (Frame α σ)) : List (Start α σ) :=
  frames.filterMap (Frame.due? promise)

/--
A cell, with the callbacks registered on it, and with the starts that there were or are to be.

A cell that waits stores all its callbacks. A cell with an outcome stores none, and each of them
starts once, with that outcome.
-/
inductive Delivers : Option (Cell α (Callback α σ)) → List (Callback α σ) →
    List (Start α σ) → Prop where
  | absent : Delivers none [] []
  | pending (registered : List (Callback α σ)) : Delivers (some ⟨none, registered⟩) registered []
  | settled {outcome : Outcome α} {registered : List (Callback α σ)} {starts : List (Start α σ)}
      (once : starts.Perm (registered.map fun callback => callback.start outcome)) :
      Delivers (some ⟨some outcome, []⟩) registered starts

/-- The order in which callbacks start does not matter. -/
theorem Delivers.perm {cell? : Option (Cell α (Callback α σ))} {registered : List (Callback α σ)}
    {starts others : List (Start α σ)} (delivers : Delivers cell? registered starts)
    (same : starts.Perm others) : Delivers cell? registered others := by
  cases delivers with
  | absent => rw [List.nil_perm.1 same]; exact .absent
  | pending => rw [List.nil_perm.1 same]; exact .pending registered
  | settled once => exact .settled (same.symm.trans once)

section Frames

variable {promise : Nat}

/-- Code on its own is not about to start a callback. -/
@[simp] theorem dueOn_task (code : Task α σ) (frames : List (Frame α σ)) :
    dueOn promise (.task code :: frames) = dueOn promise frames := rfl

/-- There is nothing to start without frames. -/
@[simp] theorem dueOn_nil : dueOn promise ([] : List (Frame α σ)) = [] := rfl

/-- What several frames are about to start is started by each of them. -/
@[simp] theorem dueOn_append (frames others : List (Frame α σ)) :
    dueOn promise (frames ++ others) = dueOn promise frames ++ dueOn promise others :=
  List.filterMap_append

/-- The callbacks of a promise that become due all start with its outcome. -/
theorem dueOn_map_call (outcome : Outcome α) (due : List (Callback α σ)) :
    dueOn promise (due.map (Frame.call promise outcome)) =
      due.map fun callback => callback.start outcome := by
  simp [dueOn, List.filterMap_map, Function.comp_def, Frame.due?]

/-- The callbacks of another promise have no part in it. -/
theorem dueOn_map_call_of_ne {place : Nat} (other : place ≠ promise) (outcome : Outcome α)
    (due : List (Callback α σ)) : dueOn promise (due.map (Frame.call place outcome)) = [] := by
  simp [dueOn, List.filterMap_map, Function.comp_def, Frame.due?, other]

end Frames

variable {heap : Heap α σ} {promise : Nat} {registered : List (Callback α σ)}
  {starts : List (Start α σ)}

/-- A new promise has no callbacks. -/
theorem Delivers.create (delivers : Delivers heap.cells[promise]? registered starts) :
    Delivers (heap.cells ++ [.pending])[promise]? registered starts := by
  rcases Nat.lt_trichotomy promise heap.cells.length with before | rfl | behind
  · rwa [List.getElem?_append_left before]
  · -- Nothing can be registered on a promise before it is there.
    rw [List.getElem?_eq_none (Nat.le_refl _)] at delivers
    cases delivers
    rw [List.getElem?_concat_length]
    exact .pending []
  · rw [List.getElem?_eq_none (Nat.le_of_lt behind)] at delivers
    rwa [List.getElem?_eq_none (by rw [List.length_append, List.length_singleton]; omega)]

/-- The callbacks that a settling gives up become due, and a refused settling gives up none. -/
theorem Delivers.settle (delivers : Delivers heap.cells[promise]? registered starts) (place : Nat)
    (outcome : Outcome α) :
    Delivers (heap.settle place outcome).1.cells[promise]? registered
      (dueOn promise (((heap.settle place outcome).2.getD []).map (.call place outcome)) ++
        starts) := by
  unfold Heap.settle
  cases accepted : heap.cells[place]?.bind (·.settle? outcome) with
  | none => exact delivers
  | some result =>
    -- Only a cell that waits is settled, and it gives up all that it stores.
    obtain ⟨cell, found, taken⟩ := Option.bind_eq_some_iff.1 accepted
    obtain ⟨outcome?, stored⟩ := cell
    cases outcome? with
    | some before => cases taken
    | none =>
      cases taken
      obtain ⟨inside, _⟩ := List.getElem?_eq_some_iff.1 found
      dsimp only [Heap.record, Option.getD_some]
      -- All that the promise stored is due now, and other promises are not concerned.
      by_cases same : place = promise
      · subst same
        rw [found] at delivers
        cases delivers
        rw [List.getElem?_set_self inside, dueOn_map_call, List.append_nil]
        exact .settled (List.Perm.refl _)
      · rw [List.getElem?_set_ne same, dueOn_map_call_of_ne same]
        exact delivers

/-- A callback that is registered is stored, or it is due with the outcome that is there. -/
theorem Delivers.subscribe (delivers : Delivers heap.cells[promise]? registered starts)
    {place : Nat}
    (inside : place < heap.cells.length) (callback : Callback α σ) :
    Delivers (heap.subscribe place callback).1.cells[promise]?
      (registered ++ registeredOn promise [.registers place callback])
      (dueOn promise ((heap.subscribe place callback).2.map
        (Frame.call place · callback)).toList ++ starts) := by
  unfold Heap.subscribe
  rw [List.getElem?_eq_getElem inside]
  dsimp only [Heap.record]
  -- Another promise than the one that is registered on keeps its account.
  by_cases same : place = promise
  · subst same
    rw [List.getElem?_eq_getElem inside] at delivers
    generalize heap.cells[place] = cell at delivers
    cases delivers with
    | pending =>
      rw [List.getElem?_set_self inside]
      simpa [Cell.subscribe, registeredOn, Deed.registered?] using
        Delivers.pending (registered ++ [callback])
    | @settled outcome _ _ once =>
      -- The newcomer starts first, and is the last one of those that were registered.
      rw [List.getElem?_set_self inside]
      have also : (callback.start outcome :: starts).Perm
          ((registered ++ [callback]).map fun callback => callback.start outcome) := by
        rw [List.map_append]
        exact (once.cons _).trans (List.perm_append_singleton _ _).symm
      simpa [Cell.subscribe, registeredOn, Deed.registered?, dueOn, Frame.due?] using
        Delivers.settled also
  · rw [List.getElem?_set_ne same]
    -- What starts on another promise does not count for this one.
    have nothing : dueOn promise (((heap.cells[place].subscribe callback).2.map
        (Frame.call place · callback)).toList) = [] := by
      cases (heap.cells[place].subscribe callback).2 with
      | none => rfl
      | some outcome => exact dueOn_map_call_of_ne same outcome [callback]
    rw [nothing]
    simpa [registeredOn, Deed.registered?, same] using delivers

/-- The step of a frame keeps the account of every promise. -/
theorem Delivers.step {frame : Frame α σ}
    (delivers : Delivers heap.cells[promise]? registered (dueOn promise [frame] ++ starts)) :
    Delivers (heap.step frame).1.cells[promise]?
      (registered ++ registeredOn promise (heap.deeds frame))
      (startsOn promise (heap.deeds frame) ++ (dueOn promise (heap.step frame).2 ++ starts)) := by
  cases frame with
  | call place outcome callback =>
    -- What was due starts.
    simpa [Heap.step, Heap.record, startsOn, Deed.started?, dueOn, Frame.due?,
      List.filterMap_cons] using delivers
  | task code =>
    rw [dueOn_task, dueOn_nil, List.nil_append] at delivers
    rw [Heap.deeds_task]
    -- Only settlings and registrations make anything due.
    cases code with
    | create next => simpa [Heap.step, Heap.perform, Frame.request?] using delivers.create
    | settle place outcome next =>
      rw [Heap.step_settle]
      simpa [Frame.request?] using delivers.settle place outcome
    | subscribe place code next =>
      rw [Heap.step_subscribe]
      by_cases inside : place < heap.cells.length
      · simpa [Frame.request?, inside] using delivers.subscribe inside ⟨heap.tickets, code⟩
      · -- There is no such promise, and nothing is registered.
        have absent : heap.cells[place]? = none := List.getElem?_eq_none (Nat.le_of_not_lt inside)
        simpa [Heap.subscribe, absent, Frame.request?, inside] using delivers
    | deposit gather index outcome next =>
      rw [Heap.step_deposit]
      cases heap.gathers[gather]? <;> simpa [Frame.request?] using delivers
    | _ => simpa [Heap.step, Heap.perform, Frame.request?] using delivers

/-- The callbacks that wait in the cell of a promise, if there is such a promise. -/
def Heap.storedOn (heap : Heap α σ) (promise : Nat) : List (Callback α σ) :=
  (heap.cells[promise]?.map Cell.callbacks).getD []

namespace Machine

/-- No callback is due on any thread, so that no settling and no registration is under way. -/
def Delivered (machine : Machine α σ) : Prop :=
  ∀ promise outcome callback, Frame.call promise outcome callback ∉ machine.frames

/-- Where no callback is due, no frame is about to start one. -/
theorem Delivered.dueOn_frames {machine : Machine α σ} (delivered : machine.Delivered)
    (promise : Nat) : dueOn promise machine.frames = [] := by
  rw [dueOn, List.filterMap_eq_nil_iff]
  intro frame member
  cases frame with
  | task code => rfl
  | call place outcome callback => exact absurd member (delivered place outcome callback)

/-- The account of every promise, with what has started before and what is still due. -/
def Accounts (machine : Machine α σ) (past : List (Deed α σ)) : Prop :=
  ∀ promise, Delivers machine.heap.cells[promise]? (registeredOn promise past)
    (startsOn promise past ++ dueOn promise machine.frames)

/-- One act keeps the account of every promise. -/
theorem Accounts.act {machine : Machine α σ} {past : List (Deed α σ)}
    (accounts : machine.Accounts past) (act : MachineAct α σ) :
    (machine.act act).Accounts (past ++ machine.deeds act) := by
  intro promise
  have before := accounts promise
  cases act with
  | call code =>
    -- A new program is due on no promise.
    rw [frames_call, dueOn_append, dueOn_task, dueOn_nil, List.append_nil]
    simpa [deeds, Machine.act] using before
  | step thread =>
    rcases machine.step_cases thread with
      ⟨same, nothing⟩ | ⟨frame, others, parts, after, heap, done⟩
    · rw [nothing]
      simpa [Machine.act, same] using before
    · -- What the frame was about to do is done, and what it leads to takes its place.
      have due : (dueOn promise machine.frames).Perm
          (dueOn promise [frame] ++ dueOn promise others) := by
        rw [← dueOn_append]
        exact parts.filterMap _
      have dueAfter : (dueOn promise (machine.step thread).frames).Perm
          (dueOn promise (machine.heap.step frame).2 ++ dueOn promise others) := by
        rw [← dueOn_append]
        exact after.filterMap _
      have stepped := Delivers.step (before.perm
        ((due.append_left _).trans (List.perm_append_comm_assoc _ _ _)))
      rw [← heap, ← done] at stepped
      rw [registeredOn_append, startsOn_append, List.append_assoc]
      refine stepped.perm (List.Perm.trans ?_ ((dueAfter.append_left _).append_left _).symm)
      -- What started in the past comes to stand in front.
      exact ((List.perm_append_comm_assoc _ _ _).append_left _).trans
        (List.perm_append_comm_assoc _ _ _)

/-- A run keeps the account of every promise. -/
theorem Accounts.run {machine : Machine α σ} {past : List (Deed α σ)}
    (accounts : machine.Accounts past) (acts : List (MachineAct α σ)) :
    (machine.run acts).Accounts (past ++ machine.history acts) := by
  induction acts generalizing machine past with
  | nil => rwa [history, List.append_nil]
  | cons act rest ih =>
    rw [history, ← List.append_assoc]
    exact ih (accounts.act act)

/-- Nothing is registered and nothing starts on a machine on which nothing has happened. -/
theorem accounts_fresh (shared : σ) : (fresh shared : Machine α σ).Accounts [] :=
  fun _ => .absent

end Machine

/-- The numbers of the callbacks that are registered, on whatever promises. -/
def ticketsOf (past : List (Deed α σ)) : List Nat :=
  (past.filterMap Deed.newcomer?).map Callback.ticket

/-- Registrations that follow upon others have their own numbers. -/
@[simp] theorem ticketsOf_append (past later : List (Deed α σ)) :
    ticketsOf (past ++ later) = ticketsOf past ++ ticketsOf later := by
  simp [ticketsOf, List.filterMap_append]

/-- A settling uses no number, whether or not it is refused. -/
@[simp] theorem Heap.tickets_settle (heap : Heap α σ) (promise : Nat) (outcome : Outcome α) :
    (heap.settle promise outcome).1.tickets = heap.tickets := by
  unfold settle
  split <;> rfl

/-- A registration uses a number, if there is such a promise. -/
theorem Heap.tickets_subscribe (heap : Heap α σ) (promise : Nat) (callback : Callback α σ) :
    (heap.subscribe promise callback).1.tickets =
      heap.tickets + if promise < heap.cells.length then 1 else 0 := by
  unfold subscribe
  by_cases inside : promise < heap.cells.length
  · rw [List.getElem?_eq_getElem inside, if_pos inside]
    rfl
  · rw [List.getElem?_eq_none (Nat.le_of_not_lt inside), if_neg inside]
    rfl

/-- A step gives the next number to the callback that it registers, if it registers one. -/
theorem Heap.tickets_step (heap : Heap α σ) (frame : Frame α σ) :
    List.range (heap.step frame).1.tickets =
      List.range heap.tickets ++ ticketsOf (heap.deeds frame) := by
  cases frame with
  | call place outcome callback => simp [step, record, ticketsOf, Deed.newcomer?]
  | task code =>
    rw [deeds_task]
    cases code with
    | settle place outcome next =>
      simp [step_settle, Frame.request?, ticketsOf]
    | subscribe place code next =>
      rw [step_subscribe]
      -- The number is used up if there is such a promise.
      by_cases inside : place < heap.cells.length
      · simp [tickets_subscribe, Frame.request?, inside, ticketsOf, Deed.newcomer?, List.range_succ]
      · simp [tickets_subscribe, Frame.request?, inside, ticketsOf]
    | deposit gather index outcome next =>
      rw [step_deposit]
      cases heap.gathers[gather]? <;> simp [Frame.request?, ticketsOf]
    | _ => simp [step, perform, Frame.request?, ticketsOf]

/-- The callbacks of a run are numbered in the order of their registrations. -/
theorem Machine.ticketsOf_history (machine : Machine α σ) (acts : List (MachineAct α σ)) :
    List.range (machine.run acts).heap.tickets =
      List.range machine.heap.tickets ++ ticketsOf (machine.history acts) := by
  induction acts generalizing machine with
  | nil => simp [run, history, ticketsOf]
  | cons act rest ih =>
    -- The first act uses up one number, or none.
    have first : List.range (machine.act act).heap.tickets =
        List.range machine.heap.tickets ++ ticketsOf (machine.deeds act) := by
      cases act with
      | call code => simp [Machine.act, deeds, ticketsOf]
      | step thread =>
        rcases machine.step_cases thread with ⟨same, nothing⟩ | ⟨frame, _, _, _, heap, done⟩
        · simp [Machine.act, same, nothing, ticketsOf]
        · rw [Machine.act, heap, done]
          exact machine.heap.tickets_step frame
    rw [history, ticketsOf_append, ← List.append_assoc, ← first]
    exact ih (machine.act act)

/-- No two callbacks of a run have the same number. -/
theorem Machine.nodup_tickets (shared : σ) (acts : List (MachineAct α σ)) (promise : Nat) :
    ((registeredOn promise ((fresh shared).history acts)).map Callback.ticket).Nodup := by
  -- All callbacks of the run are numbered from zero on.
  have all : (ticketsOf ((fresh shared : Machine α σ).history acts)).Nodup := by
    have numbered := (fresh shared : Machine α σ).ticketsOf_history acts
    rw [show List.range (fresh shared : Machine α σ).heap.tickets = [] from rfl,
      List.nil_append] at numbered
    rw [← numbered]
    exact List.nodup_range
  refine all.sublist (List.Sublist.map _ ?_)
  -- The callbacks of one promise are some of all callbacks, in the same order.
  generalize (fresh shared : Machine α σ).history acts = past
  induction past with
  | nil => exact List.Sublist.refl _
  | cons deed rest ih =>
    cases deed with
    | starts => exact ih
    | registers place callback =>
      by_cases same : place = promise
      · simpa [registeredOn, Deed.registered?, Deed.newcomer?, same] using ih
      · simpa [registeredOn, Deed.registered?, Deed.newcomer?, same] using ih.cons _

/-- Of the starts of callbacks that each start once, one is that of the callback with a number. -/
theorem filter_ticket_of_perm {outcome : Outcome α} {registered : List (Callback α σ)}
    {starts : List (Start α σ)}
    (once : starts.Perm (registered.map fun callback => callback.start outcome))
    (distinct : (registered.map Callback.ticket).Nodup) {callback : Callback α σ}
    (member : callback ∈ registered) :
    starts.filter (fun start => start.ticket == callback.ticket) = [callback.start outcome] := by
  -- Only one of the callbacks has the number, and the order does not matter to one entry.
  have alone : (registered.filter fun other => other.ticket == callback.ticket) = [callback] := by
    clear once
    induction registered with
    | nil => cases member
    | cons first rest ih =>
      rw [List.map_cons, List.nodup_cons] at distinct
      -- The first callback has the number, and then the others have not, or one of them has it.
      rcases List.mem_cons.1 member with rfl | later
      · rw [List.filter_cons_of_pos (by simp), List.filter_eq_nil_iff.2]
        intro other found same
        exact distinct.1 (List.mem_map.2 ⟨other, found, by simpa using same⟩)
      · rw [List.filter_cons_of_neg, ih distinct.2 later]
        intro same
        exact distinct.1 (List.mem_map.2 ⟨callback, later, (by simpa using same : _ = _).symm⟩)
  refine List.perm_singleton.1 ((once.filter _).trans ?_)
  rw [List.filter_map]
  simp [Function.comp_def, alone, Callback.start]

section Journal

/-- What a step notes of registrations is what it registers. -/
theorem Heap.registeredOn_notes (heap : Heap α σ) (frame : Frame α σ) (promise : Nat) :
    (heap.notes frame).filterMap (Occurrence.registeredOn? promise) =
      (registeredOn promise (heap.deeds frame)).map Callback.ticket := by
  cases frame with
  | call place outcome callback => simp [Occurrence.registeredOn?]
  | task code =>
    rw [deeds_task]
    cases code with
    | settle place outcome next =>
      rw [notes_of_journal (by rw [step_settle, journal_settle])]
      split <;> rfl
    | subscribe place code next =>
      rw [notes_of_journal (by rw [step_subscribe, journal_subscribe]), Frame.request?]
      split
      · by_cases same : place = promise <;>
          simp [Occurrence.registeredOn?, registeredOn, Deed.registered?, same]
      · rfl
    | _ =>
      rw [notes_task (by simp) (by simp)]
      rfl

/-- What a step notes of starts is what it starts. -/
theorem Heap.startedOn_notes (heap : Heap α σ) (frame : Frame α σ) (promise : Nat) :
    (heap.notes frame).filterMap (Occurrence.startedOn? promise) =
      (startsOn promise (heap.deeds frame)).map fun start => (start.ticket, start.outcome) := by
  -- What is asked of the step is no start.
  have asked : startsOn promise (frame.request? heap).toList = [] := by
    unfold Frame.request?
    split
    · split <;> rfl
    · rfl
  rw [deeds, startsOn_append, asked, List.nil_append, startsOn, List.filterMap_filterMap,
    List.map_filterMap]
  congr 1
  funext note
  cases note with
  | started place ticket outcome =>
    by_cases same : place = promise <;>
      simp [Occurrence.startedOn?, Occurrence.start?, Deed.started?, same]
  | _ => rfl

/-- The journal of a run tells of its registrations and of its starts, in their order. -/
theorem Machine.journal_run (machine : Machine α σ) (acts : List (MachineAct α σ)) (promise : Nat) :
    (machine.run acts).heap.journal.filterMap (Occurrence.registeredOn? promise) =
        machine.heap.journal.filterMap (Occurrence.registeredOn? promise) ++
          (registeredOn promise (machine.history acts)).map Callback.ticket ∧
      (machine.run acts).heap.journal.filterMap (Occurrence.startedOn? promise) =
        machine.heap.journal.filterMap (Occurrence.startedOn? promise) ++
          (startsOn promise (machine.history acts)).map
            fun start => (start.ticket, start.outcome) := by
  induction acts generalizing machine with
  | nil => simp [run, history]
  | cons act rest ih =>
    obtain ⟨registered, started⟩ := ih (machine.act act)
    rw [run, List.foldl_cons, ← run, registered, started, history, registeredOn_append,
      startsOn_append, List.map_append, List.map_append, ← List.append_assoc, ← List.append_assoc]
    cases act with
    | call code => simp [Machine.act, deeds]
    | step thread =>
      -- A step adds to the journal what its frame notes.
      rcases machine.step_cases thread with ⟨same, nothing⟩ | ⟨frame, _, _, _, heap, done⟩
      · simp [Machine.act, same, nothing]
      · rw [Machine.act, heap, done, Heap.journal_step, List.filterMap_append,
          List.filterMap_append, Heap.registeredOn_notes, Heap.startedOn_notes]
        exact ⟨rfl, rfl⟩

end Journal

namespace Machine

section Steps

variable {machine : Machine α σ} {thread promise : Nat} {outcome : Outcome α}
  {stack : List (Frame α σ)}

/-- Whoever settles a promise first is told so, and all that the promise stores becomes due. -/
theorem step_settle_of_pending {next : Bool → Task α σ}
    (there : machine.threads[thread]? = some (.task (.settle promise outcome next) :: stack))
    (inside : promise < machine.heap.cells.length)
    (waits : machine.heap.outcome? promise = none) :
    (machine.step thread).heap.outcome? promise = some outcome ∧
      (machine.step thread).heap.storedOn promise = [] ∧
      (machine.step thread).threads = machine.threads.set thread
        ((machine.heap.storedOn promise).map (.call promise outcome) ++
          .task (next true) :: stack) := by
  -- The cell is there, and waits.
  have found : machine.heap.cells[promise]? = some machine.heap.cells[promise] :=
    List.getElem?_eq_getElem inside
  have empty : machine.heap.cells[promise].outcome? = none := by
    simpa [Heap.outcome?, found] using waits
  have accepted := Heap.settle_of_pending found empty outcome
  refine ⟨?_, ?_, ?_⟩
  · simp [step, there, Heap.step_settle, accepted, Heap.outcome?, Heap.record,
      List.getElem?_set_self inside]
  · simp [step, there, Heap.step_settle, accepted, Heap.storedOn, Heap.record,
      List.getElem?_set_self inside]
  · simp [step, there, Heap.step_settle, accepted, Heap.storedOn, found]

/-- A callback that is registered waits in the cell, or is due at once with the outcome there. -/
theorem step_subscribe {code : Outcome α → Task α σ} {next : Task α σ}
    (there : machine.threads[thread]? = some (.task (.subscribe promise code next) :: stack))
    (inside : promise < machine.heap.cells.length) :
    match machine.heap.outcome? promise with
    | none =>
      (machine.step thread).heap.storedOn promise =
        machine.heap.storedOn promise ++ [⟨machine.heap.tickets, code⟩] ∧
      (machine.step thread).threads = machine.threads.set thread (.task next :: stack)
    | some outcome =>
      (machine.step thread).heap.storedOn promise = machine.heap.storedOn promise ∧
      (machine.step thread).threads = machine.threads.set thread
        (.call promise outcome ⟨machine.heap.tickets, code⟩ :: .task next :: stack) := by
  have found : machine.heap.cells[promise]? = some machine.heap.cells[promise] :=
    List.getElem?_eq_getElem inside
  cases settled : machine.heap.cells[promise].outcome? with
  | none =>
    simp [Heap.outcome?, found, settled, step, there, Heap.step_subscribe, Heap.subscribe,
      Cell.subscribe, Heap.storedOn, Heap.record, List.getElem?_set_self inside]
  | some outcome =>
    simp [Heap.outcome?, found, settled, step, there, Heap.step_subscribe, Heap.subscribe,
      Cell.subscribe, Heap.storedOn, Heap.record]

/-- A callback that is due is taken note of, and its code for the outcome takes its place. -/
theorem step_call {callback : Callback α σ}
    (there : machine.threads[thread]? = some (.call promise outcome callback :: stack)) :
    machine.step thread =
      { heap := machine.heap.record (.started promise callback.ticket outcome)
        threads := machine.threads.set thread (.task (callback.code outcome) :: stack) } := by
  simp [step, there, Heap.step]

end Steps

/--
A promise is settled once, and each of its callbacks starts once, with its outcome.

An outcome never changes. Whoever settles a promise first is told so, and all that the promise
stores becomes due. Whoever settles it again is refused, and nothing changes but the journal. A
callback is stored where the promise waits, and is due at once where it has an outcome. What is due
is next on the stack of its thread, and when it is taken, its code for the outcome is what the
thread does. While no callback is due on any thread, each callback registered on a settled promise
has started once, with the outcome of the promise and nothing but its code for that outcome, and the
promise stores none. On a promise that waits, no callback has started, and all are stored. The
journal tells the same of registrations and of starts.
-/
theorem told_once (shared : σ) (acts later : List (MachineAct α σ)) :
    let machine := (fresh shared).run acts
    let past := (fresh shared).history acts
    (∀ promise outcome, machine.heap.outcome? promise = some outcome →
      (machine.run later).heap.outcome? promise = some outcome) ∧
    (∀ thread promise outcome next stack,
      machine.threads[thread]? = some (.task (.settle promise outcome next) :: stack) →
      promise < machine.heap.cells.length →
      match machine.heap.outcome? promise with
      | none =>
        (machine.step thread).heap.outcome? promise = some outcome ∧
        (machine.step thread).heap.storedOn promise = [] ∧
        (machine.step thread).threads = machine.threads.set thread
          ((machine.heap.storedOn promise).map (.call promise outcome) ++
            .task (next true) :: stack)
      | some _ =>
        machine.step thread =
          { heap := machine.heap.record (.refused promise)
            threads := machine.threads.set thread (.task (next false) :: stack) }) ∧
    (∀ thread promise code next stack,
      machine.threads[thread]? = some (.task (.subscribe promise code next) :: stack) →
      promise < machine.heap.cells.length →
      match machine.heap.outcome? promise with
      | none =>
        (machine.step thread).heap.storedOn promise =
          machine.heap.storedOn promise ++ [⟨machine.heap.tickets, code⟩] ∧
        (machine.step thread).threads = machine.threads.set thread (.task next :: stack)
      | some outcome =>
        (machine.step thread).heap.storedOn promise = machine.heap.storedOn promise ∧
        (machine.step thread).threads = machine.threads.set thread
          (.call promise outcome ⟨machine.heap.tickets, code⟩ :: .task next :: stack)) ∧
    (∀ thread promise outcome callback stack,
      machine.threads[thread]? = some (.call promise outcome callback :: stack) →
      machine.step thread =
        { heap := machine.heap.record (.started promise callback.ticket outcome)
          threads := machine.threads.set thread (.task (callback.code outcome) :: stack) }) ∧
    (machine.Delivered → ∀ promise,
      match machine.heap.outcome? promise with
      | none =>
        startsOn promise past = [] ∧ machine.heap.storedOn promise = registeredOn promise past
      | some outcome =>
        (startsOn promise past).Perm
          ((registeredOn promise past).map fun callback => callback.start outcome) ∧
        (∀ callback ∈ registeredOn promise past,
          (startsOn promise past).filter (fun start => start.ticket == callback.ticket) =
            [callback.start outcome]) ∧
        machine.heap.storedOn promise = []) ∧
    ∀ promise,
      machine.heap.journal.filterMap (Occurrence.registeredOn? promise) =
        (registeredOn promise past).map Callback.ticket ∧
      machine.heap.journal.filterMap (Occurrence.startedOn? promise) =
        (startsOn promise past).map fun start => (start.ticket, start.outcome) := by
  intro machine past
  refine ⟨fun promise outcome settled => outcome?_run settled later, ?_,
    fun thread promise code next stack there inside => step_subscribe there inside,
    fun thread promise outcome callback stack there => step_call there, ?_,
    (fresh shared).journal_run acts⟩
  · intro thread promise outcome next stack there inside
    cases settled : machine.heap.outcome? promise with
    | none => exact step_settle_of_pending there inside settled
    | some before => simp [step, there, Heap.step_settle, Heap.settle_of_settled settled]
  · intro delivered promise
    -- Nothing is due, so that all that was registered has started or is stored.
    have account : Delivers machine.heap.cells[promise]? (registeredOn promise past)
        (startsOn promise past ++ dueOn promise machine.frames) :=
      (accounts_fresh shared).run acts promise
    have distinct : ((registeredOn promise past).map Callback.ticket).Nodup :=
      nodup_tickets shared acts promise
    rw [delivered.dueOn_frames, List.append_nil] at account
    -- The account says it all, for each of the three kinds of cells.
    unfold Heap.outcome? Heap.storedOn
    generalize machine.heap.cells[promise]? = cell? at account ⊢
    generalize registeredOn promise past = registered at account distinct ⊢
    generalize startsOn promise past = starts at account ⊢
    cases account with
    | absent => exact ⟨rfl, rfl⟩
    | pending => exact ⟨rfl, rfl⟩
    | settled once => exact ⟨once, fun _ member => filter_ticket_of_perm once distinct member, rfl⟩

end Machine

end HttpEngine
