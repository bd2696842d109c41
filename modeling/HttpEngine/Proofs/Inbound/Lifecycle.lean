import HttpEngine.Inbound.Endpoint
import Mathlib.Data.Nat.Find
import Mathlib.Logic.Relation

/-!
The life of an endpoint, whatever is asked of it and whatever the operating system answers: it goes
through its stages and never back, and what it holds is told by the stage that it is in.
-/

namespace HttpEngine

variable {η : Type}

/-- The stages behind the second one. -/
theorem Lifecycle.two_le_rank {stage : Lifecycle} (old : stage ≠ .created)
    (late : stage ≠ .initialized) : 2 ≤ stage.rank := by
  cases stage <;> first | exact absurd rfl old | exact absurd rfl late | decide

/-- A call to an endpoint, with what the operating system answers to it. -/
inductive EndpointCall (η : Type) where
  | bind (options : EndpointOptions) (io : EndpointIo)
  | setHandler (handler : η)
  | serve (io : EndpointIo)
  | shutdown (io : EndpointIo)

namespace EndpointCall

/-- Whether a call asks for the address to be bound. -/
def isBind : EndpointCall η → Bool
  | bind _ _ => true
  | _ => false

/-- Whether a call asks for the workers to be started. -/
def isServe : EndpointCall η → Bool
  | serve _ => true
  | _ => false

end EndpointCall

namespace Endpoint

variable {endpoint next : Endpoint η}

section Stages

/-- The endpoint when it has been bound to an address. -/
def bound (endpoint : Endpoint η) (options : EndpointOptions) (address : SocketAddr) : Endpoint η :=
  { endpoint with address, listener := some address, options, lifecycle := .initialized }

/-- The endpoint when some workers have been started. -/
def launched (endpoint : Endpoint η) (started : List Nat) : Endpoint η :=
  { endpoint with workers := endpoint.workers ++ started, lifecycle := .serving }

/-- The endpoint when its workers have been waited for and its address has been given up. -/
def halted (endpoint : Endpoint η) : Endpoint η :=
  { endpoint with
    stopRequested := true, workers := [], joined := endpoint.joined ++ endpoint.workers
    listener := none, lifecycle := .stopped }

@[simp] theorem lifecycle_bound (endpoint : Endpoint η) (options : EndpointOptions)
    (address : SocketAddr) : (endpoint.bound options address).lifecycle = .initialized := rfl

@[simp] theorem lifecycle_launched (endpoint : Endpoint η) (started : List Nat) :
    (endpoint.launched started).lifecycle = .serving := rfl

@[simp] theorem lifecycle_halted (endpoint : Endpoint η) :
    endpoint.halted.lifecycle = .stopped := rfl

end Stages

section Binding

/-- A new endpoint is bound, or a call to bind it changes nothing. -/
theorem bindWith_cases (endpoint : Endpoint η) (io : EndpointIo) (options : EndpointOptions) :
    (∃ error, endpoint.bindWith io options = (endpoint, .error error)) ∨
      ∃ address, endpoint.lifecycle = .created ∧ options.fault? = none ∧
        endpoint.bindWith io options = (endpoint.bound options address, .ok ()) := by
  unfold bindWith
  -- Only an endpoint that was just created can be bound, and only if its options are right.
  by_cases fresh : endpoint.lifecycle = .created
  · rw [if_neg (not_not_intro fresh)]
    cases fault : options.fault? with
    | some fault => exact .inl ⟨_, rfl⟩
    | none =>
      cases io.bind options endpoint.address with
      | error failure => exact .inl ⟨_, rfl⟩
      | ok address => exact .inr ⟨address, fresh, rfl, rfl⟩
  · rw [if_pos fresh]
    exact .inl ⟨_, rfl⟩

/-- An endpoint is bound only once. -/
theorem bindWith_of_bound (late : endpoint.lifecycle ≠ .created) (io : EndpointIo)
    (options : EndpointOptions) :
    endpoint.bindWith io options = (endpoint, .error (.invalidOptions .alreadyInitialized)) :=
  if_pos late

end Binding

section Ending

/-- An endpoint that has come to its end stays as it is. -/
theorem shutdown_of_stopped (ended : endpoint.lifecycle = .stopped) (io : EndpointIo) :
    endpoint.shutdown io = (endpoint, .ok ()) :=
  if_pos ended

/-- Any other endpoint comes to its end, whether or not a worker has crashed. -/
theorem shutdown_of_running (running : endpoint.lifecycle ≠ .stopped) (io : EndpointIo) :
    (endpoint.shutdown io).1 = endpoint.halted := by
  unfold shutdown
  rw [if_neg running]
  dsimp only
  split <;> rfl

end Ending

section Workers

variable {io : EndpointIo} {first count : Nat}

/-- All workers are started if none of them fails. -/
theorem startWorkers_of_none (fine : ∀ id, first ≤ id → id < first + count → io.spawn id = none) :
    startWorkers io first count = (List.range' first count, none) := by
  induction count generalizing first with
  | zero => rfl
  | succ count ih =>
    -- Those behind the first one are started as well.
    have others := @ih (first + 1) fun id least most => fine id (by omega) (by omega)
    rw [startWorkers, fine first (by omega) (by omega), others]
    rfl

/-- The workers in front of the first one that fails are started, and no others. -/
theorem startWorkers_of_some {number : Nat} {failure : IoError} (least : first ≤ number)
    (most : number < first + count) (fails : io.spawn number = some failure)
    (fine : ∀ id, first ≤ id → id < number → io.spawn id = none) :
    startWorkers io first count = (List.range' first (number - first), some failure) := by
  induction count generalizing first with
  | zero => omega
  | succ count ih =>
    rw [startWorkers]
    by_cases here : first = number
    · -- It is the first one to be started.
      subst here
      rw [fails, Nat.sub_self]
      rfl
    · -- This one is started, and the first one that fails is behind it.
      have others := @ih (first + 1) (by omega) (by omega) fun id least most =>
        fine id (by omega) most
      have next : number - first = number - (first + 1) + 1 := by omega
      rw [fine first (by omega) (by omega), others, next]
      rfl

/-- Either all workers are started, or those in front of the first one that fails. -/
theorem startWorkers_cases (io : EndpointIo) (count : Nat) :
    startWorkers io 0 count = (List.range count, none) ∨
      ∃ number failure, number < count ∧ io.spawn number = some failure ∧
        startWorkers io 0 count = (List.range number, some failure) := by
  by_cases bad : ∃ id, id < count ∧ (io.spawn id).isSome = true
  · -- There is a first one that fails.
    obtain ⟨inside, fails⟩ := Nat.find_spec bad
    obtain ⟨failure, fails⟩ := Option.isSome_iff_exists.1 fails
    refine .inr ⟨Nat.find bad, failure, inside, fails, ?_⟩
    rw [startWorkers_of_some (Nat.zero_le _) (by omega) fails, Nat.sub_zero, ← List.range_eq_range']
    intro id _ before
    have fine := Nat.find_min bad before
    rw [not_and, Option.not_isSome_iff_eq_none] at fine
    exact fine (by omega)
  · refine .inl ?_
    -- None fails, so that all of them are started.
    rw [startWorkers_of_none, ← List.range_eq_range']
    intro id _ inside
    by_contra fails
    exact bad ⟨id, by omega, Option.isSome_iff_ne_none.2 fails⟩

end Workers

section Serving

/-- A new endpoint is bound before it serves. -/
theorem serve_of_created {io : EndpointIo} (fresh : endpoint.lifecycle = .created)
    (binds : endpoint.bindWith io .standard = (next, .ok ()))
    (ready : next.lifecycle = .initialized) :
    endpoint.serve io = next.serve io := by
  have old : ¬ next.lifecycle = .created := by simp [ready]
  simp only [serve, if_pos fresh, binds, if_neg old]

/-- A new endpoint that cannot be bound does not serve. -/
theorem serve_of_unbound {io : EndpointIo} {error : Error} (fresh : endpoint.lifecycle = .created)
    (fails : endpoint.bindWith io .standard = (endpoint, .error error)) :
    endpoint.serve io = (endpoint, .error error) := by
  simp only [serve, if_pos fresh, fails]

/-- An endpoint serves only once, and not after its end. -/
theorem serve_of_late (late : 2 ≤ endpoint.lifecycle.rank) (io : EndpointIo) :
    endpoint.serve io = (endpoint, .error (.invalidOptions .servingOrStopped)) := by
  have stage : endpoint.lifecycle ≠ .created ∧ endpoint.lifecycle ≠ .initialized := by
    constructor <;> intro stage <;> rw [stage] at late <;> exact absurd late (by decide)
  simp only [serve, if_neg stage.1, if_pos stage.2]

/-- An endpoint without a handler, or without an address, does not serve. -/
theorem serve_of_lacking (io : EndpointIo) (ready : endpoint.lifecycle = .initialized)
    (lacks : ¬ (endpoint.handler.isSome = true ∧ endpoint.listener.isSome = true)) :
    ∃ error, endpoint.serve io = (endpoint, .error error) := by
  by_cases handled : endpoint.handler.isNone = true
  · exact ⟨.invalidOptions .noHandler, by simp [serve, ready, handled]⟩
  · -- It is the address that is missing.
    have silent : endpoint.listener.isNone = true := by
      cases listens : endpoint.listener <;> simp_all
    exact ⟨.invalidOptions .notBound, by simp [serve, ready, handled, silent]⟩

/-- An endpoint that is bound and has a handler serves if all its workers can be started. -/
theorem serve_of_started {io : EndpointIo} {started : List Nat}
    (ready : endpoint.lifecycle = .initialized) (handled : endpoint.handler.isSome = true)
    (listens : endpoint.listener.isSome = true)
    (starts : startWorkers io 0 endpoint.options.threads = (started, none)) :
    endpoint.serve io = (endpoint.launched started, .ok ()) := by
  simp [serve, ready, Option.isSome_iff_ne_none.1 handled, Option.isSome_iff_ne_none.1 listens,
    starts, launched]

/-- Otherwise the workers that were started are stopped again. -/
theorem serve_of_failed {io : EndpointIo} {started : List Nat} {failure : IoError}
    (ready : endpoint.lifecycle = .initialized) (handled : endpoint.handler.isSome = true)
    (listens : endpoint.listener.isSome = true)
    (fails : startWorkers io 0 endpoint.options.threads = (started, some failure)) :
    endpoint.serve io = ((endpoint.launched started).halted, .error (.transport failure)) := by
  have running : (endpoint.launched started).lifecycle ≠ .stopped := by
    rw [launched]
    exact nofun
  have halts := shutdown_of_running running io
  -- What was started is waited for, and then the failure is reported.
  simp only [launched] at halts
  simp [serve, ready, Option.isSome_iff_ne_none.1 handled, Option.isSome_iff_ne_none.1 listens,
    fails, launched, halts]

/-- What comes of serving when an endpoint has been bound. -/
inductive Start (ready : Endpoint η) : Endpoint η × Except Error Unit → Prop where
  | refused (error : Error) : Start ready (ready, .error error)
  | launched (stage : ready.lifecycle = .initialized) :
      Start ready (ready.launched (List.range ready.options.threads), .ok ())
  /-- Some workers are started, and stopped again, since another one cannot be. -/
  | failed (stage : ready.lifecycle = .initialized) (number : Nat) (failure : IoError) :
      Start ready ((ready.launched (List.range number)).halted, .error (.transport failure))

/-- An endpoint that is not new starts its workers at once. -/
theorem start_serve (old : endpoint.lifecycle ≠ .created) (io : EndpointIo) :
    Start endpoint (endpoint.serve io) := by
  -- Everything that is needed has to be there, and then the first worker that fails decides.
  by_cases ready : endpoint.lifecycle = .initialized
  · by_cases full : endpoint.handler.isSome = true ∧ endpoint.listener.isSome = true
    · obtain ⟨handled, listens⟩ := full
      rcases startWorkers_cases io endpoint.options.threads with
        starts | ⟨number, failure, -, -, fails⟩
      · rw [serve_of_started ready handled listens starts]
        exact .launched ready
      · rw [serve_of_failed ready handled listens fails]
        exact .failed ready number failure
    · obtain ⟨error, stays⟩ := serve_of_lacking io ready full
      rw [stays]
      exact .refused error
  · rw [serve_of_late (Lifecycle.two_le_rank old ready)]
    exact .refused _

/-- A new endpoint is bound before it starts its workers. -/
theorem serve_cases (endpoint : Endpoint η) (io : EndpointIo) :
    Start endpoint (endpoint.serve io) ∨
      ∃ address, endpoint.lifecycle = .created ∧
        Start (endpoint.bound .standard address) (endpoint.serve io) := by
  by_cases fresh : endpoint.lifecycle = .created
  · -- An endpoint that was just created is bound with the standard options, if that works.
    rcases bindWith_cases endpoint io .standard with ⟨error, fails⟩ | ⟨address, -, -, binds⟩
    · rw [serve_of_unbound fresh fails]
      exact .inl (.refused error)
    · rw [serve_of_created fresh binds rfl]
      exact .inr ⟨address, fresh, start_serve (by simp) io⟩
  · exact .inl (start_serve fresh io)

end Serving

section Calls

/-- One call: the endpoint after it, and what is said about it. -/
def call (endpoint : Endpoint η) : EndpointCall η → Endpoint η × Except Error Unit
  | .bind options io => endpoint.bindWith io options
  | .setHandler handler => (endpoint.setHandler handler, .ok ())
  | .serve io => endpoint.serve io
  | .shutdown io => endpoint.shutdown io

/-- The endpoint after some calls. -/
def run (endpoint : Endpoint η) (calls : List (EndpointCall η)) : Endpoint η :=
  calls.foldl (fun endpoint call => (endpoint.call call).1) endpoint

/-- How many calls of a kind succeed. -/
def successes (kind : EndpointCall η → Bool) : Endpoint η → List (EndpointCall η) → Nat
  | _, [] => 0
  | endpoint, call :: rest =>
    (if kind call && (endpoint.call call).2.isOk then 1 else 0)
      + successes kind (endpoint.call call).1 rest

/-- What can happen to an endpoint in a call. -/
inductive Move (endpoint : Endpoint η) : Endpoint η → Prop where
  | bind (fresh : endpoint.lifecycle = .created) {options : EndpointOptions}
      (sound : options.fault? = none) (address : SocketAddr) :
      Move endpoint (endpoint.bound options address)
  | handle (handler : η) : Move endpoint (endpoint.setHandler handler)
  | launch (ready : endpoint.lifecycle = .initialized) :
      Move endpoint (endpoint.launched (List.range endpoint.options.threads))
  /-- Some workers are started, and stopped again, since another one cannot be. -/
  | fail (ready : endpoint.lifecycle = .initialized) (started : List Nat) :
      Move endpoint (endpoint.launched started).halted
  | halt (running : endpoint.lifecycle ≠ .stopped) : Move endpoint endpoint.halted

/-- Starting the workers is a sequence of moves. -/
theorem Start.moves {ready : Endpoint η} {outcome : Endpoint η × Except Error Unit}
    (start : Start ready outcome) : Relation.ReflTransGen Move ready outcome.1 := by
  cases start with
  | refused error => exact .refl
  | launched stage => exact .single (.launch stage)
  | failed stage number failure => exact .single (.fail stage _)

/-- Every call is a sequence of moves. -/
theorem moves_call (endpoint : Endpoint η) (call : EndpointCall η) :
    Relation.ReflTransGen Move endpoint (endpoint.call call).1 := by
  cases call with
  | bind options io =>
    show Relation.ReflTransGen Move endpoint (endpoint.bindWith io options).1
    -- An attempt to bind makes one move or none.
    rcases bindWith_cases endpoint io options with ⟨error, stays⟩ | ⟨address, fresh, sound, binds⟩
    · rw [stays]
    · rw [binds]
      exact .single (.bind fresh sound address)
  | setHandler handler => exact .single (.handle handler)
  | serve io =>
    rcases serve_cases endpoint io with start | ⟨address, fresh, start⟩
    · exact start.moves
    · -- It was bound by the call itself, and what follows is a start like any other.
      exact .head (.bind fresh (by decide) address) start.moves
  | shutdown io =>
    show Relation.ReflTransGen Move endpoint (endpoint.shutdown io).1
    by_cases ended : endpoint.lifecycle = .stopped
    · rw [shutdown_of_stopped ended]
    · rw [shutdown_of_running ended]
      exact .single (.halt ended)

/-- What every move keeps, any calls keep. -/
theorem run_keeps (property : Endpoint η → Prop)
    (moves : ∀ {endpoint next}, property endpoint → Move endpoint next → property next)
    (holds : property endpoint) (calls : List (EndpointCall η)) :
    property (endpoint.run calls) := by
  unfold run
  induction calls generalizing endpoint with
  | nil => exact holds
  | cons call rest ih =>
    have kept {next : Endpoint η} (course : Relation.ReflTransGen Move endpoint next) :
        property next := by
      -- One move of the call after the other.
      induction course with
      | refl => exact holds
      | tail _ move kept => exact moves kept move
    exact ih (kept (moves_call endpoint call))

end Calls

section Invariant

/-- No move leads back to an earlier stage. -/
theorem Move.rank_le (move : Move endpoint next) :
    endpoint.lifecycle.rank ≤ next.lifecycle.rank := by
  cases move with
  | bind fresh sound address => simp [fresh, Lifecycle.rank]
  | handle handler => exact Nat.le_refl _
  | launch ready => simp [ready, Lifecycle.rank]
  | fail ready started => simp [ready, Lifecycle.rank]
  | halt running =>
    -- The last stage is behind all others.
    rw [lifecycle_halted]
    cases endpoint.lifecycle <;> decide

/-- No calls lead back to an earlier stage. -/
theorem rank_le_run (endpoint : Endpoint η) (calls : List (EndpointCall η)) :
    endpoint.lifecycle.rank ≤ (endpoint.run calls).lifecycle.rank :=
  run_keeps (fun next => endpoint.lifecycle.rank ≤ next.lifecycle.rank)
    (fun before move => Nat.le_trans before move.rank_le) (Nat.le_refl _) calls

/-- What an endpoint holds is told by its stage. -/
structure Sound (endpoint : Endpoint η) : Prop where
  threads : 0 < endpoint.options.threads
  listener : endpoint.listener.isSome = true ↔
    endpoint.lifecycle = .initialized ∨ endpoint.lifecycle = .serving
  workers : endpoint.workers =
    if endpoint.lifecycle = .serving then List.range endpoint.options.threads else []
  joined : endpoint.lifecycle ≠ .stopped → endpoint.joined = []
  stop : endpoint.stopRequested = true ↔ endpoint.lifecycle = .stopped

/-- A new endpoint holds nothing. -/
theorem sound_of_create {address : String} (made : create address = .ok endpoint) :
    endpoint.Sound := by
  unfold create at made
  split at made
  · cases made
    exact ⟨Nat.one_pos, by simp, by simp, fun _ => rfl, by simp⟩
  · cases made

/-- Sound options ask for a worker at least. -/
theorem threads_pos_of_fault? {options : EndpointOptions} (sound : options.fault? = none) :
    0 < options.threads := by
  unfold EndpointOptions.fault? at sound
  split at sound
  · cases sound
  · omega

/-- Every move keeps an endpoint sound. -/
theorem Sound.move (sound : endpoint.Sound) (move : Move endpoint next) : next.Sound := by
  cases move with
  | bind fresh right address =>
    -- The binding is the one move after which there is a listener.
    refine ⟨threads_pos_of_fault? right, by simp [bound], ?_, ?_, ?_⟩
    · simp [bound, sound.workers, fresh]
    · exact fun _ => sound.joined (by simp [fresh])
    · simp [bound, sound.stop, fresh]
  | handle handler => exact ⟨sound.threads, sound.listener, sound.workers, sound.joined, sound.stop⟩
  | launch ready =>
    -- The number of workers is the one that was set, which is at least one.
    refine ⟨sound.threads, ?_, ?_, ?_, ?_⟩
    · simp [launched, sound.listener, ready]
    · simp [launched, sound.workers, ready]
    · exact fun _ => sound.joined (by simp [ready])
    · simp [launched, sound.stop, ready]
  | fail ready started =>
    -- All the failed start leaves is what a shutdown leaves.
    exact ⟨sound.threads, by simp [halted], rfl, by simp [halted], by simp [halted]⟩
  | halt running =>
    exact ⟨sound.threads, by simp [halted], rfl, by simp [halted], by simp [halted]⟩

/-- Any calls keep an endpoint sound. -/
theorem Sound.run (sound : endpoint.Sound) (calls : List (EndpointCall η)) :
    (endpoint.run calls).Sound :=
  run_keeps Sound Sound.move sound calls

end Invariant

section Successes

variable {kind : EndpointCall η → Bool} {stage : Nat}

/--
Calls that can only succeed up to some stage, and then lead beyond it, succeed once at most.

Beyond that stage none of them succeeds.
-/
theorem successes_le
    (passes : ∀ (endpoint : Endpoint η) (call : EndpointCall η), kind call = true →
      (endpoint.call call).2.isOk = true →
        endpoint.lifecycle.rank ≤ stage ∧ stage < (endpoint.call call).1.lifecycle.rank)
    (endpoint : Endpoint η) (calls : List (EndpointCall η)) :
    endpoint.successes kind calls ≤ if endpoint.lifecycle.rank ≤ stage then 1 else 0 := by
  induction calls generalizing endpoint with
  | nil => exact Nat.zero_le _
  | cons call rest ih =>
    -- What succeeds later succeeds in a later stage.
    have later := ih (endpoint.call call).1
    have forward : endpoint.lifecycle.rank ≤ (endpoint.call call).1.lifecycle.rank :=
      rank_le_run endpoint [call]
    rw [successes]
    by_cases succeeds : (kind call && (endpoint.call call).2.isOk) = true
    · -- The stage is passed now, and nothing behind it succeeds.
      obtain ⟨right, ok⟩ := Bool.and_eq_true_iff.1 succeeds
      obtain ⟨before, after⟩ := passes endpoint call right ok
      rw [if_neg (by omega)] at later
      rw [if_pos succeeds, if_pos before]
      omega
    · rw [if_neg succeeds, Nat.zero_add]
      refine Nat.le_trans later ?_
      split <;> split <;> omega

/-- Only a new endpoint is bound by a call, and it is new no more. -/
theorem passes_bind (endpoint : Endpoint η) (call : EndpointCall η) (binds : call.isBind = true)
    (ok : (endpoint.call call).2.isOk = true) :
    endpoint.lifecycle.rank ≤ 0 ∧ 0 < (endpoint.call call).1.lifecycle.rank := by
  cases call with
  | bind options io =>
    -- A successful call of this kind finds the endpoint created, and leaves it initialized.
    simp only [Endpoint.call] at ok ⊢
    rcases bindWith_cases endpoint io options with ⟨error, fails⟩ | ⟨address, fresh, -, bound⟩
    · rw [fails] at ok
      cases ok
    · simp [bound, fresh, Lifecycle.rank]
  | setHandler handler | serve io | shutdown io => cases binds

/-- Only an endpoint that does not serve yet comes to serve by a call. -/
theorem passes_serve (endpoint : Endpoint η) (call : EndpointCall η) (serves : call.isServe = true)
    (ok : (endpoint.call call).2.isOk = true) :
    endpoint.lifecycle.rank ≤ 1 ∧ 1 < (endpoint.call call).1.lifecycle.rank := by
  cases call with
  | serve io =>
    simp only [Endpoint.call] at ok ⊢
    -- Only a launch is a success, whether or not the call has bound the endpoint itself.
    rcases serve_cases endpoint io with start | ⟨address, fresh, start⟩
    · generalize endpoint.serve io = outcome at ok start
      cases start with
      | launched stage => simp [stage, Lifecycle.rank]
      | refused error | failed stage number failure => cases ok
    · generalize endpoint.serve io = outcome at ok start
      cases start with
      | launched stage => simp [fresh, Lifecycle.rank]
      | refused error | failed stage number failure => cases ok
  | bind options io | setHandler handler | shutdown io => cases serves

end Successes

/-- The end of an endpoint is never undone. -/
theorem stopped_of_shutdown {io : EndpointIo} {calls : List (EndpointCall η)}
    (shut : .shutdown io ∈ calls) (endpoint : Endpoint η) :
    (endpoint.run calls).lifecycle = .stopped := by
  -- With the call the last stage is reached, and there is none behind it.
  obtain ⟨before, after, rfl⟩ := List.append_of_mem shut
  have ended : (((endpoint.run before).call (.shutdown io)).1).lifecycle = .stopped := by
    show ((endpoint.run before).shutdown io).1.lifecycle = .stopped
    by_cases ended : (endpoint.run before).lifecycle = .stopped
    · rw [shutdown_of_stopped ended]
      exact ended
    · rw [shutdown_of_running ended, lifecycle_halted]
  have last := rank_le_run ((endpoint.run before).call (.shutdown io)).1 after
  have whole : endpoint.run (before ++ .shutdown io :: after) =
      ((endpoint.run before).call (.shutdown io)).1.run after := by
    simp [Endpoint.run]
  rw [whole]
  rw [ended] at last
  cases stage : (((endpoint.run before).call (.shutdown io)).1.run after).lifecycle with
  | stopped => rfl
  | created | initialized | serving =>
    rw [stage] at last
    exact absurd last (by decide)

/-- A sound endpoint whose workers cannot all be started waits for those that were, and ends. -/
theorem Sound.serve_of_some (sound : endpoint.Sound) (ready : endpoint.lifecycle = .initialized)
    (handled : endpoint.handler.isSome = true) {io : EndpointIo} {number : Nat} {failure : IoError}
    (inside : number < endpoint.options.threads) (fails : io.spawn number = some failure)
    (fine : ∀ earlier < number, io.spawn earlier = none) :
    endpoint.serve io =
      ({ endpoint with
          stopRequested := true, workers := [], joined := List.range number
          listener := none, lifecycle := .stopped }, .error (.transport failure)) := by
  have listens : endpoint.listener.isSome = true := sound.listener.2 (.inl ready)
  have starts : startWorkers io 0 endpoint.options.threads = (List.range number, some failure) := by
    rw [startWorkers_of_some (Nat.zero_le number) (by omega) fails fun id _ before =>
      fine id before, Nat.sub_zero, ← List.range_eq_range']
  rw [serve_of_failed ready handled listens starts]
  -- Nothing was started or waited for before.
  simp [launched, halted, sound.workers, sound.joined, ready]

/--
An endpoint goes through its life once, whatever is asked of it and in which order, and whatever
the operating system answers.

It never goes back to an earlier stage. It holds its address while it is bound or serves, it has
workers only while it serves, and then as many as its options ask for, and it has been told to stop
at its end only. It is bound at most once, also where serving has bound it, and it starts to serve
at most once. After its end neither is possible, and ending it again is right and does nothing. If a
worker cannot be started, those that were started in front of it have been waited for, and the
endpoint is at its end.
-/
theorem lived_once {address : String} {endpoint : Endpoint η}
    (made : create address = .ok endpoint) (calls : List (EndpointCall η)) :
    let reached := endpoint.run calls
    (∀ more, reached.lifecycle.rank ≤ (reached.run more).lifecycle.rank) ∧
    (reached.listener.isSome = true ↔
      reached.lifecycle = .initialized ∨ reached.lifecycle = .serving) ∧
    (reached.workers ≠ [] ↔ reached.lifecycle = .serving) ∧
    (reached.lifecycle = .serving → reached.workers.length = reached.options.threads) ∧
    (reached.stopRequested = true ↔ reached.lifecycle = .stopped) ∧
    endpoint.successes EndpointCall.isBind calls ≤ 1 ∧
    endpoint.successes EndpointCall.isServe calls ≤ 1 ∧
    (reached.lifecycle ≠ .created →
      ∀ options io, ∃ error, reached.bindWith io options = (reached, .error error)) ∧
    (∀ io, .shutdown io ∈ calls →
      (∀ options io, ∃ error, reached.bindWith io options = (reached, .error error)) ∧
      (∀ io, ∃ error, reached.serve io = (reached, .error error)) ∧
      ∀ io, reached.shutdown io = (reached, .ok ())) ∧
    ∀ io ready, (ready = reached ∧ reached.lifecycle = .initialized ∨
        reached.bindWith io .standard = (ready, .ok ())) → reached.handler.isSome = true →
      ∀ number < ready.options.threads, ∀ failure, io.spawn number = some failure →
        (∀ earlier < number, io.spawn earlier = none) →
        reached.serve io =
          ({ ready with
              stopRequested := true, workers := [], joined := List.range number
              listener := none, lifecycle := .stopped }, .error (.transport failure)) := by
  intro reached
  have sound : reached.Sound := (sound_of_create made).run calls
  have working : reached.workers ≠ [] ↔ reached.lifecycle = .serving := by
    -- There is at least one worker to be started.
    have positive := sound.threads
    rw [sound.workers]
    split
    · rename_i serves
      simp only [serves, iff_true, ne_eq, List.range_eq_nil]
      omega
    · rename_i rests
      simp [rests]
  have manned : reached.lifecycle = .serving →
      reached.workers.length = reached.options.threads := by
    intro serves
    rw [sound.workers, if_pos serves, List.length_range]
  have binds : endpoint.successes EndpointCall.isBind calls ≤ 1 :=
    Nat.le_trans (successes_le passes_bind endpoint calls) (by split <;> omega)
  have serves : endpoint.successes EndpointCall.isServe calls ≤ 1 :=
    Nat.le_trans (successes_le passes_serve endpoint calls) (by split <;> omega)
  have bound : reached.lifecycle ≠ .created →
      ∀ options io, ∃ error, reached.bindWith io options = (reached, .error error) :=
    fun late options io => ⟨_, bindWith_of_bound late io options⟩
  refine ⟨rank_le_run reached, sound.listener, working, manned, sound.stop, binds, serves, bound,
    ?_, ?_⟩
  · -- A shut down endpoint was stopped, and stays so.
    intro io shut
    have ended : reached.lifecycle = .stopped := stopped_of_shutdown shut endpoint
    refine ⟨bound (by simp [ended]), fun io => ⟨_, serve_of_late ?_ io⟩, shutdown_of_stopped ended⟩
    rw [ended]
    decide
  · -- The first worker that fails ends the start, whoever has bound the endpoint.
    intro io ready begins handled number inside failure fails fine
    rcases begins with ⟨rfl, stage⟩ | binds
    · exact sound.serve_of_some stage handled inside fails fine
    · -- The call itself binds the endpoint, which is sound then as well.
      rcases bindWith_cases reached io .standard with
        ⟨error, unbound⟩ | ⟨address, fresh, right, now⟩
      · rw [unbound] at binds
        cases binds
      · rw [now] at binds
        cases binds
        rw [serve_of_created fresh now rfl]
        exact (sound.move (.bind fresh right address)).serve_of_some rfl handled inside fails fine

/-- Every address can be bound, and there is no room for a third worker. -/
def narrowIo : EndpointIo where
  bind _ address := .ok { address with port := 40000 }
  spawn id :=
    if id = 2 then some (.ofSystem .wouldBlock "Resource temporarily unavailable" 11) else none
  crashed _ := false

/--
Serving without a handler fails after it has bound the address, a second binding fails, and serving
with three workers where there is room for two ends with both of them waited for.
-/
theorem lived_once_narrow :
    ∃ endpoint : Endpoint Unit, create "127.0.0.1:0" = .ok endpoint ∧
      let ended := endpoint.run
        [.serve narrowIo, .bind .standard narrowIo, .shutdown narrowIo, .serve narrowIo]
      let reached := endpoint.run [.setHandler (), .bind { threads := 3 } narrowIo]
      ended.lifecycle = .stopped ∧ ended.listener = none ∧
        ended.shutdown narrowIo = (ended, .ok ()) ∧
        (reached.serve narrowIo).1.lifecycle = .stopped ∧
        (reached.serve narrowIo).1.joined = [0, 1] := by
  have made : create "127.0.0.1:0" =
      .ok ({ address := { ip := .v4 [127, 0, 0, 1], port := 0 } } : Endpoint Unit) := by rfl
  refine ⟨_, made, rfl, rfl, ?_, ?_⟩
  · -- An endpoint that was shut down stays so.
    obtain ⟨-, -, -, -, -, -, -, -, shut, -⟩ := lived_once made
      [.serve narrowIo, .bind .standard narrowIo, .shutdown narrowIo, .serve narrowIo]
    obtain ⟨-, -, again⟩ := shut narrowIo (by simp)
    exact again narrowIo
  · -- The second of three workers fails, and the two before it are waited for.
    obtain ⟨-, -, -, -, -, -, -, -, -, fails⟩ := lived_once made
      [.setHandler (), .bind { threads := 3 } narrowIo]
    have few : ∀ earlier < 2, narrowIo.spawn earlier = none := by decide
    rw [fails narrowIo _ (.inl ⟨rfl, rfl⟩) rfl 2 (by decide) _ rfl few]
    exact ⟨rfl, rfl⟩

end Endpoint

end HttpEngine
