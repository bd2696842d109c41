import HttpEngine.Proofs.Inbound.Lifecycle

/-!
What a refused call to serve leaves behind. An endpoint that has been bound before, or has come to
its end, is left as it was. A new endpoint is bound before anybody asks for its handler, and stays
bound if there is none.
-/

namespace HttpEngine

namespace Endpoint

variable {η : Type} {endpoint : Endpoint η} {io : EndpointIo} {fault : OptionsFault}

section Refusals

/-- The standard options are sound, so that a new endpoint is bound unless the system refuses. -/
theorem bindWith_standard_of_created (fresh : endpoint.lifecycle = .created) (io : EndpointIo) :
    (∃ failure, io.bind .standard endpoint.address = .error failure ∧
        endpoint.bindWith io .standard = (endpoint, .error (.transport failure))) ∨
      ∃ address, io.bind .standard endpoint.address = .ok address ∧
        endpoint.bindWith io .standard = (endpoint.bound .standard address, .ok ()) := by
  have sound : EndpointOptions.standard.fault? = none := by decide
  rw [bindWith, if_neg (not_not_intro fresh), sound]
  cases io.bind .standard endpoint.address with
  | error failure => exact .inl ⟨failure, rfl, rfl⟩
  | ok address => exact .inr ⟨address, rfl, rfl⟩

/-- An endpoint that was bound before is left as it was by a refusal. -/
theorem serve_eq_of_refused (old : endpoint.lifecycle ≠ .created)
    (refused : (endpoint.serve io).2 = .error (.invalidOptions fault)) :
    (endpoint.serve io).1 = endpoint := by
  have start := start_serve old io
  -- A start that goes on is no refusal, and one that fails has another error.
  generalize endpoint.serve io = outcome at refused start
  cases start with
  | refused error => rfl
  | launched stage => cases refused
  | failed stage number failure => cases refused

/-- An endpoint without a handler does not serve. -/
theorem serve_of_unhandled (ready : endpoint.lifecycle = .initialized)
    (unhandled : endpoint.handler = none) (io : EndpointIo) :
    endpoint.serve io = (endpoint, .error (.invalidOptions .noHandler)) := by
  simp [serve, ready, unhandled]

/-- An endpoint with a handler and an address is not refused. -/
theorem not_refused_of_ready (ready : endpoint.lifecycle = .initialized)
    (handled : endpoint.handler.isSome = true) (listens : endpoint.listener.isSome = true) :
    (endpoint.serve io).2 ≠ .error (.invalidOptions fault) := by
  -- Its workers start or one of them fails, and neither is a refusal.
  rcases startWorkers_cases io endpoint.options.threads with
    starts | ⟨number, failure, -, -, fails⟩
  · rw [serve_of_started ready handled listens starts]
    exact nofun
  · rw [serve_of_failed ready handled listens fails]
    exact nofun

/-- Why an endpoint that was bound before is refused. -/
theorem Sound.refused_iff_of_bound (sound : endpoint.Sound) (old : endpoint.lifecycle ≠ .created) :
    (endpoint.serve io).2 = .error (.invalidOptions fault) ↔
      fault = .servingOrStopped ∧
          (endpoint.lifecycle = .serving ∨ endpoint.lifecycle = .stopped) ∨
        fault = .noHandler ∧ endpoint.handler = none ∧ endpoint.lifecycle = .initialized := by
  -- In the later stages it is refused for the stage alone.
  have late (stage : endpoint.lifecycle = .serving ∨ endpoint.lifecycle = .stopped) :
      (endpoint.serve io).2 = .error (.invalidOptions .servingOrStopped) := by
    rw [serve_of_late]
    rcases stage with stage | stage <;> rw [stage] <;> decide
  cases stage : endpoint.lifecycle with
  | created => exact absurd stage old
  | initialized =>
    cases handler : endpoint.handler with
    | none =>
      rw [serve_of_unhandled stage handler]
      simp [eq_comm]
    | some handler' =>
      -- What is bound and has a handler may fail, but not for its options.
      have listens : endpoint.listener.isSome = true := sound.listener.2 (.inl stage)
      have handled : endpoint.handler.isSome = true := by rw [handler]; rfl
      simp [not_refused_of_ready stage handled listens]
  | serving =>
    rw [late (.inl stage)]
    simp [eq_comm]
  | stopped =>
    rw [late (.inr stage)]
    simp [eq_comm]

/-- A new endpoint is refused if it can be bound and has no handler. -/
theorem Sound.refused_iff_of_created (sound : endpoint.Sound)
    (fresh : endpoint.lifecycle = .created) :
    (endpoint.serve io).2 = .error (.invalidOptions fault) ↔
      fault = .noHandler ∧ endpoint.handler = none ∧
        ∃ address, io.bind .standard endpoint.address = .ok address := by
  rcases bindWith_standard_of_created fresh io with
    ⟨failure, unbound, fails⟩ | ⟨address, binds, now⟩
  · -- Without an address it fails, but not for its options.
    rw [serve_of_unbound fresh fails]
    simp [unbound]
  · have ready : (endpoint.bound .standard address).Sound :=
      sound.move (.bind fresh (by decide) address)
    rw [serve_of_created fresh now rfl, ready.refused_iff_of_bound (by simp)]
    -- The handler is the one from before.
    simp [bound, binds]

/-- A new endpoint that is refused has been bound with the standard options, and that is all. -/
theorem bindWith_of_refused (fresh : endpoint.lifecycle = .created)
    (refused : (endpoint.serve io).2 = .error (.invalidOptions fault)) :
    endpoint.bindWith io .standard = ((endpoint.serve io).1, .ok ()) := by
  rcases bindWith_standard_of_created fresh io with
    ⟨failure, -, fails⟩ | ⟨address, -, now⟩
  · rw [serve_of_unbound fresh fails] at refused
    cases refused
  · rw [serve_of_created fresh now rfl] at refused ⊢
    -- Once it is bound, the refusal leaves it as it is.
    rw [now, serve_eq_of_refused (by simp) refused]

end Refusals

/--
What a refused call to serve leaves of an endpoint, whatever was asked of it before.

The call is refused if the endpoint serves or has come to its end, and if it has no handler and is
bound, or can be bound by the call. An endpoint that was not new is as it was before. One that was
new is as after binding it with the standard options, so that it holds an address, and whoever binds
it later is told that it has been bound already.
-/
theorem refused_serve {address : String} {endpoint : Endpoint η}
    (made : create address = .ok endpoint) (calls : List (EndpointCall η)) (io : EndpointIo) :
    let reached := endpoint.run calls
    let after := (reached.serve io).1
    (∀ fault, (reached.serve io).2 = .error (.invalidOptions fault) ↔
      fault = .servingOrStopped ∧
          (reached.lifecycle = .serving ∨ reached.lifecycle = .stopped) ∨
        fault = .noHandler ∧ reached.handler = none ∧
          (reached.lifecycle = .initialized ∨ reached.lifecycle = .created ∧
            ∃ address, io.bind .standard reached.address = .ok address)) ∧
    ∀ fault, (reached.serve io).2 = .error (.invalidOptions fault) →
      (reached.lifecycle ≠ .created → after = reached) ∧
      (reached.lifecycle = .created →
        reached.bindWith io .standard = (after, .ok ()) ∧
        (∃ address, io.bind .standard reached.address = .ok address ∧
          after = { reached with
            address, listener := some address, options := .standard
            lifecycle := .initialized }) ∧
        ∀ later options, after.bindWith later options =
          (after, .error (.invalidOptions .alreadyInitialized))) := by
  intro reached after
  have sound : reached.Sound := (sound_of_create made).run calls
  refine ⟨fun fault => ?_, fun fault refused => ⟨fun old => serve_eq_of_refused old refused,
    fun fresh => ?_⟩⟩
  · -- Whether the endpoint was bound before decides which of the two lists of reasons applies.
    by_cases fresh : reached.lifecycle = .created
    · rw [sound.refused_iff_of_created fresh]
      simp [fresh]
    · rw [sound.refused_iff_of_bound fresh]
      simp [fresh]
  · have same := bindWith_of_refused fresh refused
    rcases bindWith_standard_of_created fresh io with
      ⟨failure, -, fails⟩ | ⟨address, binds, now⟩
    · -- What could not be bound was not refused.
      have answer := congrArg Prod.snd (fails.symm.trans same)
      cases answer
    · have bound : after = reached.bound .standard address :=
        (congrArg Prod.fst (now.symm.trans same)).symm
      refine ⟨same, ⟨address, binds, bound⟩, fun later options => bindWith_of_bound ?_ later options⟩
      rw [bound, lifecycle_bound]
      exact nofun

/-- An endpoint of the own machine, at any port. -/
theorem create_anyPort : create "127.0.0.1:0" =
    .ok ({ address := { ip := .v4 [127, 0, 0, 1], port := 0 } } : Endpoint Unit) := by rfl

/-- Without a handler a new endpoint is bound by the refused call, and a bound one stays as it is. -/
theorem refused_serve_narrow :
    ∃ endpoint : Endpoint Unit, create "127.0.0.1:0" = .ok endpoint ∧
      (endpoint.serve narrowIo).2 = .error (.invalidOptions .noHandler) ∧
      endpoint.bindWith narrowIo .standard = ((endpoint.serve narrowIo).1, .ok ()) ∧
      let bound := endpoint.run [.bind { threads := 3 } narrowIo]
      (bound.serve narrowIo).2 = .error (.invalidOptions .noHandler) ∧
        (bound.serve narrowIo).1 = bound := by
  refine ⟨_, create_anyPort, ?_⟩
  obtain ⟨when, left⟩ := refused_serve create_anyPort [] narrowIo
  have refused := (when .noHandler).2 (.inr ⟨rfl, rfl, .inr ⟨rfl, _, rfl⟩⟩)
  obtain ⟨same, -⟩ := (left _ refused).2 rfl
  obtain ⟨when, left⟩ := refused_serve create_anyPort [.bind { threads := 3 } narrowIo] narrowIo
  have again := (when .noHandler).2 (.inr ⟨rfl, rfl, .inl rfl⟩)
  exact ⟨refused, same, again, (left _ again).1 nofun⟩

/--
A refused call does change a new endpoint: it holds an address, and the binding that would have been
made without the call is refused.
-/
theorem refused_serve_binds :
    ∃ endpoint : Endpoint Unit, create "127.0.0.1:0" = .ok endpoint ∧
      let after := (endpoint.serve narrowIo).1
      (endpoint.serve narrowIo).2 = .error (.invalidOptions .noHandler) ∧
      endpoint.lifecycle = .created ∧ after.lifecycle = .initialized ∧
      endpoint.listener = none ∧ after.listener = some after.address ∧
      endpoint.address.port = 0 ∧ after.address.port = 40000 ∧
      (endpoint.bindWith narrowIo { threads := 3 }).2 = .ok () ∧
      (after.bindWith narrowIo { threads := 3 }).2 =
        .error (.invalidOptions .alreadyInitialized) := by
  exact ⟨_, create_anyPort, rfl, rfl, rfl, rfl, rfl, rfl, rfl, rfl, rfl⟩

end Endpoint

end HttpEngine
