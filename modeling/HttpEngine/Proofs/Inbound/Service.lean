import HttpEngine.Proofs.Inbound.Turn

/-!
A session in service: the session with its handler's memory, the calls so far, the bytes that came
in, and the bytes that the socket has taken. Its acts are those of a worker, in any order.
-/

namespace HttpEngine

variable {σ : Type}

/-- A session in service. -/
structure Service (σ : Type) where
  session : Session
  kept : σ
  calls : List Call := []
  received : Bytes := []
  sent : Bytes := []

/-- What can be done with a session. -/
inductive ServiceAct where
  | fill (arrival : Arrival)
  | dispatch (now : Instant)
  | flush (departure : Departure)
  | timeOut

namespace Service

/-- A session that was accepted at a time. -/
def opened (kept : σ) (now : Instant) : Service σ := { session := .accepted now, kept }

/-- Everything that was written: what the socket has taken, and what still waits. -/
def output (service : Service σ) : Bytes := service.sent ++ service.session.writeBuffer

/-- Takes in the bytes that arrived. -/
def fill (service : Service σ) (arrival : Arrival) : Service σ :=
  { service with
    session := service.session.fill arrival
    received := service.received ++ arrival.bytes }

/-- Gives out as many bytes as the socket takes. -/
def flush (service : Service σ) (departure : Departure) : Service σ :=
  { service with
    session := service.session.flush departure
    sent := service.sent ++ departure.taken service.session.writeBuffer }

/-- Answers what can be answered. -/
def dispatch (handler : Handler σ) (maxPayload : Nat) (service : Service σ) (now : Instant) :
    Service σ :=
  let (session, kept, calls) :=
    service.session.dispatch handler.logged maxPayload now (service.kept, service.calls)
  { service with session, kept, calls }

/-- Gives up on the peer, if the session has a deadline that can pass. -/
def timeOut (service : Service σ) (timeouts : Timeouts) : Service σ :=
  if (service.session.deadline? timeouts).isSome then
    { service with session := service.session.timeOut }
  else service

/-- One act. -/
def step (handler : Handler σ) (maxPayload : Nat) (timeouts : Timeouts) (service : Service σ) :
    ServiceAct → Service σ
  | .fill arrival => service.fill arrival
  | .dispatch now => service.dispatch handler maxPayload now
  | .flush departure => service.flush departure
  | .timeOut => service.timeOut timeouts

/-- Acts, one after the other. -/
def run (handler : Handler σ) (maxPayload : Nat) (timeouts : Timeouts) (service : Service σ)
    (acts : List ServiceAct) : Service σ :=
  acts.foldl (step handler maxPayload timeouts) service

/-- What goes out was written before. -/
@[simp] theorem output_flush (service : Service σ) (departure : Departure) :
    (service.flush departure).output = service.output := by
  -- The bytes that the socket takes move from one side to the other.
  unfold output flush Session.flush
  rw [List.append_assoc, departure.taken_append_left]

/-- A refusal is written behind everything else. -/
@[simp] theorem output_refuse (service : Service σ) (status : Status) :
    ({ service with session := service.session.refuse status } : Service σ).output =
      service.output ++ refusalBytes (some status) :=
  (List.append_assoc _ _ _).symm

/-- What comes in is not written. -/
@[simp] theorem output_fill (service : Service σ) (arrival : Arrival) :
    (service.fill arrival).output = service.output := rfl

section Dispatch

variable (handler : Handler σ) (maxPayload : Nat) {service : Service σ}

/-- The session and the memory are those of the handler itself, which writes no calls down. -/
theorem dispatch_unlogged (service : Service σ) (now : Instant) :
    (service.dispatch handler maxPayload now).session =
        (service.session.dispatch handler maxPayload now service.kept).1 ∧
      (service.dispatch handler maxPayload now).kept =
        (service.session.dispatch handler maxPayload now service.kept).2 := by
  -- The requests are answered alike, and then the time is taken of the same rest.
  obtain ⟨session, memory⟩ := Session.answerAll_logged_forget handler maxPayload
    service.session service.kept service.calls
  unfold dispatch Session.dispatch
  dsimp only
  rw [session]
  split
  · exact ⟨rfl, memory⟩
  · exact ⟨rfl, memory⟩

/-- A session that is closing does nothing more: it makes no call and writes nothing. -/
theorem dispatch_of_closing (closing : service.session.closing = true) (now : Instant) :
    (service.dispatch handler maxPayload now).session.closing = true ∧
      (service.dispatch handler maxPayload now).kept = service.kept ∧
      (service.dispatch handler maxPayload now).calls = service.calls ∧
      (service.dispatch handler maxPayload now).output = service.output ∧
      (service.dispatch handler maxPayload now).received = service.received := by
  -- The time is taken of what is left, and that is all.
  unfold dispatch Session.dispatch output
  rw [Session.answerAll_of_closing closing]
  dsimp only
  split <;> simp [closing]

/-- A session that is open takes one turn, and closes if its peer sends nothing more. -/
theorem dispatch_of_open (isOpen : service.session.closing = false) (now : Instant) :
    let turn := Turn.take handler maxPayload service.kept service.session.readBuffer
    let after := service.dispatch handler maxPayload now
    after.session.closing = (turn.closes || service.session.peerClosed) ∧
      after.kept = turn.kept ∧
      after.calls = service.calls ++ turn.calls ∧
      after.output = service.output ++ turn.output ∧
      after.received = service.received ∧
      after.session.readBuffer = turn.rest ∧
      after.session.peerClosed = service.session.peerClosed := by
  -- What the turn does is left as it is when the time is taken.
  have answered := Session.answerAll_logged handler maxPayload
    service.session isOpen service.kept service.calls
  dsimp only
  unfold dispatch Session.dispatch output
  rw [answered]
  dsimp only
  split <;> simp [List.append_assoc]

/-- A session that is open after a dispatch was open before. -/
theorem open_of_open_dispatch {now : Instant}
    (isOpen : (service.dispatch handler maxPayload now).session.closing = false) :
    service.session.closing = false := by
  rw [Bool.eq_false_iff]
  intro shut
  -- It would be closing still.
  obtain ⟨closing, -⟩ := dispatch_of_closing handler maxPayload shut now
  exact Bool.false_ne_true (isOpen.symm.trans closing)

/-- A session that is open after it was answered has left no complete request. -/
theorem incomplete_of_open_dispatch (now : Instant)
    (isOpen : (service.dispatch handler maxPayload now).session.closing = false) :
    decodeRequest maxPayload
      (service.dispatch handler maxPayload now).session.readBuffer = .incomplete := by
  have before := open_of_open_dispatch handler maxPayload isOpen
  obtain ⟨closing, _, _, _, _, buffer, _⟩ := dispatch_of_open handler maxPayload before now
  rw [closing, Bool.or_eq_false_iff] at isOpen
  rw [buffer]
  exact Turn.incomplete_of_open isOpen.1

end Dispatch

end Service

end HttpEngine
