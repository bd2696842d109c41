import HttpEngine.Inbound.Session
import HttpEngine.Roster

/-!
A worker: the sessions that one thread has accepted, and what it does when a socket is ready, when
time has passed, and when it stops.
-/

namespace HttpEngine

/-- The sessions of one thread. -/
structure Worker where
  sessions : Roster Session := .empty
  timeouts : Timeouts
  maxPayload : Nat

/-- What the operating system answers while a worker looks after one session. -/
structure SessionIo where
  arrival : Arrival := ⟨[], .blocked⟩
  departure : Departure
  /-- Why the session could not go on being watched, if it could not. -/
  watchFailure : Option IoError := none

namespace Worker

/-- One more session, accepted at a time. -/
def accept (worker : Worker) (now : Instant) : Worker :=
  { worker with sessions := worker.sessions.insert (.accepted now) }

/-- The worker after a session ended. -/
def close (worker : Worker) (key : Nat) : Worker :=
  { worker with sessions := worker.sessions.erase key }

/-- Writes what the socket takes, and keeps the session unless it is over. -/
def settle (worker : Worker) (key : Nat) (session : Session) (io : SessionIo) : Worker × Bytes :=
  let sent := io.departure.taken session.writeBuffer
  let failed := (io.departure.result session.writeBuffer).toOption.isNone
  let session := session.flush io.departure
  -- The session goes for any of three reasons, with what could still be written.
  if failed || session.isDone || io.watchFailure.isSome then (worker.close key, sent)
  else ({ worker with sessions := worker.sessions.set key session }, sent)

/-- Looks after a session whose socket is ready: the bytes that went out. -/
def onReady {σ : Type} (worker : Worker) (handler : Handler σ) (now : Instant) (key : Nat)
    (ready : Readiness) (io : SessionIo) (kept : σ) : Worker × Bytes × σ :=
  match worker.sessions.get? key with
  | none => (worker, [], kept)
  | some session =>
    -- Bytes that came before a failed reading are not answered any more.
    if ready.reads && io.arrival.hasFailed then (worker.close key, [], kept)
    else
      let (session, kept) :=
        if ready.reads then (session.fill io.arrival).dispatch handler worker.maxPayload now kept
        else (session, kept)
      let (worker, sent) := worker.settle key session io
      -- A socket in error is given up after the last attempt to write.
      if ready.error then (worker.close key, sent, kept) else (worker, sent, kept)

/-- The earliest deadline of all sessions. -/
def nextDeadline? (worker : Worker) : Option Instant :=
  Instant.earliest? (worker.sessions.entries.filterMap fun (_, session) =>
    session.deadline? worker.timeouts)

/-- Whether a session has run out of time. -/
def isExpired (timeouts : Timeouts) (now : Instant) (session : Session) : Bool :=
  (session.deadline? timeouts).any (·.notAfter now)

/-- The keys of the sessions that have run out of time. -/
def expiredKeys (worker : Worker) (now : Instant) : List Nat :=
  (worker.sessions.entries.filter fun (_, session) =>
    isExpired worker.timeouts now session).map Prod.fst

/-- Gives up on some sessions, and what each of them was sent. -/
def giveUp (worker : Worker) (io : Nat → SessionIo) : List Nat → Worker × List (Nat × Bytes)
  | [] => (worker, [])
  | key :: rest =>
    match worker.sessions.get? key with
    | none => giveUp worker io rest
    | some session =>
      -- The refusal is written at once, as far as the socket takes it.
      let (worker, sent) := worker.settle key session.timeOut (io key)
      let (worker, others) := giveUp worker io rest
      (worker, (key, sent) :: others)

/-- Gives up on every session that has run out of time. -/
def expire (worker : Worker) (now : Instant) (io : Nat → SessionIo) : Worker × List (Nat × Bytes) :=
  worker.giveUp io (worker.expiredKeys now)

/-- The end of the worker: what each session may still send. -/
def drain (worker : Worker) (departure : Nat → Departure) : Worker × List (Nat × Bytes) :=
  ({ worker with sessions := .empty },
    worker.sessions.entries.map fun (key, session) =>
      (key, (departure key).taken session.writeBuffer))

end Worker

end HttpEngine
