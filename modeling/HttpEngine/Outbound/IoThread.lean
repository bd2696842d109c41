import HttpEngine.Outbound.Reaction

/-!
One thread of a client: a dispatcher behind an inbox. After its end the inbox takes nothing more,
and whatever was in it is rejected.
-/

namespace HttpEngine

/-- What a thread is told. -/
inductive Command where
  | submit (exchange : Exchange)
  | stop
  deriving DecidableEq, Repr

/-- The exchange of a command, if it has one. -/
def Command.exchange? : Command → Option Exchange
  | submit exchange => some exchange
  | stop => none

/-- The stages of a thread. -/
inductive ThreadStage where
  | running
  /-- It was told to stop, and finishes what it is at. -/
  | stopping
  /-- It has rejected what it held, and its inbox is still there. -/
  | aborted
  | gone
  deriving DecidableEq, Repr

/-- One thread of a client. -/
structure IoThread where
  dispatcher : Dispatcher
  inbox : List Command := []
  stage : ThreadStage := .running

/-- What a thread does next, with what the operating system has to say. -/
inductive ThreadAct where
  /-- It takes one command out of its inbox. -/
  | receive
  | ready (key : Nat) (ready : Readiness) (io : ConnectionIo)
  | expire (now : Instant)
  /-- It rejects everything that it holds and everything in its inbox. -/
  | abort
  /-- It ends, and its inbox with it. -/
  | leave
  /-- A continuation crashed on it, and it ends at once. -/
  | crash

namespace IoThread

/-- Whether the thread still does its work. -/
def isWorking (thread : IoThread) : Bool :=
  thread.stage == .running || thread.stage == .stopping

/-- Puts a command into the inbox, unless there is no inbox any more. -/
def deliver? (thread : IoThread) (command : Command) : Option IoThread :=
  if thread.stage = .gone then none else some { thread with inbox := thread.inbox ++ [command] }

/-- The exchanges that wait in the inbox. -/
def unread (thread : IoThread) : List Exchange :=
  thread.inbox.filterMap Command.exchange?

/-- The thread after its dispatcher and its inbox were given up. -/
def giveUp (thread : IoThread) (stage : ThreadStage) : IoThread :=
  -- What was never read is rejected together with what was held.
  { dispatcher := thread.dispatcher.abort thread.unread, inbox := [], stage }

/-- Takes one command out of the inbox. -/
def receive (net : Nat → HandoverIo) (thread : IoThread) : IoThread :=
  match thread.inbox with
  | [] => thread
  -- What stands behind the command to stop stays in the inbox.
  | .stop :: rest => { thread with inbox := rest, stage := .stopping }
  | .submit exchange :: rest =>
    { thread with inbox := rest, dispatcher := thread.dispatcher.submit net exchange }

/-- One act of the thread. What does not fit its stage changes nothing. -/
def step (net : Nat → HandoverIo) (thread : IoThread) : ThreadAct → IoThread
  | .receive => if thread.stage = .running then thread.receive net else thread
  | .ready key ready io =>
    if thread.isWorking then
      { thread with dispatcher := thread.dispatcher.onReady net key ready io }
    else thread
  | .expire now =>
    if thread.isWorking then { thread with dispatcher := thread.dispatcher.expire net now }
    else thread
  | .abort => if thread.isWorking then thread.giveUp .aborted else thread
  | .leave => if thread.stage = .aborted then thread.giveUp .gone else thread
  | .crash => if thread.isWorking then thread.giveUp .gone else thread

/-- Takes commands until the inbox is empty or one of them is to stop. -/
def receiveAll (net : Nat → HandoverIo) (thread : IoThread) : IoThread :=
  thread.inbox.foldl (fun thread _ => thread.step net .receive) thread

end IoThread

end HttpEngine
