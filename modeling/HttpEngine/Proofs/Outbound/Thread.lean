import HttpEngine.Outbound.IoThread
import HttpEngine.Proofs.Outbound.Settlement

/-!
One thread of a client: where an exchange that reached its inbox can be. It is unread, or held by
the dispatcher, or settled; and whatever the thread does, it is in one of these places.
-/

namespace HttpEngine

namespace Dispatcher

variable {dispatcher : Dispatcher}

/-- One errand of a sound dispatcher lets in what comes with it, and loses nothing. -/
theorem Sound.attend {came : List Exchange} (sound : Sound [] came ⟨dispatcher, []⟩)
    (net : Nat → HandoverIo) (errand : Errand) :
    Sound [] (came ++ errand.exchange?.toList) ⟨dispatcher.attend net errand, []⟩ ∧
      (∀ promise,
        (Journal.settlements (dispatcher.attend net errand).journal promise).length +
            (dispatcher.attend net errand).holdings promise =
          (Journal.settlements dispatcher.journal promise).length + dispatcher.holdings promise +
            errand.exchange?.toList.countP (Exchange.isFor promise)) ∧
      ∃ notes, (dispatcher.attend net errand).journal = dispatcher.journal ++ notes := by
  -- What was noted before stands in front of what is noted now.
  have early : Sound dispatcher.journal came ⟨dispatcher, []⟩ :=
    { sound with grown := ⟨[], (List.append_nil _).symm⟩ }
  have late := early.attendAll net [errand]
  have comes : submitted [errand] = errand.exchange?.toList := by
    cases errand <;> rfl
  rw [comes, Dispatcher.attendAll, List.foldl_cons, List.foldl_nil] at late
  refine ⟨{ late with grown := ⟨_, rfl⟩ }, fun promise => ?_, late.grown⟩
  -- The books before and after the errand are balanced, and differ by what came in.
  have before := sound.balance promise
  have after := late.balance promise
  rw [List.countP_append] at after
  omega

/-- Nothing is held after the end. -/
theorem holdings_abort (dispatcher : Dispatcher) (others : List Exchange) (promise : Nat) :
    (dispatcher.abort others).holdings promise = 0 := by
  rw [← length_places, places_abort]
  rfl

end Dispatcher

namespace IoThread

/-- How often the exchange of a promise is with a thread: settled, held or unread. -/
def account (thread : IoThread) (promise : Nat) : Nat :=
  (Journal.settlements thread.dispatcher.journal promise).length +
    thread.dispatcher.holdings promise + thread.unread.countP (Exchange.isFor promise)

/-- A thread that works soundly, holds nothing after its work, and has no inbox when it is gone. -/
structure Orderly (thread : IoThread) : Prop where
  sound : thread.isWorking = true → ∃ came, Dispatcher.Sound [] came ⟨thread.dispatcher, []⟩
  empty : thread.isWorking = false → ∀ promise, thread.dispatcher.holdings promise = 0
  closed : thread.stage = .gone → thread.inbox = []

/-- Whether an act makes the thread give up all that it holds and all that is unread. -/
def givesUp (thread : IoThread) : ThreadAct → Bool
  | .abort | .crash => thread.isWorking
  | .leave => thread.stage == .aborted
  | _ => false

/-- A thread that has gone on without losing an exchange or a note. -/
structure GoesOn (before after : IoThread) : Prop where
  orderly : after.Orderly
  account : ∀ promise, after.account promise = before.account promise
  grown : ∃ notes, after.dispatcher.journal = before.dispatcher.journal ++ notes

variable {thread : IoThread}

/-- A thread that does nothing goes on. -/
theorem Orderly.goesOn (orderly : thread.Orderly) : GoesOn thread thread :=
  ⟨orderly, fun _ => rfl, [], (List.append_nil _).symm⟩

/-- A thread that works and does an errand goes on. -/
theorem Orderly.attend (orderly : thread.Orderly) (working : thread.isWorking = true)
    (net : Nat → HandoverIo) (errand : Errand) {inbox : List Command}
    (unread : thread.unread =
      errand.exchange?.toList ++ inbox.filterMap Command.exchange?) :
    GoesOn thread
      { thread with inbox, dispatcher := thread.dispatcher.attend net errand } := by
  obtain ⟨came, sound⟩ := orderly.sound working
  obtain ⟨later, balance, grown⟩ := sound.attend net errand
  refine ⟨⟨fun _ => ⟨_, later⟩, fun idle => ?_, fun gone => ?_⟩, fun promise => ?_, grown⟩
  · -- A thread that works is neither idle nor gone.
    exact absurd working (by simpa [isWorking] using idle)
  · have busy : thread.stage = .gone := gone
    exact absurd working (by simp [isWorking, busy])
  · -- What leaves the inbox is held or settled by the dispatcher.
    have settled := balance promise
    have counted := congrArg (List.countP (Exchange.isFor promise)) unread
    rw [List.countP_append] at counted
    rw [account, account, IoThread.unread]
    dsimp only
    omega

/-- What a thread gives up is settled. -/
theorem giveUp_goesOn (thread : IoThread) {stage : ThreadStage}
    (ended : stage = .aborted ∨ stage = .gone) : GoesOn thread (thread.giveUp stage) := by
  -- Giving up is the end of all work.
  have idle : (thread.giveUp stage).isWorking = false := by
    rcases ended with rfl | rfl <;> rfl
  refine ⟨⟨fun working => ?_, fun _ promise => ?_, fun _ => rfl⟩, fun promise => ?_, ?_⟩
  · rw [idle] at working
    cases working
  · -- A dispatcher that has given up holds nothing.
    exact Dispatcher.holdings_abort thread.dispatcher thread.unread promise
  · -- Everything that was held and everything in the inbox is settled.
    have settled := Dispatcher.length_settlements_abort thread.dispatcher thread.unread promise
    have empty := Dispatcher.holdings_abort thread.dispatcher thread.unread promise
    rw [account, account, giveUp, settled, empty]
    simp [unread]
  · obtain ⟨notes, journal, _⟩ := Dispatcher.starts_abort thread.dispatcher thread.unread 0
    exact ⟨notes, journal⟩

/-- Whatever a thread does, it goes on. -/
theorem step_goesOn (orderly : thread.Orderly) (net : Nat → HandoverIo) (act : ThreadAct) :
    GoesOn thread (thread.step net act) := by
  unfold step
  cases act with
  | receive =>
    dsimp only
    split
    · rename_i running
      -- Only a thread that runs reads its inbox.
      have working : thread.isWorking = true := by simp [isWorking, running]
      unfold receive
      split
      · exact orderly.goesOn
      · rename_i rest inbox
        -- The command to stop brings no exchange.
        refine ⟨⟨fun _ => orderly.sound working, fun idle => ?_, fun gone => ?_⟩, fun promise => ?_,
          [], (List.append_nil _).symm⟩
        · cases idle
        · cases gone
        · rw [account, account, unread, unread, inbox]
          rfl
      · rename_i exchange rest inbox
        -- The exchange goes from the inbox to the dispatcher.
        refine orderly.attend working net (.submit exchange) ?_
        rw [unread, inbox]
        rfl
    · exact orderly.goesOn
  | ready key ready io =>
    dsimp only
    split
    · rename_i working
      exact orderly.attend working net (.ready key ready io) rfl
    · exact orderly.goesOn
  | expire now =>
    dsimp only
    split
    · rename_i working
      -- Time passes for a thread that works, running or stopping.
      exact orderly.attend working net (.expire now) rfl
    · exact orderly.goesOn
  | abort =>
    dsimp only
    split
    · exact giveUp_goesOn thread (.inl rfl)
    · exact orderly.goesOn
  | leave =>
    dsimp only
    split
    · exact giveUp_goesOn thread (.inr rfl)
    · exact orderly.goesOn
  | crash =>
    dsimp only
    split
    · exact giveUp_goesOn thread (.inr rfl)
    · exact orderly.goesOn

end IoThread

end HttpEngine
