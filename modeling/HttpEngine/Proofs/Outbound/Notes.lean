import HttpEngine.Proofs.Outbound.Conservation

/-!
What is noted while exchanges are handed out: connections are opened and closed, exchanges are
started and put back, and some are rejected because of a connection. No exchange comes in, no bytes
arrive, and nothing is answered.
-/

namespace HttpEngine

/-- Whether an event belongs to the handing out of exchanges. -/
def Transit.isHandover : Transit → Bool
  | opened .. | started .. | closed .. | requeued .. => true
  | settled _ (.error (.transport _)) => true
  | _ => false

/-- Handing out exchanges settles some of them, because of a connection. -/
theorem Transit.error_of_isHandover {promise : Nat} {outcome : Outcome Response}
    (handover : (Transit.settled promise outcome).isHandover = true) :
    ∃ error, outcome = .error (.transport error) := by
  cases outcome with
  | ok response => cases handover
  | error error =>
    cases error with
    | transport error => exact ⟨error, rfl⟩
    | _ => cases handover

namespace Dispatcher

variable {dispatcher next : Dispatcher} {host : String} {key : Nat}

/-- What is noted when a connection ends. -/
theorem Parting.notes {error : Error} (parting : dispatcher.Parting key error next)
    (accounted : dispatcher.Accounted) :
    ∃ notes, next.journal = dispatcher.journal ++ .closed key :: notes ∧
      ∀ note ∈ notes, (∃ promise, note = .settled promise (.error error)) ∨
        ∃ exchange, note = .requeued exchange := by
  cases parting with
  | freed present free =>
    -- A connection without an exchange leaves nothing to say but that it is gone.
    exact ⟨[], accounted.journal_drop present [], fun _ member => absurd member List.not_mem_nil⟩
  | rejected present carried =>
    rename_i connection exchange
    refine ⟨[.settled exchange.promise (.error error)], ?_, ?_⟩
    · rw [reject, settle, record, accounted.journal_drop present, List.append_assoc]
      rfl
    · exact fun note member => .inl ⟨exchange.promise, List.mem_singleton.1 member⟩
  | requeued present carried stale found =>
    rename_i connection exchange pool
    refine ⟨[.requeued exchange.again], ?_, ?_⟩
    · rw [record, modifyPool, accounted.journal_drop present, List.append_assoc]
      rfl
    · exact fun note member => .inr ⟨exchange.again, List.mem_singleton.1 member⟩

/-- What is noted when an exchange is launched. -/
theorem Launch.notes {exchange : Exchange} (launch : dispatcher.Launch host key exchange next) :
    next.journal = dispatcher.journal ++ [.started key exchange] ∨
      next.journal = dispatcher.journal ++ [.opened key host, .started key exchange] := by
  cases launch with
  | reused found queued rested present => exact .inl rfl
  | opened found queued rested room same =>
    subst same
    exact .inr (List.append_assoc ..)

/-- What is noted while an exchange lands. -/
theorem Landing.notes (landing : dispatcher.Landing key next)
    (accounted : dispatcher.Accounted) :
    ∃ notes, next.journal = dispatcher.journal ++ notes ∧
      ∀ note ∈ notes, note.isHandover = true := by
  cases landing with
  | stays present writeBuffer =>
    exact ⟨[], (List.append_nil _).symm, fun _ member => absurd member List.not_mem_nil⟩
  | parts present writeBuffer error parting =>
    -- The bytes that were given out leave the accounts as they are.
    have still : dispatcher.Move [] _ _ := .tended present _ id writeBuffer
    obtain ⟨notes, journal, kinds⟩ := parting.notes (still.accounted accounted)
    refine ⟨_, journal, fun note member => ?_⟩
    rcases List.mem_cons.1 member with rfl | member
    · rfl
    · obtain ⟨promise, rfl⟩ | ⟨exchange, rfl⟩ := kinds note member <;> rfl

/-- What is noted when an exchange is handed out. -/
theorem Handover.notes (handover : dispatcher.Handover host next)
    (accounted : dispatcher.Accounted) :
    ∃ notes, next.journal = dispatcher.journal ++ notes ∧
      ∀ note ∈ notes, note.isHandover = true := by
  cases handover with
  | refused found queued rested error =>
    -- The exchange at the head of the queue is told the error, and nothing else happens.
    exact ⟨[_], rfl, fun note member => by rw [List.mem_singleton.1 member]; rfl⟩
  | misdirected found queued rested gone error =>
    -- A connection that rests is there, since the accounts agree.
    exact absurd (accounted.idle found rested) (not_idleAt gone)
  | given launch landing =>
    obtain ⟨notes, journal, kinds⟩ := landing.notes ((launch.move []).accounted accounted)
    -- A launch is either on a connection that rests or on a new one, which is noted too.
    rcases launch.notes with launched | launched <;> rw [launched, List.append_assoc] at journal <;>
      refine ⟨_, journal, fun note member => ?_⟩ <;>
      rcases List.mem_append.1 member with member | member
    · rw [List.mem_singleton.1 member]
      rfl
    · exact kinds note member
    · simp only [List.mem_cons, List.not_mem_nil, or_false] at member
      rcases member with rfl | rfl <;> rfl
    · exact kinds note member

/-- What is noted during a pump. -/
theorem notes_pump (net : Nat → HandoverIo) (host : String) (accounted : dispatcher.Accounted) :
    ∃ notes, (dispatcher.pump net host).journal = dispatcher.journal ++ notes ∧
      ∀ note ∈ notes, note.isHandover = true := by
  refine (pump_keeps (fun reached => reached.Accounted ∧ ∃ notes,
    reached.journal = dispatcher.journal ++ notes ∧ ∀ note ∈ notes, note.isHandover = true)
    host ?_ net dispatcher
    ⟨accounted, [], (List.append_nil _).symm, fun _ member => absurd member List.not_mem_nil⟩).2
  -- The notes of each handover come behind those of the others.
  rintro before after handover ⟨accounted, notes, journal, kinds⟩
  obtain ⟨more, grown, alike⟩ := handover.notes accounted
  refine ⟨handover.leads.accounted accounted, notes ++ more,
    by rw [grown, journal, List.append_assoc], fun note member => ?_⟩
  exact (List.mem_append.1 member).elim (kinds note) (alike note)

end Dispatcher

end HttpEngine
