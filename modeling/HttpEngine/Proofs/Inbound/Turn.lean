import HttpEngine.Proofs.Inbound.Answer
import HttpEngine.Proofs.Wire.RequestStream

/-!
One turn at a buffer: the calls it leads to, the refusal that may end it, and what is left. A
session that dispatches takes one turn, and so its output is that of the calls and the refusal.
-/

namespace HttpEngine

variable {σ : Type}

/-- The bytes of a refusal, if there is one. -/
def refusalBytes : Option Status → Bytes
  | none => []
  | some status => encodeResponse (Session.refusal status) false

/-- The bytes of the answers of calls, in their order. -/
def answerBytes (calls : List Call) : Bytes := calls.flatMap fun call => call.answer.bytes

/-- The answers of calls stand one behind the other. -/
@[simp] theorem answerBytes_append (calls others : List Call) :
    answerBytes (calls ++ others) = answerBytes calls ++ answerBytes others :=
  List.flatMap_append

/-- What answering every complete request of a buffer comes to. -/
structure Turn (σ : Type) where
  calls : List Call
  kept : σ
  refusal : Option Status := none
  rest : Bytes

namespace Turn

/-- Whether the session is over: after a refusal, and after a call that did not keep it open. -/
def closes (turn : Turn σ) : Bool := turn.refusal.isSome || !turn.calls.all Call.keepsOpen

/-- What is written in the turn. -/
def output (turn : Turn σ) : Bytes := answerBytes turn.calls ++ refusalBytes turn.refusal

/-- The turn with calls in front of its own. -/
def behind (turn : Turn σ) (calls : List Call) : Turn σ := { turn with calls := calls ++ turn.calls }

/-- A session goes on if nothing was refused and every call kept it open. -/
theorem closes_eq_false_iff {turn : Turn σ} :
    turn.closes = false ↔
      turn.refusal = none ∧ ∀ call ∈ turn.calls, call.keepsOpen = true := by
  -- The same two questions, asked of propositions.
  rw [closes, Bool.or_eq_false_iff, Option.isSome_eq_false_iff, Option.isNone_iff_eq_none,
    Bool.not_eq_false', List.all_eq_true]

/-- Calls in front add their answers to the output. -/
@[simp] theorem output_behind (turn : Turn σ) (calls : List Call) :
    (turn.behind calls).output = answerBytes calls ++ turn.output := by
  simp [output, behind, List.append_assoc]

/-- Calls that keep the session open do not decide whether the turn closes it. -/
theorem closes_behind {calls : List Call} (clean : calls.all Call.keepsOpen = true)
    (turn : Turn σ) : (turn.behind calls).closes = turn.closes := by
  -- All calls keep the session open exactly if those of the turn do.
  simp [closes, behind, clean]

/-- The turn of a handler at a buffer. -/
def take (handler : Handler σ) (maxPayload : Nat) (kept : σ) (buffer : Bytes) : Turn σ :=
  match _decoded : decodeRequest maxPayload buffer with
  | .incomplete => ⟨[], kept, none, buffer⟩
  | .failed error => ⟨[], kept, some (Session.refusalStatus error), []⟩
  | .message request consumed =>
    let call : Call := ⟨request, (handler kept request).1⟩
    let next := (handler kept request).2
    if call.keepsOpen then (take handler maxPayload next (buffer.drop consumed)).behind [call]
    else ⟨[call], next, none, buffer.drop consumed⟩
termination_by buffer.length
decreasing_by
  -- A request takes at least one byte.
  have taken := decodeRequest_consumed _decoded
  rw [List.length_drop]
  omega

section Equations

variable {handler : Handler σ} {maxPayload : Nat} {kept : σ} {buffer : Bytes}

/-- Without a complete request there is nothing to do. -/
theorem take_incomplete (waits : decodeRequest maxPayload buffer = .incomplete) :
    take handler maxPayload kept buffer = ⟨[], kept, none, buffer⟩ := by
  -- Of the three ways to go on, only one is open.
  rw [take]
  split
  · rfl
  · rename_i error decoded; rw [waits] at decoded; cases decoded
  · rename_i request consumed decoded; rw [waits] at decoded; cases decoded

/-- A fault is refused, and nothing is left. -/
theorem take_failed {error : DecodeError}
    (fails : decodeRequest maxPayload buffer = .failed error) :
    take handler maxPayload kept buffer =
      ⟨[], kept, some (Session.refusalStatus error), []⟩ := by
  rw [take]
  split
  · rename_i decoded; rw [fails] at decoded; cases decoded
  · rename_i found decoded; rw [fails] at decoded; cases decoded; rfl
  · rename_i request consumed decoded; rw [fails] at decoded; cases decoded

/-- A request is handed to the handler, and the turn goes on if the call keeps the session open. -/
theorem take_message {request : Request} {consumed : Nat}
    (comes : decodeRequest maxPayload buffer = .message request consumed) :
    take handler maxPayload kept buffer =
      if (Call.mk request (handler kept request).1).keepsOpen then
        (take handler maxPayload (handler kept request).2 (buffer.drop consumed)).behind
          [⟨request, (handler kept request).1⟩]
      else ⟨[⟨request, (handler kept request).1⟩], (handler kept request).2, none,
        buffer.drop consumed⟩ := by
  rw [take]
  split
  · rename_i decoded; rw [comes] at decoded; cases decoded
  · rename_i error decoded; rw [comes] at decoded; cases decoded
  · rename_i found taken decoded; rw [comes] at decoded; cases decoded; rfl

end Equations

/--
A turn hands over the requests that the buffer begins with, and leaves what is behind them. It
closes the session for one of its calls, or because what is behind them is refused.
-/
theorem requestsOf_take (handler : Handler σ) (maxPayload : Nat) (kept : σ) (buffer : Bytes) :
    ∃ rest, RequestsOf maxPayload buffer
        ((take handler maxPayload kept buffer).calls.map Call.request) rest ∧
      ((take handler maxPayload kept buffer).closes = false →
        rest = (take handler maxPayload kept buffer).rest) ∧
      ((take handler maxPayload kept buffer).closes = true ↔
        (∃ call ∈ (take handler maxPayload kept buffer).calls, call.keepsOpen = false) ∨
          ∃ error, decodeRequest maxPayload rest = .failed error) := by
  -- A refusal throws the rest away, so that only an open session still has it.
  fun_induction take handler maxPayload kept buffer with
  | case1 kept buffer waits =>
    exact ⟨buffer, .none buffer, fun _ => rfl, by simp [closes, waits]⟩
  | case2 kept buffer error fails =>
    exact ⟨buffer, .none buffer, nofun, by simp [closes, fails]⟩
  | case3 kept buffer request consumed comes call next keeps ih =>
    -- One more request stands in front of the others, and its call keeps the session open.
    obtain ⟨rest, these, left, ends⟩ := ih
    rw [closes_behind (by simp [keeps])]
    exact ⟨rest, .next comes these, left, by rw [ends]; simp [behind, keeps]⟩
  | case4 kept buffer request consumed comes call next shut =>
    exact ⟨buffer.drop consumed, .next comes (.none _), fun _ => rfl, by simp [closes, shut]⟩

/-- A turn that leaves the session open has left no complete request. -/
theorem incomplete_of_open {handler : Handler σ} {maxPayload : Nat} {kept : σ} {buffer : Bytes}
    (isOpen : (take handler maxPayload kept buffer).closes = false) :
    decodeRequest maxPayload (take handler maxPayload kept buffer).rest = .incomplete := by
  -- Of the ways in which a turn ends, only the one for want of bytes leaves the session open.
  fun_induction take handler maxPayload kept buffer with
  | case1 kept buffer waits => exact waits
  | case2 kept buffer error fails => cases isOpen
  | case3 kept buffer request consumed comes call next keeps ih =>
    rw [closes_behind (by simp [keeps])] at isOpen
    exact ih isOpen
  | case4 kept buffer request consumed comes call next shut =>
    simp [closes, shut] at isOpen

end Turn

/-- A handler that also writes its calls down. -/
def Handler.logged (handler : Handler σ) : Handler (σ × List Call) :=
  fun (kept, calls) request =>
    ((handler kept request).1,
      (handler kept request).2, calls ++ [⟨request, (handler kept request).1⟩])

namespace Session

/-- A session that is closing answers nothing. -/
theorem answerAll_of_closing {handler : Handler σ} {maxPayload : Nat} {session : Session}
    (closing : session.closing = true) (kept : σ) :
    session.answerAll handler maxPayload kept = (session, kept) := by
  rw [answerAll, if_pos closing]

/-- Writing the calls down changes nothing about them. -/
theorem answerAll_logged_forget (handler : Handler σ) (maxPayload : Nat) (session : Session)
    (kept : σ) (calls : List Call) :
    (session.answerAll handler.logged maxPayload (kept, calls)).1 =
        (session.answerAll handler maxPayload kept).1 ∧
      (session.answerAll handler.logged maxPayload (kept, calls)).2.1 =
        (session.answerAll handler maxPayload kept).2 := by
  -- Both handlers do the same to each request, and go on with the same memory.
  induction size : session.readBuffer.length using Nat.strongRecOn
    generalizing session kept calls with
  | ind n ih =>
    rw [answerAll, answerAll]
    split
    · exact ⟨rfl, rfl⟩
    · split
      · -- The rest is shorter by the request.
        rename_i request consumed decoded
        have taken := decodeRequest_consumed decoded
        exact ih (session.readBuffer.drop consumed).length
          (by rw [List.length_drop]; omega) _ _ _ rfl
      · exact ⟨rfl, rfl⟩
      · exact ⟨rfl, rfl⟩

/--
A session that is open takes one turn at what came in.

The request that was being received goes on only if the turn answers none.
-/
theorem answerAll_logged (handler : Handler σ) (maxPayload : Nat) (session : Session)
    (isOpen : session.closing = false) (kept : σ) (calls : List Call) :
    session.answerAll handler.logged maxPayload (kept, calls) =
      ({ session with
          readBuffer := (Turn.take handler maxPayload kept session.readBuffer).rest
          writeBuffer := session.writeBuffer ++
            (Turn.take handler maxPayload kept session.readBuffer).output
          closing := (Turn.take handler maxPayload kept session.readBuffer).closes
          started :=
            if (Turn.take handler maxPayload kept session.readBuffer).calls.isEmpty then
              session.started
            else none },
        (Turn.take handler maxPayload kept session.readBuffer).kept,
        calls ++ (Turn.take handler maxPayload kept session.readBuffer).calls) := by
  -- Both sides decode the same buffer, and each request leaves both with the same rest.
  induction size : session.readBuffer.length using Nat.strongRecOn
    generalizing session kept calls with
  | ind n ih =>
    rw [answerAll, if_neg (by simp [isOpen])]
    split
    · -- A request is there, and the call decides whether another one is looked for.
      rename_i request consumed decoded
      have taken := decodeRequest_consumed decoded
      rw [Turn.take_message decoded]
      dsimp only [Handler.logged]
      rw [respond_eq]
      dsimp only
      rw [isOpen, Bool.false_or]
      cases keeps : (Call.mk request (handler kept request).1).keepsOpen with
      | false =>
        -- The call ends the session, so that nothing else is looked at.
        rw [answerAll_of_closing (by rfl)]
        simp [Turn.output, Turn.closes, answerBytes, refusalBytes, keeps]
      | true =>
        -- The session goes on with the rest, as the turn does, and nothing is being received.
        have rest := ih (session.readBuffer.drop consumed).length
          (by rw [List.length_drop]; omega)
          { session with
            readBuffer := session.readBuffer.drop consumed
            writeBuffer := session.writeBuffer ++
              (Call.mk request (handler kept request).1).answer.bytes
            closing := !true
            started := none } rfl (handler kept request).2
          (calls ++ [⟨request, (handler kept request).1⟩]) rfl
        rw [if_pos rfl, Turn.output_behind, Turn.closes_behind (by simp [keeps])]
        refine rest.trans ?_
        simp [Turn.behind, answerBytes, List.append_assoc]
    · -- More bytes are needed, and the session stays as it is.
      rename_i decoded
      rw [Turn.take_incomplete decoded]
      simp [Turn.output, Turn.closes, answerBytes, refusalBytes, ← isOpen]
    · -- The refusal is the last thing that is written.
      rename_i error decoded
      rw [Turn.take_failed decoded]
      simp [Turn.output, Turn.closes, answerBytes, refusalBytes, refuse]

end Session

end HttpEngine
