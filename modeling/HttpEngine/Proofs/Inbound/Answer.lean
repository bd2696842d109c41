import HttpEngine.Inbound.Session

/-!
The one answer of each call of a handler: what its first sending says, or a failure if it sends
nothing. Whatever the handler does after that is not seen in the output.
-/

namespace HttpEngine

/-- A response as it is written, with the word on the connection that goes with it. -/
structure Answer where
  response : Response
  keepAlive : Bool
  deriving DecidableEq, Repr

namespace Answer

/-- The bytes of an answer. -/
def bytes (answer : Answer) : Bytes := encodeResponse answer.response answer.keepAlive

/-- What the written header lines say about the connection. -/
def connectionWords (answer : Answer) : List String :=
  ((writtenFields answer.response.headers answer.response.body.length answer.keepAlive).filter
    fun field => sameName field.name "connection").map Field.value

/-- The answer in the place of one that was never sent. -/
def missing (version : Version) : Answer := ⟨ResponseWriter.failureResponse version, false⟩

/--
The answer that a handler gives by its actions.

The headers are those that were set before the first sending, and they may take the connection away.
-/
def ofActions (version : Version) (keepAlive : Bool) : Headers → List WriterAction → Answer
  | _, [] => missing version
  | headers, .add name value :: rest => ofActions version keepAlive (headers.append name value) rest
  | headers, .insert name value :: rest =>
    ofActions version keepAlive (headers.insert name value) rest
  | _, .replace headers :: rest => ofActions version keepAlive headers rest
  | headers, .send status body :: _ =>
    ⟨{ version, status, headers, body }, keepAlive && !headers.wantsClose⟩

/-- The header lines say one thing about the connection, whatever headers the handler has set. -/
theorem connectionWords_eq (answer : Answer) :
    answer.connectionWords = [connectionWord answer.keepAlive] := by
  -- The handler's own lines with that name are left out, and the engine writes one.
  have others : (answer.response.headers.fields.filter fun field =>
      !sameName field.name "content-length" && !sameName field.name "connection").filter
      (fun field => sameName field.name "connection") = [] := by
    rw [List.filter_filter, List.filter_eq_nil_iff]
    intro field _
    cases sameName field.name "connection" <;> simp
  have server : sameName "Server" "connection" = false := by decide
  have length : sameName "Content-Length" "connection" = false := by decide
  have connection : sameName "Connection" "connection" = true := by decide
  simp [connectionWords, writtenFields, others, server, length, connection]

end Answer

/-- Whether an action is a sending. -/
def WriterAction.isSending : WriterAction → Bool
  | .send _ _ => true
  | _ => false

/-- How often a handler tries to send. -/
def sendings (actions : List WriterAction) : Nat :=
  actions.countP WriterAction.isSending

/-- Sendings are counted one by one. -/
theorem sendings_cons (action : WriterAction) (rest : List WriterAction) :
    sendings (action :: rest) = (if action.isSending then 1 else 0) + sendings rest := by
  unfold sendings
  rw [List.countP_cons, Nat.add_comm]

/-- A request that was handed to a handler, and what the handler did. -/
structure Call where
  request : Request
  performance : Performance
  deriving DecidableEq, Repr

namespace Call

/-- The answer that a call gives. -/
def answer (call : Call) : Answer :=
  .ofActions call.request.version call.request.keepAlive .empty call.performance.actions

/-- Whether the connection goes on after a call: it came back, sent once, and said so. -/
def keepsOpen (call : Call) : Bool :=
  !call.performance.crashes && sendings call.performance.actions == 1 && call.answer.keepAlive

end Call

namespace ResponseWriter

/-- After the first sending nothing changes in the output, and sendings are only counted. -/
theorem performAll_of_sent (writer : ResponseWriter) (sent : 0 < writer.sends)
    (actions : List WriterAction) :
    (writer.performAll actions).out = writer.out ∧
      (writer.performAll actions).keepAlive = writer.keepAlive ∧
      (writer.performAll actions).sends = writer.sends + sendings actions := by
  -- Headers are of no more use, and another sending is refused.
  induction actions generalizing writer with
  | nil => exact ⟨rfl, rfl, rfl⟩
  | cons action rest ih =>
    -- One action first, whose sending would be the second one at least.
    have step : (writer.perform action).out = writer.out ∧
        (writer.perform action).keepAlive = writer.keepAlive ∧
        (writer.perform action).sends = writer.sends + if action.isSending then 1 else 0 := by
      cases action with
      | send status body =>
        have second : 1 < writer.sends + 1 := by omega
        simp [perform, send, second, WriterAction.isSending]
      | _ => exact ⟨rfl, rfl, rfl⟩
    obtain ⟨out, keepAlive, sends⟩ := step
    obtain ⟨outs, keepsAlive, count⟩ := ih (writer.perform action) (by omega)
    refine ⟨outs.trans out, keepsAlive.trans keepAlive, count.trans ?_⟩
    rw [sends, sendings_cons, Nat.add_assoc]

/-- What comes of the actions of a handler: its one answer, and whether it kept to the rules. -/
theorem finish_performAll (writer : ResponseWriter) (fresh : writer.sends = 0)
    (actions : List WriterAction) :
    (writer.performAll actions).finish =
      (if sendings actions = 1 then
          .sent (Answer.ofActions writer.version writer.keepAlive writer.headers actions).keepAlive
        else .violated,
        writer.out ++
          (Answer.ofActions writer.version writer.keepAlive writer.headers actions).bytes) := by
  -- The actions before the first sending only set headers.
  induction actions generalizing writer with
  | nil =>
    -- Nothing was sent, and a failure is written in its place.
    simp [performAll, finish, fresh, sendings, Answer.ofActions, Answer.missing, Answer.bytes]
  | cons action rest ih =>
    cases action with
    | add name value => exact ih (writer.addHeader name value) fresh
    | insert name value => exact ih (writer.insertHeader name value) fresh
    | replace headers => exact ih (writer.setHeaders headers) fresh
    | send status body =>
      -- The first sending writes the answer, and the rest can only spoil the completion.
      have first : (writer.send status body).1.sends = 1 := by simp [send, fresh]
      obtain ⟨out, keepAlive, sends⟩ :=
        performAll_of_sent (writer.send status body).1 (by omega) rest
      have wrote : (writer.send status body).1.out = writer.out ++
          (Answer.ofActions writer.version writer.keepAlive writer.headers
            (.send status body :: rest)).bytes := by
        simp [send, fresh, Answer.ofActions, Answer.bytes]
      have kept : (writer.send status body).1.keepAlive =
          (Answer.ofActions writer.version writer.keepAlive writer.headers
            (.send status body :: rest)).keepAlive := by
        simp [send, fresh, Answer.ofActions]
      have count : sendings (.send status body :: rest) = 1 + sendings rest :=
        sendings_cons _ rest
      show ((writer.send status body).1.performAll rest).finish = _
      -- The completion depends on whether there was another sending.
      rw [first] at sends
      unfold finish
      rw [sends, count, out, keepAlive, wrote, kept]
      cases sendings rest with
      | zero => rfl
      | succ others => simp [Nat.add_comm 1]

end ResponseWriter

/-- Answering a request adds the answer of the call to the output, and may close the session. -/
theorem Session.respond_eq (session : Session) (request : Request) (performance : Performance) :
    session.respond request performance =
      { session with
        writeBuffer := session.writeBuffer ++ (Call.mk request performance).answer.bytes
        closing := session.closing || !(Call.mk request performance).keepsOpen } := by
  -- The sink is new, so that its completion is that of the one answer.
  unfold respond
  dsimp only
  rw [ResponseWriter.finish_performAll _ rfl]
  dsimp only [Call.answer, Call.keepsOpen]
  congr 1
  by_cases once : sendings performance.actions = 1
  · -- After one sending, the answer and the return of the handler decide.
    rw [if_pos once]
    cases performance.crashes <;>
      cases (Answer.ofActions request.version request.keepAlive .empty
        performance.actions).keepAlive <;> simp [once]
  · -- Anything else breaks the rules, and ends the session.
    rw [if_neg once, beq_false_of_ne once]
    simp

end HttpEngine
