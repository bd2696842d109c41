import HttpEngine.Net.Network
import HttpEngine.Outbound.Client

/-!
Scripts over a client. After every sending each thread takes in what it was sent, so that whatever
can be settled without an answer from a peer is settled then.
-/

namespace HttpEngine

/-- A request as a script describes it. -/
structure RequestSketch where
  method : Method := .get
  target : String
  headers : List Field := []
  body : Option Bytes := none
  timeout : Option Duration := none

/-- What becomes of a client when a value comes in. -/
inductive ValueEffect where
  | shutdown
  /-- The continuation crashes, and the thread that it runs on with it. -/
  | crash
  deriving DecidableEq, Repr

/-- One step with a client. -/
inductive RequestStep where
  | send (sketch : RequestSketch) (count : Nat)
  | wait (index : Nat)
  | fetch (sketch : RequestSketch)
  | measure (sketch : RequestSketch)
  | fetchWith (effect : ValueEffect) (sketch : RequestSketch)
  /-- Waits until the peer has received a number of requests. -/
  | awaitArrivals (count : Nat)
  | shutdown

/-- What a step comes to. -/
inductive RequestAnswer where
  /-- How many requests were sent before this step, and after it. -/
  | sent (before after : Nat)
  | response (outcome : Outcome Response)
  | length (outcome : Outcome Nat)
  | done
  /-- What the step waits for has not happened, and nothing is left that would bring it about. -/
  | unsettled
  | unknown

namespace RequestSketch

/--
The draft of a sketch.

Only the four methods that have drafts of their own carry more than a target.
-/
def draft (sketch : RequestSketch) (options : ClientOptions) : Draft :=
  let bare := Draft.new options sketch.method sketch.target
  if [Method.get, .post, .put, .delete].contains sketch.method then
    let headed := sketch.headers.foldl (fun draft field => draft.header field.name field.value) bare
    let filled := (sketch.body.map headed.body).getD headed
    (sketch.timeout.map filled.within).getD filled
  else bare

end RequestSketch

/-- A client, and what came of each request that was sent: an error at once, or a promise. -/
structure RequestDesk where
  client : Client
  sent : List (Except Error Nat) := []

namespace RequestDesk

/-- What the operating system answers to every thread of a client in a network. -/
def net (network : Network) : Nat → Nat → HandoverIo := fun _ _ =>
  { connect := network.connect, departure := ⟨0, none⟩ }

/-- Sends a draft, lets the threads take it in, and notes what came of it. -/
def send (network : Network) (now : Instant) (desk : RequestDesk) (sketch : RequestSketch) :
    RequestDesk × Except Error Nat :=
  let (client, sent) := desk.client.send (sketch.draft desk.client.options) now
  (⟨client.receiveAll (net network), desk.sent ++ [sent]⟩, sent)

/-- What is known of a request that was sent. -/
def outcome? (desk : RequestDesk) : Except Error Nat → Option (Outcome Response)
  | .error error => some (.error error)
  | .ok promise => desk.client.outcome? promise

/-- Sends a draft a number of times. -/
def sendMany (network : Network) (now : Instant) (sketch : RequestSketch) :
    Nat → RequestDesk → RequestDesk
  | 0, desk => desk
  | count + 1, desk =>
    sendMany network now sketch count (desk.send network now sketch).1

/-- The client after a value came in on the thread that was used last. -/
def suffer (network : Network) (desk : RequestDesk) : ValueEffect → RequestDesk
  | .shutdown => { desk with client := desk.client.shutdown (net network) }
  | .crash =>
    let threads := desk.client.threads.length
    let last := (desk.client.next + threads - 1) % threads
    { desk with client := desk.client.step (net network) (.thread last .crash) }

/-- An outcome as the answer to a step. -/
def answer : Option (Outcome Response) → RequestAnswer
  | some outcome => .response outcome
  | none => .unsettled

/-- One step at a time: the desk after it, and what it comes to. -/
def perform (network : Network) (now : Instant) (desk : RequestDesk) :
    RequestStep → RequestDesk × RequestAnswer
  | .send sketch count =>
    let next := sendMany network now sketch count desk
    (next, .sent desk.sent.length next.sent.length)
  | .wait index =>
    match desk.sent[index]? with
    | some sent => (desk, answer (desk.outcome? sent))
    | none => (desk, .unknown)
  | .fetch sketch =>
    let (next, sent) := desk.send network now sketch
    (next, answer (next.outcome? sent))
  | .measure sketch =>
    let (next, sent) := desk.send network now sketch
    match next.outcome? sent with
    | some outcome => (next, .length (outcome.map fun response => response.body.length))
    | none => (next, .unsettled)
  | .fetchWith effect sketch =>
    let (next, sent) := desk.send network now sketch
    let outcome := next.outcome? sent
    match outcome with
    | some (.ok _) => (next.suffer network effect, answer outcome)
    | _ => (next, answer outcome)
  | .awaitArrivals count =>
    -- No request leaves the machine, so that only the wait for none of them ends.
    (desk, if count = 0 then .done else .unsettled)
  | .shutdown => ({ desk with client := desk.client.shutdown (net network) }, .done)

/-- The steps of a script from a desk on. -/
def runFrom (network : Network) (now : Instant) : RequestDesk → List RequestStep →
    List RequestAnswer
  | _, [] => []
  | desk, step :: rest =>
    let (next, answer) := desk.perform network now step
    answer :: runFrom network now next rest

/-- The steps of a script with a new client. -/
def run (network : Network) (now : Instant) (options : ClientOptions) (steps : List RequestStep) :
    Except Error (List RequestAnswer) :=
  match Client.create options now fun _ => none with
  | .error error => .error error
  | .ok client => .ok (runFrom network now { client } steps)

end RequestDesk

end HttpEngine
