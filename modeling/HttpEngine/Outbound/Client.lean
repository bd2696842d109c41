import HttpEngine.Outbound.IoThread
import HttpEngine.Outbound.Target

/-!
A client: threads that requests are spread over, one after the other, until the client is shut
down. A sending goes through three steps, between which anything else may happen: it looks whether
the client was shut down, chooses a thread, and puts the exchange into the inbox of that thread.
-/

namespace HttpEngine

/-- How a client sends. -/
structure ClientOptions where
  threads : Nat := 1
  maxConnectionsPerHost : Nat := 8
  keepAlive : Bool := true
  timeout : Duration := .ofSecs 30
  deriving DecidableEq, Repr

namespace ClientOptions

/-- The options of a client that was given none. -/
def standard : ClientOptions := {}

/-- The time at which a time-out that begins now is over. -/
def deadline (now : Instant) (timeout : Duration) : Except OptionsFault Instant :=
  match now.add? timeout with
  | some deadline => .ok deadline
  | none => .error (.timeoutOutOfRange timeout)

/-- What is wrong with options at a time, if anything is. -/
def fault? (options : ClientOptions) (now : Instant) : Option OptionsFault :=
  if options.threads = 0 then some .noThreads
  else if options.maxConnectionsPerHost = 0 then some .noConnections
  else if options.timeout.isZero then some .noTimeout
  else match deadline now options.timeout with
    | .error fault => some fault
    | .ok _ => none

end ClientOptions

/-- A request that is being put together, and can be sent any number of times. -/
structure Draft where
  target : Except ProtocolFault Target
  request : Request
  timeout : Duration

namespace Draft

/-- A request to a target, with the time-out of the client that it is made for. -/
def new (options : ClientOptions) (method : Method) (target : String) : Draft :=
  -- A target at fault is kept until the sending, which tells of it.
  let parsed := Target.ofText target
  let path := match parsed with
    | .ok target => target.path
    | .error _ => "/"
  { target := parsed, request := { method, target := path }, timeout := options.timeout }

/-- The request with one more header. -/
def header (draft : Draft) (name value : String) : Draft :=
  { draft with
    request := { draft.request with headers := draft.request.headers.append name value } }

/-- The request with a body. -/
def body (draft : Draft) (body : Bytes) : Draft :=
  { draft with request := { draft.request with body } }

/-- The request with a time-out of its own. -/
def within (draft : Draft) (timeout : Duration) : Draft := { draft with timeout }

/-- The exchange that is sent for a request, unless its target or its time-out is at fault. -/
def exchange (draft : Draft) (promise : Nat) (now : Instant) : Except Error Exchange :=
  match draft.target with
  | .error fault => .error (.protocol fault)
  | .ok target =>
    -- The time runs from the sending on, however long the exchange waits in an inbox.
    match ClientOptions.deadline now draft.timeout with
    | .error fault => .error (.invalidOptions fault)
    | .ok deadline =>
      .ok
        { promise, request := draft.request, authority := target.authority
          timeout := draft.timeout, deadline }

end Draft

/-- How far a sending has come. -/
inductive Sending where
  /-- It has not looked yet whether the client was shut down. -/
  | begun (exchange : Exchange)
  /-- The client was not shut down when it looked. -/
  | admitted (exchange : Exchange)
  | addressed (exchange : Exchange) (thread : Nat)

/-- The exchange that is being sent. -/
def Sending.exchange : Sending → Exchange
  | begun exchange | admitted exchange | addressed exchange _ => exchange

/-- A client. -/
structure Client where
  options : ClientOptions
  threads : List IoThread
  /-- A counter that goes through the threads. -/
  next : Nat := 0
  stopped : Bool := false
  /-- How many promises were given out. -/
  promises : Nat := 0
  /-- The sendings that are on their way. -/
  sendings : List Sending := []
  /-- The threads that are still to be told to stop. -/
  stops : List Nat := []
  /-- The exchanges that reached no thread, each of which is rejected by the shutdown. -/
  turnedAway : List Exchange := []

namespace Client

/-- A thread with nothing to do yet. -/
def newThread (options : ClientOptions) : IoThread :=
  { dispatcher :=
      { maxConnectionsPerHost := options.maxConnectionsPerHost, keepAlive := options.keepAlive } }

/--
A client with its threads.

`spawn` tells why a thread could not be started. Then no thread stays.
-/
def create (options : ClientOptions) (now : Instant) (spawn : Nat → Option IoError) :
    Except Error Client :=
  match options.fault? now with
  | some fault => .error (.invalidOptions fault)
  | none =>
    match (List.range options.threads).findSome? spawn with
    | some failure => .error (.transport failure)
    | none => .ok { options, threads := List.replicate options.threads (newThread options) }

/-- Rejects an exchange that reaches no thread. -/
def turnAway (client : Client) (exchange : Exchange) : Client :=
  { client with turnedAway := client.turnedAway ++ [exchange] }

/-- Puts a command into the inbox of a thread, if it takes it. -/
def deliver? (client : Client) (index : Nat) (command : Command) : Option Client :=
  match client.threads[index]?.bind (·.deliver? command) with
  | some thread => some { client with threads := client.threads.set index thread }
  | none => none

/-- The next step of a sending, and how far it has come then, unless it is over. -/
def advance (client : Client) : Sending → Client × Option Sending
  | .begun exchange =>
    -- A shutdown that begins after this look is met with at the inbox.
    if client.stopped || client.threads.isEmpty then (client.turnAway exchange, none)
    else (client, some (.admitted exchange))
  | .admitted exchange =>
    -- The counter is a machine word, and wraps around like one.
    ({ client with next := (client.next + 1) % wordLimit },
      some (.addressed exchange (client.next % client.threads.length)))
  | .addressed exchange index =>
    ((client.deliver? index (.submit exchange)).getD (client.turnAway exchange), none)

/-- One more promise, with the exchange that will settle it, unless the draft is at fault. -/
def issue (client : Client) (draft : Draft) (now : Instant) :
    Except Error (Client × Exchange) :=
  match draft.exchange client.promises now with
  | .error error => .error error
  | .ok exchange => .ok ({ client with promises := client.promises + 1 }, exchange)

/-- One more sending on its way. -/
def addSending (client : Client) (sending : Sending) : Client :=
  { client with sendings := client.sendings ++ [sending] }

/-- Begins a shutdown, in which every thread is told to stop. A second time changes nothing. -/
def beginShutdown (client : Client) : Client :=
  if client.stopped then client
  else { client with stopped := true, stops := List.range client.threads.length }

/-- Tells the next thread to stop. -/
def tellStop (client : Client) : Client :=
  match client.stops with
  | [] => client
  | index :: rest =>
    -- A thread that is gone need not be told.
    let client := { client with stops := rest }
    (client.deliver? index .stop).getD client

/-- One act of the client or of one of its threads. -/
inductive Act where
  | issue (draft : Draft) (now : Instant)
  /-- The sending at a place in the list goes on. -/
  | advance (place : Nat)
  | beginShutdown
  | tellStop
  | thread (index : Nat) (act : ThreadAct)

/-- One act. What one thread is answered by the operating system does not depend on the others. -/
def step (net : Nat → Nat → HandoverIo) (client : Client) : Act → Client
  | .issue draft now =>
    match client.issue draft now with
    | .ok (client, exchange) => client.addSending (.begun exchange)
    | .error _ => client
  | .advance place =>
    match client.sendings[place]? with
    | none => client
    | some sending =>
      match { client with sendings := client.sendings.eraseIdx place }.advance sending with
      | (client, some further) => client.addSending further
      | (client, none) => client
  | .beginShutdown => client.beginShutdown
  | .tellStop => client.tellStop
  | .thread index act =>
    { client with threads := client.threads.modify index fun thread => thread.step (net index) act }

/-- The settlements of promises: those by the threads, and those of exchanges turned away. -/
def settlements (client : Client) : List (Nat × Outcome Response) :=
  client.threads.flatMap
      (fun thread => thread.dispatcher.journal.filterMap fun transit => match transit with
        | .settled promise outcome => some (promise, outcome)
        | _ => none)
    ++ client.turnedAway.map fun exchange => (exchange.promise, .error .shutdown)

/-- The outcome of a promise, if it has one. -/
def outcome? (client : Client) (promise : Nat) : Option (Outcome Response) :=
  client.settlements.lookup promise

/-- The next steps of a sending, as many as are given, with nothing else in between. -/
def carry : Nat → Client → Sending → Client
  | 0, client, _ => client
  | steps + 1, client, sending =>
    match client.advance sending with
    | (client, some further) => carry steps client further
    | (client, none) => client

/-- A whole sending, and its promise. A draft at fault is rejected at once. -/
def send (client : Client) (draft : Draft) (now : Instant) : Client × Except Error Nat :=
  match client.issue draft now with
  | .error error => (client, .error error)
  -- A sending is over after its third step.
  | .ok (client, exchange) => (carry 3 client (.begun exchange), .ok exchange.promise)

/-- Lets every thread take in its inbox. -/
def receiveAll (client : Client) (net : Nat → Nat → HandoverIo) : Client :=
  { client with threads := client.threads.mapIdx fun index thread => thread.receiveAll (net index) }

/-- A whole shutdown, after which no thread is left. -/
def shutdown (client : Client) (net : Nat → Nat → HandoverIo) : Client :=
  -- As many tellings as there can be: those left over, and one for each thread.
  let told := client.stops.length + client.threads.length
  let stopped := (List.range told).foldl (fun client _ => client.tellStop) client.beginShutdown
  let finish (index : Nat) (thread : IoThread) : IoThread :=
    let received := thread.receiveAll (net index)
    -- A thread that took the command to stop in ends, and its inbox with it.
    if received.stage = .stopping then
      (received.step (net index) .abort).step (net index) .leave
    else received
  { stopped with threads := stopped.threads.mapIdx finish }

end Client

end HttpEngine
