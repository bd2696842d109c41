import HttpEngine.Outbound.Dispatcher

/-!
What a dispatcher does when an exchange comes in, when a connection is ready, when time has passed,
and when everything ends.
-/

namespace HttpEngine

namespace Dispatcher

/-- Takes in an exchange. The first one for a host looks up where the host is. -/
def submit (net : Nat → HandoverIo) (dispatcher : Dispatcher) (exchange : Exchange) : Dispatcher :=
  let authority := exchange.authority
  let dispatcher := dispatcher.record (.received exchange)
  match dispatcher.pools.get? authority with
  | some _ => (dispatcher.modifyPool authority (·.enqueue exchange)).pump net authority
  | none =>
    -- Each lookup has an answer of its own, and may succeed where one before it failed.
    let asked := { dispatcher with lookups := dispatcher.lookups + 1 }
    match resolve authority (net dispatcher.lookups).lookup with
    -- No pool is made for a host that is nowhere, so that the next exchange looks again.
    | .error failure => asked.reject exchange (.transport failure)
    | .ok address =>
      let known := { asked with pools := asked.pools.insert authority { address } }
      (known.modifyPool authority (·.enqueue exchange)).pump net authority

/-- Loses a connection, and hands out what waits for its host. -/
def fail (net : Nat → HandoverIo) (dispatcher : Dispatcher) (key : Nat) (error : Error) :
    Dispatcher :=
  match dispatcher.connections.get? key with
  | none => dispatcher
  | some connection => (dispatcher.lose key error).pump net connection.authority

/-- Loses a connection or tries its exchange again, and hands out what waits for its host. -/
def failOrRetry (net : Nat → HandoverIo) (dispatcher : Dispatcher) (key : Nat) (error : Error) :
    Dispatcher :=
  match dispatcher.connections.get? key with
  | none => dispatcher
  | some connection => (dispatcher.loseOrRetry key error).pump net connection.authority

/--
Completes the exchange of a connection with a response.

The connection is idle or at its end before the next exchange is handed out, and the promise is
settled after that.
-/
def complete (net : Nat → HandoverIo) (dispatcher : Dispatcher) (key : Nat) (response : Response)
    (watchFailure : Option IoError) : Dispatcher :=
  match dispatcher.connections.get? key with
  | none => dispatcher
  | some connection =>
    let answered :=
      (dispatcher.setConnection key connection.release).record (.answered key response)
    -- Whether the connection can be watched is asked last, and only if it is to stay.
    let freed :=
      if dispatcher.keepAlive && connection.isReusable response && watchFailure.isNone then
        answered.modifyPool connection.authority (·.putIdle key)
      else (answered.close key).1
    let pumped := freed.pump net connection.authority
    match connection.exchange with
    | some exchange => pumped.settle exchange (.ok response)
    | none => pumped

/-- Looks for an answer on a connection, after everything that was there was read. -/
def lookForAnswer (net : Nat → HandoverIo) (dispatcher : Dispatcher) (key : Nat)
    (connection : Connection) (socketFailed : Bool) (watchFailure : Option IoError) : Dispatcher :=
  let watch (dispatcher : Dispatcher) : Dispatcher :=
    match watchFailure with
    | some failure => dispatcher.fail net key (.transport failure)
    | none => dispatcher
  if connection.isBusy then
    match connection.poll with
    | (polled, .message response _) =>
      (dispatcher.setConnection key polled).complete net key response watchFailure
    | (_, .incomplete) =>
      -- The end of the stream may be the end of a connection that was used before.
      if connection.peerClosed then dispatcher.failOrRetry net key (.transport .closedEarly)
      else watch dispatcher
    | (_, .failed error) => dispatcher.fail net key (.protocol (.undecodable error))
  else if connection.peerClosed || connection.hasUnsolicited || socketFailed then
    -- An idle connection that the server dropped or misused is of no more use.
    (dispatcher.close key).1
  else watch dispatcher

/-- Writes to a connection that is established, and reads from it if there is something to read. -/
def exchangeBytes (net : Nat → HandoverIo) (dispatcher : Dispatcher) (key : Nat)
    (connection : Connection) (ready : Readiness) (io : ConnectionIo) : Dispatcher :=
  let flushed := connection.flush io.departure
  match io.departure.result connection.writeBuffer with
  | .error failure =>
    (dispatcher.setConnection key flushed).failOrRetry net key (.transport failure)
  | .ok _ =>
    if ready.reads then
      let filled := flushed.fill io.arrival
      let dispatcher :=
        (dispatcher.setConnection key filled).record (.arrived key io.arrival.bytes)
      -- The bytes before a failure count, since they tell whether an answer had begun.
      match io.arrival.ending with
      | .failed failure => dispatcher.failOrRetry net key (.transport failure)
      | _ => dispatcher.lookForAnswer net key filled ready.error io.watchFailure
    else
      (dispatcher.setConnection key flushed).lookForAnswer net key flushed ready.error
        io.watchFailure

/-- Looks after a connection that is ready. -/
def onReady (net : Nat → HandoverIo) (dispatcher : Dispatcher) (key : Nat) (ready : Readiness)
    (io : ConnectionIo) : Dispatcher :=
  match dispatcher.connections.get? key with
  | none => dispatcher
  | some connection =>
    -- Nothing is read from a connection before it is known to be established.
    if connection.connected then dispatcher.exchangeBytes net key connection ready io
    else if ready.writable || ready.error || ready.writeClosed then
      match io.handshake with
      | .ok true =>
        let established := { connection with connected := true }
        (dispatcher.setConnection key established).exchangeBytes net key established ready io
      | .ok false => dispatcher
      | .error failure => dispatcher.fail net key (.transport failure)
    else dispatcher

/-- The earliest deadline of all exchanges. -/
def nextDeadline? (dispatcher : Dispatcher) : Option Instant :=
  Instant.earliest?
    (dispatcher.connections.entries.filterMap (fun (_, connection) => connection.deadline?)
      ++ dispatcher.pools.queued.map (·.deadline))

/-- The connections whose exchange has run out of time, each with the time that it had. -/
def expiredConnections (dispatcher : Dispatcher) (now : Instant) : List (Nat × Duration) :=
  dispatcher.connections.entries.filterMap fun (key, connection) =>
    match connection.exchange with
    | some exchange => if exchange.isExpired now then some (key, exchange.timeout) else none
    | none => none

/-- Loses connections for want of time, one after the other. -/
def timeOutAll (net : Nat → HandoverIo) (dispatcher : Dispatcher) (expired : List (Nat × Duration)) :
    Dispatcher :=
  expired.foldl (fun dispatcher (key, timeout) => dispatcher.fail net key (.timeout timeout))
    dispatcher

/-- Rejects every exchange that waits and has run out of time. -/
def expireQueues (dispatcher : Dispatcher) (now : Instant) : Dispatcher :=
  -- All of them leave their queues before the first one is rejected.
  let expired := dispatcher.pools.entries.flatMap fun (_, pool) => pool.expired now
  let waiting := dispatcher.pools.mapAll fun _ pool => pool.expire now
  expired.foldl (fun dispatcher exchange => dispatcher.reject exchange (.timeout exchange.timeout))
    { dispatcher with pools := waiting }

/-- Rejects the exchanges that have run out of time: those on connections, then those that wait. -/
def expire (net : Nat → HandoverIo) (dispatcher : Dispatcher) (now : Instant) : Dispatcher :=
  (dispatcher.timeOutAll net (dispatcher.expiredConnections now)).expireQueues now

/-- The exchanges that are held: those on connections, then those that wait. -/
def held (dispatcher : Dispatcher) : List Exchange :=
  dispatcher.connections.entries.filterMap (fun (_, connection) => connection.exchange)
    ++ dispatcher.pools.queued

/-- Ends everything: whatever is held, and whatever else is given, is rejected. -/
def abort (dispatcher : Dispatcher) (others : List Exchange) : Dispatcher :=
  -- The connections and the pools go first, so that a continuation finds nothing of them.
  (dispatcher.held ++ others).foldl (fun dispatcher exchange => dispatcher.reject exchange .shutdown)
    { dispatcher with connections := .empty, pools := {} }

end Dispatcher

end HttpEngine
