import HttpEngine.Proofs.Outbound.Handover

/-!
The strides of a dispatcher: what it does in one go, where its moves alone do not tell what follows
upon what. The end of a connection is followed by a pump for its host, and a response by the
settlement of its exchange.
-/

namespace HttpEngine

namespace Dispatcher

/-- One thing that a dispatcher does in one go. -/
inductive Stride (net : Nat → HandoverIo) (dispatcher : Dispatcher) : Dispatcher → Prop where
  /-- It finds out where a host is. -/
  | discovered {host : String} (absent : dispatcher.pools.get? host = none)
      (address : SocketAddr) :
      Stride net dispatcher
        { dispatcher with
          lookups := dispatcher.lookups + 1, pools := dispatcher.pools.insert host { address } }
  /-- What waits for a host is handed out. -/
  | pumped (host : String) : Stride net dispatcher (dispatcher.pump net host)
  /-- A connection is established, or gives out bytes. -/
  | tended {key : Nat} {connection : Connection}
      (present : dispatcher.connections.get? key = some connection) (connected : Bool)
      (still : connection.connected = true → connected = true) (writeBuffer : Bytes) :
      Stride net dispatcher
        (dispatcher.setConnection key { connection with connected, writeBuffer })
  /-- Bytes arrive on a connection, or nothing arrives on an idle one. -/
  | filled {key : Nat} {connection : Connection}
      (present : dispatcher.connections.get? key = some connection) (arrival : Arrival)
      (harmless : connection.exchange.isSome = true ∨
        arrival.bytes = [] ∧ arrival.ending ≠ .closed) :
      Stride net dispatcher
        ((dispatcher.setConnection key (connection.fill arrival)).record
          (.arrived key arrival.bytes))
  /-- Bytes or their end arrive on an idle connection, which ends with them. -/
  | spoiled {key : Nat} {connection : Connection}
      (present : dispatcher.connections.get? key = some connection)
      (free : connection.exchange = none) (bytes : Bytes) :
      Stride net dispatcher (dispatcher.drop key connection.authority [.arrived key bytes])
  /-- An idle connection ends. -/
  | closed {key : Nat} {connection : Connection}
      (present : dispatcher.connections.get? key = some connection)
      (free : connection.exchange = none) :
      Stride net dispatcher (dispatcher.drop key connection.authority [])
  /-- A connection ends, and what waits for its host is handed out. -/
  | lost {key : Nat} {connection : Connection} {error : Error} {ended : Dispatcher}
      (present : dispatcher.connections.get? key = some connection)
      (parting : dispatcher.Parting key error ended) :
      Stride net dispatcher (ended.pump net connection.authority)
  /-- A response is complete, and another exchange can have the connection. -/
  | answered {key : Nat} {connection polled : Connection} {exchange : Exchange}
      {response : Response} {consumed : Nat}
      (present : dispatcher.connections.get? key = some connection)
      (carried : connection.exchange = some exchange) (connected : connection.connected = true)
      (decoded : connection.poll = (polled, .message response consumed))
      (reusable : polled.isReusable response = true) :
      Stride net dispatcher
        (((((dispatcher.setConnection key polled.release).record
          (.answered key response)).modifyPool connection.authority (·.putIdle key)).pump net
            connection.authority).settle exchange (.ok response))
  /-- A response is complete, and the connection ends with it. -/
  | answeredLast {key : Nat} {connection polled : Connection} {exchange : Exchange}
      {response : Response} {consumed : Nat}
      (present : dispatcher.connections.get? key = some connection)
      (carried : connection.exchange = some exchange)
      (decoded : connection.poll = (polled, .message response consumed)) :
      Stride net dispatcher
        (((dispatcher.drop key connection.authority [.answered key response]).pump net
          connection.authority).settle exchange (.ok response))
  /-- The exchanges that have waited for too long are rejected. -/
  | overdue (now : Instant) : Stride net dispatcher (dispatcher.expireQueues now)

/-- Any number of strides. -/
def Strides (net : Nat → HandoverIo) : Dispatcher → Dispatcher → Prop :=
  Relation.ReflTransGen (Stride net)

section Strides

variable {net : Nat → HandoverIo} {dispatcher next : Dispatcher} {key : Nat}
  {connection : Connection}

/-- A stride is made of moves. -/
theorem Stride.leads (stride : dispatcher.Stride net next) : dispatcher.Leads next := by
  -- Every stride is a move, or a few of them with a pump behind.
  intro hand
  cases stride with
  | discovered absent address => exact (Move.discovered absent address).leads
  | pumped host => exact leads_pump net dispatcher host hand
  | tended present connected still writeBuffer =>
    exact (Move.tended present connected still writeBuffer).leads
  | filled present arrival harmless => exact (Move.filled present arrival harmless).leads
  | spoiled present free bytes => exact (Move.spoiled present free bytes).leads
  | closed present free =>
    -- An idle connection leaves nothing in the hand.
    have ended := (Move.closed present : dispatcher.Move hand _ _).leads
    rw [free] at ended
    exact ended
  | lost present parting => exact (parting.leads.trans (leads_pump net _ _)) hand
  | answered present carried connected decoded reusable =>
    -- The exchange is in hand while others are handed out.
    have freed := (Move.answered present carried connected decoded reusable :
      dispatcher.Move hand _ _).leads
    exact (freed.trans (leads_pump net _ _ _)).tail (Move.settled rfl _)
  | answeredLast present carried decoded =>
    have freed := (Move.answeredLast present carried decoded : dispatcher.Move hand _ _).leads
    exact (freed.trans (leads_pump net _ _ _)).tail (Move.settled rfl _)
  | overdue now => exact leads_expireQueues dispatcher now hand

/-- Strides are made of moves. -/
theorem Strides.leads (strides : dispatcher.Strides net next) : dispatcher.Leads next := by
  induction strides with
  | refl => exact .nothing
  | tail _ stride ih => exact ih.trans stride.leads

/-- A connection is lost, and what waits for its host is handed out. -/
theorem strides_fail (net : Nat → HandoverIo) (dispatcher : Dispatcher) (key : Nat)
    (error : Error) : dispatcher.Strides net (dispatcher.fail net key error) := by
  unfold fail
  split
  · exact .refl
  · rename_i connection present
    exact .single (.lost present (lose_parting present error))

/-- A connection is lost, its exchange may be tried again, and what waits is handed out. -/
theorem strides_failOrRetry (net : Nat → HandoverIo) (dispatcher : Dispatcher) (key : Nat)
    (error : Error) : dispatcher.Strides net (dispatcher.failOrRetry net key error) := by
  unfold failOrRetry
  split
  · exact .refl
  · rename_i connection present
    exact .single (.lost present (loseOrRetry_parting present error))

/-- A connection whose response is complete rests, or ends with it. -/
theorem complete_eq_or (net : Nat → HandoverIo)
    (present : dispatcher.connections.get? key = some connection) {exchange : Exchange}
    (carried : connection.exchange = some exchange) {polled : Connection} {response : Response}
    {consumed : Nat} (decoded : connection.poll = (polled, .message response consumed))
    (failure : Option IoError) :
    (polled.isReusable response = true ∧
      (dispatcher.setConnection key polled).complete net key response failure =
        ((((dispatcher.setConnection key polled.release).record
          (.answered key response)).modifyPool connection.authority (·.putIdle key)).pump net
            connection.authority).settle exchange (.ok response)) ∨
    (dispatcher.setConnection key polled).complete net key response failure =
      ((dispatcher.drop key connection.authority [.answered key response]).pump net
        connection.authority).settle exchange (.ok response) := by
  -- Polling changes no more than the buffer, so that the connection is still that of its exchange.
  have polledEq := Connection.polled_eq decoded
  have authority : polled.authority = connection.authority := by rw [polledEq]
  have carries : polled.exchange = some exchange := by rw [polledEq]; exact carried
  have there : (dispatcher.setConnection key polled).connections.get? key = some polled :=
    Roster.get?_set_self present polled
  unfold complete
  simp only [there, carries, setConnection_setConnection present, authority]
  split
  · rename_i stays
    simp only [Bool.and_eq_true] at stays
    exact .inl ⟨stays.1.2, rfl⟩
  · -- The connection carries nothing any more when it is closed.
    rw [close_changed present (by exact authority) (.answered key response)]
    exact .inr rfl

/-- A response is complete. -/
theorem stride_complete (net : Nat → HandoverIo)
    (present : dispatcher.connections.get? key = some connection) {exchange : Exchange}
    (carried : connection.exchange = some exchange) (connected : connection.connected = true)
    {polled : Connection} {response : Response} {consumed : Nat}
    (decoded : connection.poll = (polled, .message response consumed))
    (failure : Option IoError) :
    dispatcher.Stride net
      ((dispatcher.setConnection key polled).complete net key response failure) := by
  rcases complete_eq_or net present carried decoded failure with ⟨reusable, rests⟩ | ends
  · rw [rests]
    exact .answered present carried connected decoded reusable
  · rw [ends]
    exact .answeredLast present carried decoded

/-- A connection is looked at for an answer, after everything that was there was read. -/
theorem strides_lookForAnswer (net : Nat → HandoverIo)
    (present : dispatcher.connections.get? key = some connection)
    (connected : connection.connected = true) (socketFailed : Bool) (failure : Option IoError) :
    dispatcher.Strides net
      (dispatcher.lookForAnswer net key connection socketFailed failure) := by
  unfold lookForAnswer
  dsimp only
  split
  · -- An exchange waits for its answer.
    rename_i busy
    obtain ⟨exchange, carried⟩ := Option.isSome_iff_exists.1 busy
    split
    · rename_i decoded
      exact .single (stride_complete net present carried connected decoded failure)
    · split
      · exact strides_failOrRetry net dispatcher key _
      · split
        · exact strides_fail net dispatcher key _
        · exact .refl
    · exact strides_fail net dispatcher key _
  · -- Nothing waits for an answer, so that the connection is only kept or closed.
    rename_i free
    have nothing : connection.exchange = none := Option.not_isSome_iff_eq_none.1 free
    split
    · rw [close_eq present]
      exact .single (.closed present nothing)
    · split
      · exact strides_fail net dispatcher key _
      · exact .refl

/-- An idle connection to which something came is closed when it is looked at. -/
theorem lookForAnswer_of_spoiled (net : Nat → HandoverIo) (dispatcher : Dispatcher) (key : Nat)
    (free : connection.exchange = none)
    (spoiled : connection.peerClosed = true ∨ connection.readBuffer ≠ []) (socketFailed : Bool)
    (failure : Option IoError) :
    dispatcher.lookForAnswer net key connection socketFailed failure =
      (dispatcher.close key).1 := by
  -- Nothing waits for an answer, and one of the reasons to close the connection is given.
  have idle : ¬connection.isBusy = true := by simp [Connection.isBusy, free]
  have useless :
      (connection.peerClosed || connection.hasUnsolicited || socketFailed) = true := by
    rcases spoiled with gone | unsolicited
    · simp [gone]
    · simp [Connection.hasUnsolicited, unsolicited]
  rw [lookForAnswer]
  dsimp only
  rw [if_neg idle, if_pos useless]

/-- What follows when bytes are written to a connection and read from it. -/
inductive Traffic (net : Nat → HandoverIo) (dispatcher : Dispatcher) (key : Nat)
    (connection : Connection) : Dispatcher → Prop where
  /-- Not all could be written. -/
  | unwritten (departure : Departure) (failure : IoError) :
      Traffic net dispatcher key connection
        ((dispatcher.setConnection key (connection.flush departure)).failOrRetry net key
          (.transport failure))
  /-- Nothing was there to be read. -/
  | unread (departure : Departure) (socketFailed : Bool) (failure : Option IoError) :
      Traffic net dispatcher key connection
        ((dispatcher.setConnection key (connection.flush departure)).lookForAnswer net key
          (connection.flush departure) socketFailed failure)
  /-- The reading failed behind what was read. -/
  | broken (departure : Departure) (arrival : Arrival)
      (harmless : connection.exchange.isSome = true ∨
        arrival.bytes = [] ∧ arrival.ending ≠ .closed) (failure : IoError) :
      Traffic net dispatcher key connection
        (((dispatcher.setConnection key ((connection.flush departure).fill arrival)).record
          (.arrived key arrival.bytes)).failOrRetry net key (.transport failure))
  /-- What was read may be an answer. -/
  | heard (departure : Departure) (arrival : Arrival)
      (harmless : connection.exchange.isSome = true ∨
        arrival.bytes = [] ∧ arrival.ending ≠ .closed) (socketFailed : Bool)
      (failure : Option IoError) :
      Traffic net dispatcher key connection
        (((dispatcher.setConnection key ((connection.flush departure).fill arrival)).record
          (.arrived key arrival.bytes)).lookForAnswer net key
            ((connection.flush departure).fill arrival) socketFailed failure)
  /-- Nobody asked for what was read. -/
  | spoiled (free : connection.exchange = none) (bytes : Bytes) :
      Traffic net dispatcher key connection
        (dispatcher.drop key connection.authority [.arrived key bytes])
  /-- Nobody asked for what was read, and then the reading failed. -/
  | spoiledAndBroken (free : connection.exchange = none) (bytes : Bytes) :
      Traffic net dispatcher key connection
        ((dispatcher.drop key connection.authority [.arrived key bytes]).pump net
          connection.authority)

/-- A connection that carries nothing ends without more, if it fails after something came. -/
theorem failOrRetry_of_free (net : Nat → HandoverIo)
    (present : dispatcher.connections.get? key = some connection) {changed : Connection}
    (same : changed.authority = connection.authority) (free : changed.exchange = none)
    (note : Transit) (error : Error) :
    ((dispatcher.setConnection key changed).record note).failOrRetry net key error =
      (dispatcher.drop key connection.authority [note]).pump net connection.authority := by
  have there : ((dispatcher.setConnection key changed).record note).connections.get? key =
      some changed := Roster.get?_set_self present changed
  -- There is nothing to try again, and nothing to reject.
  have fresh : changed.isStale = false := by simp [Connection.isStale, free]
  simp [failOrRetry, there, loseOrRetry, fresh, lose, close_changed present same, free, same]

/-- Bytes on an idle connection, or their end, are looked at and end it. -/
theorem Connection.spoiled_of_fill (connection : Connection) {arrival : Arrival}
    (harm : ¬(arrival.bytes = [] ∧ arrival.ending ≠ .closed)) :
    (connection.fill arrival).peerClosed = true ∨ (connection.fill arrival).readBuffer ≠ [] := by
  -- Either the server is gone, or bytes are there that nobody asked for.
  by_cases silent : arrival.bytes = []
  · have gone : arrival.ending = .closed :=
      Decidable.byContradiction fun goesOn => harm ⟨silent, goesOn⟩
    exact .inl (by simp [Connection.fill, gone])
  · exact .inr (by simp [Connection.fill, silent])

/-- Bytes are written to a connection and read from it. -/
theorem traffic_exchangeBytes (net : Nat → HandoverIo)
    (present : dispatcher.connections.get? key = some connection) (ready : Readiness)
    (io : ConnectionIo) :
    dispatcher.Traffic net key connection
      (dispatcher.exchangeBytes net key connection ready io) := by
  unfold exchangeBytes
  dsimp only
  split
  · exact .unwritten io.departure _
  · split
    · -- Bytes on an idle connection end it, whatever else is the matter with it.
      by_cases harmless : connection.exchange.isSome = true ∨
          io.arrival.bytes = [] ∧ io.arrival.ending ≠ .closed
      · split
        · exact .broken io.departure io.arrival harmless _
        · exact .heard io.departure io.arrival harmless ready.error io.watchFailure
      · obtain ⟨free, harm⟩ := not_or.1 harmless
        have nothing : connection.exchange = none := Option.not_isSome_iff_eq_none.1 free
        split
        · rw [failOrRetry_of_free net present (by rfl) (by exact nothing)]
          exact .spoiledAndBroken nothing io.arrival.bytes
        · rw [lookForAnswer_of_spoiled net _ key (by exact nothing)
            (Connection.spoiled_of_fill _ harm), close_changed present (by rfl)]
          exact .spoiled nothing io.arrival.bytes
    · exact .unread io.departure ready.error io.watchFailure

/-- Traffic is made of strides. -/
theorem Traffic.strides (traffic : dispatcher.Traffic net key connection next)
    (present : dispatcher.connections.get? key = some connection)
    (connected : connection.connected = true) : dispatcher.Strides net next := by
  have inside : ∀ changed : Connection,
      (dispatcher.setConnection key changed).connections.get? key = some changed :=
    Roster.get?_set_self present
  -- Every case begins with what is written, and most of them with what is read as well.
  have flushed : ∀ departure : Departure, dispatcher.Strides net
      (dispatcher.setConnection key (connection.flush departure)) := fun departure =>
    .single (.tended present connection.connected id (departure.left connection.writeBuffer))
  have filled : ∀ (departure : Departure) (arrival : Arrival),
      (connection.exchange.isSome = true ∨ arrival.bytes = [] ∧ arrival.ending ≠ .closed) →
        dispatcher.Strides net ((dispatcher.setConnection key
          ((connection.flush departure).fill arrival)).record (.arrived key arrival.bytes)) := by
    intro departure arrival harmless
    have read := (flushed departure).tail (.filled (inside _) arrival harmless)
    rwa [setConnection_setConnection present] at read
  cases traffic with
  | unwritten departure failure => exact (flushed departure).trans (strides_failOrRetry net _ key _)
  | unread departure socketFailed failure =>
    exact (flushed departure).trans
      (strides_lookForAnswer net (inside _) (by exact connected) socketFailed failure)
  | broken departure arrival harmless failure =>
    exact (filled departure arrival harmless).trans (strides_failOrRetry net _ key _)
  | heard departure arrival harmless socketFailed failure =>
    have read : ((dispatcher.setConnection key ((connection.flush departure).fill arrival)).record
        (.arrived key arrival.bytes)).connections.get? key =
          some ((connection.flush departure).fill arrival) := inside _
    exact (filled departure arrival harmless).trans
      (strides_lookForAnswer net read (by exact connected) socketFailed failure)
  | spoiled free bytes => exact .single (.spoiled present free bytes)
  | spoiledAndBroken free bytes =>
    exact Relation.ReflTransGen.tail (.single (.spoiled present free bytes)) (.pumped _)

/-- A connection that is ready is looked after. -/
theorem strides_onReady (net : Nat → HandoverIo) (dispatcher : Dispatcher) (key : Nat)
    (ready : Readiness) (io : ConnectionIo) :
    dispatcher.Strides net (dispatcher.onReady net key ready io) := by
  unfold onReady
  split
  · exact .refl
  · rename_i connection present
    split
    · rename_i connected
      exact (traffic_exchangeBytes net present ready io).strides present connected
    · split
      · -- The connection may just have been made, and what comes with the news is dealt with at
        -- once.
        split
        · have established : dispatcher.Strides net
              (dispatcher.setConnection key { connection with connected := true }) :=
            .single (.tended present true (fun _ => by rfl) connection.writeBuffer)
          have there : (dispatcher.setConnection key
              { connection with connected := true }).connections.get? key =
                some { connection with connected := true } := Roster.get?_set_self present _
          exact established.trans ((traffic_exchangeBytes net there ready io).strides there rfl)
        · exact .refl
        · exact strides_fail net dispatcher key _
      · exact .refl

/-- A host that was just found has a pool, and an exchange can wait there. -/
theorem entry_discovered {exchange : Exchange}
    (absent : dispatcher.pools.get? exchange.authority = none) (address : SocketAddr) :
    Entry { dispatcher with
        lookups := dispatcher.lookups + 1
        pools := dispatcher.pools.insert exchange.authority { address } } exchange
      (({ dispatcher with
          lookups := dispatcher.lookups + 1
          pools := dispatcher.pools.insert exchange.authority { address } }.record
            (.received exchange)).modifyPool exchange.authority (·.enqueue exchange)) := by
  have known : (dispatcher.pools.insert exchange.authority { address }).get?
      exchange.authority = some { address } := by
    rw [Pools.get?_insert absent, if_pos rfl]
  exact .admitted known

/-- What becomes of an exchange that is submitted. -/
inductive Intake (net : Nat → HandoverIo) (dispatcher : Dispatcher) (exchange : Exchange) :
    Dispatcher → Prop where
  /-- It waits with the others for its host, where those in front are handed out. -/
  | admitted {pool : Pool} (found : dispatcher.pools.get? exchange.authority = some pool) :
      Intake net dispatcher exchange
        (((dispatcher.record (.received exchange)).modifyPool exchange.authority
          (·.enqueue exchange)).pump net exchange.authority)
  /-- Its host was looked up in vain. -/
  | refused (error : Error) :
      Intake net dispatcher exchange
        (({ dispatcher with lookups := dispatcher.lookups + 1 }.record (.received exchange)).reject
          exchange error)
  /-- It is the first one for its host, and the lookup has told where that is. -/
  | discovered (absent : dispatcher.pools.get? exchange.authority = none) (address : SocketAddr) :
      Intake net dispatcher exchange
        ((({ dispatcher with
            lookups := dispatcher.lookups + 1
            pools := dispatcher.pools.insert exchange.authority { address } }.record
              (.received exchange)).modifyPool exchange.authority
                (·.enqueue exchange)).pump net exchange.authority)

/-- There is no other way to submit one. -/
theorem intake_submit (net : Nat → HandoverIo) (dispatcher : Dispatcher) (exchange : Exchange) :
    dispatcher.Intake net exchange (dispatcher.submit net exchange) := by
  unfold submit
  dsimp only [record]
  cases found : dispatcher.pools.get? exchange.authority with
  | some pool => exact .admitted found
  | none =>
    -- The lookup gives an address, or the reason why there is none.
    dsimp only
    split
    · exact .refused _
    · exact .discovered found _

/-- An exchange comes in between strides. -/
theorem entry_submit (net : Nat → HandoverIo) (dispatcher : Dispatcher) (exchange : Exchange) :
    ∃ known entered, dispatcher.Strides net known ∧ known.Entry exchange entered ∧
      entered.Strides net (dispatcher.submit net exchange) := by
  have intake := intake_submit net dispatcher exchange
  generalize dispatcher.submit net exchange = next at intake ⊢
  cases intake with
  | admitted found =>
    exact ⟨dispatcher, _, .refl, .admitted found, .single (.pumped exchange.authority)⟩
  | refused error => exact ⟨dispatcher, _, .refl, .refused error, .refl⟩
  | discovered absent address =>
    exact ⟨_, _, .single (.discovered absent address), entry_discovered absent address,
      .single (.pumped exchange.authority)⟩

/-- Connections are lost for want of time, one after the other. -/
theorem strides_timeOutAll (net : Nat → HandoverIo) (dispatcher : Dispatcher)
    (expired : List (Nat × Duration)) :
    dispatcher.Strides net (dispatcher.timeOutAll net expired) := by
  unfold timeOutAll
  induction expired generalizing dispatcher with
  | nil => exact .refl
  | cons first rest ih => exact (strides_fail net dispatcher first.1 _).trans (ih _)

/-- The exchanges that have run out of time are rejected. -/
theorem strides_expire (net : Nat → HandoverIo) (dispatcher : Dispatcher) (now : Instant) :
    dispatcher.Strides net (dispatcher.expire net now) :=
  (strides_timeOutAll net dispatcher _).tail (.overdue now)

end Strides

end Dispatcher

end HttpEngine
