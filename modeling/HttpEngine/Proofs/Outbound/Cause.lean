import HttpEngine.Proofs.Outbound.Expiry
import HttpEngine.Proofs.Wire.ResponseGrowth

/-!
Why exchanges are given up. An exchange that is under way waits for a response that is not whole: as
soon as the response is there, it is taken. So the end of its connection takes the exchange along
only for want of time, because what was read is no response, or because the transport fails. A
reading that fails behind its last bytes loses the response even if these bytes complete it.
-/

namespace HttpEngine

/--
Whether the response to an exchange was not there yet, among the unread bytes or before the latest
of them.
-/
def Exchange.Unheard (exchange : Exchange) (unread latest : Bytes) : Prop :=
  ∃ earlier, (unread = earlier ∨ unread = earlier ++ latest) ∧
    decodeResponse (exchange.request.method == .head) false earlier = .incomplete

/--
Why an exchange is given up on a connection over which some bytes came that are unread, the latest
of them in the reading that came last.
-/
inductive Exchange.Cause (exchange : Exchange) (unread latest : Bytes) : Error → Prop where
  /-- The transport fails before the response is there, or in the reading that completes it. -/
  | transport (failure : IoError) (unheard : exchange.Unheard unread latest) :
      Cause exchange unread latest (.transport failure)
  /-- Its time is up, and the response is not there. -/
  | overdue (waits : decodeResponse (exchange.request.method == .head) false unread = .incomplete) :
      Cause exchange unread latest (.timeout exchange.timeout)
  /-- What is there is no response. -/
  | undecodable {fault : DecodeError} (ended : Bool)
      (failed : decodeResponse (exchange.request.method == .head) ended unread = .failed fault) :
      Cause exchange unread latest (.protocol (.undecodable fault))

/-- Whether an event begins or ends a connection. -/
def Transit.bounds : Transit → Bool
  | opened .. | closed .. => true
  | _ => false

namespace Journal

/-- The bytes that the last event brought over a connection, if it brought any. -/
def latest (journal : List Transit) (key : Nat) : Bytes :=
  (journal.getLast?.map (Transit.bytesOver key)).getD []

/-- The last event is the one that counts. -/
@[simp] theorem latest_concat (journal : List Transit) (note : Transit) (key : Nat) :
    latest (journal ++ [note]) key = note.bytesOver key := by
  simp [latest]

/-- What stands behind an event that brings nothing tells of the latest bytes. -/
theorem latest_append_cons {note : Transit} {key : Nat} (brings : note.bytesOver key = [])
    (before after : List Transit) : latest (before ++ note :: after) key = latest after key := by
  induction after using List.reverseRecOn with
  | nil => rw [latest_concat, brings]; rfl
  | append_singleton front last _ =>
    rw [← List.cons_append, ← List.append_assoc, latest_concat, latest_concat]

/-- What follows upon the end of a connection with an exchange under way. -/
inductive GivenUp (exchange : Exchange) (unread latest : Bytes) : List Transit → Prop where
  /-- Nothing was read, and the exchange is to be tried again. -/
  | requeued {after : List Transit} (silent : unread = []) :
      GivenUp exchange unread latest (.requeued exchange.again :: after)
  /-- The exchange is rejected for a cause. -/
  | rejected {error : Error} {after : List Transit} (cause : exchange.Cause unread latest error) :
      GivenUp exchange unread latest (.settled exchange.promise (.error error) :: after)

/-- What happens later changes nothing. -/
theorem GivenUp.append {exchange : Exchange} {unread latest : Bytes} {after : List Transit}
    (givenUp : GivenUp exchange unread latest after) (notes : List Transit) :
    GivenUp exchange unread latest (after ++ notes) := by
  cases givenUp with
  | requeued silent => exact .requeued silent
  | rejected cause => exact .rejected cause

/-- What must be true of an event, given what happened before it and after it. -/
def Warranted (before : List Transit) (note : Transit) (after : List Transit) : Prop :=
  match note with
  -- No other connection is there under the same key.
  | .opened key _ => line before key = none
  -- The exchange that was under way, if there was one, is given up for a cause.
  | .closed key => ∀ found exchange, line before key = some found →
      found.carried = some exchange → GivenUp exchange found.unread (latest before key) after
  | _ => True

/-- A journal in which connections begin on free keys and end for a cause. -/
def Explained (journal : List Transit) : Prop :=
  ∀ before note after, journal = before ++ note :: after → Warranted before note after

section Explained

variable {journal notes : List Transit} {note : Transit} {key : Nat}

/-- Only the ends of connections need a warrant. -/
theorem warranted_of_not_bounds (inside : note.bounds = false) (before after : List Transit) :
    Warranted before note after := by
  cases note with
  | opened key host => cases inside
  | closed key => cases inside
  | _ => trivial

/-- What happens later takes no warrant away. -/
theorem Warranted.append {before after : List Transit} (warranted : Warranted before note after)
    (notes : List Transit) : Warranted before note (after ++ notes) := by
  cases note with
  | closed key =>
    exact fun found exchange there carried => (warranted found exchange there carried).append notes
  | opened key host => exact warranted
  | _ => trivial

/-- A warranted event happens, and others that need no warrant. -/
theorem Explained.append_cons (explained : Explained journal)
    (warranted : Warranted journal note notes) (inside : ∀ note ∈ notes, note.bounds = false) :
    Explained (journal ++ note :: notes) := by
  -- The event is one of those before, or one of the new ones.
  intro before event after whole
  rcases split_append whole with ⟨rest, split, rfl⟩ | ⟨more, rfl, split⟩
  · exact (explained before event rest split).append _
  · cases more with
    | nil =>
      cases split
      rwa [List.append_nil]
    | cons first more =>
      -- The event is one of those that need no warrant.
      obtain ⟨rfl, rfl⟩ := List.cons.inj split
      exact warranted_of_not_bounds (inside event (by simp)) _ _

/-- Events that need no warrant. -/
theorem Explained.append (explained : Explained journal)
    (inside : ∀ note ∈ notes, note.bounds = false) : Explained (journal ++ notes) := by
  cases notes with
  | nil => rwa [List.append_nil]
  | cons note notes =>
    exact explained.append_cons (warranted_of_not_bounds (inside note List.mem_cons_self) _ _)
      fun other member => inside other (List.mem_cons_of_mem note member)

end Explained

end Journal

/-- A connection on which an exchange waits for a response that is not whole. -/
structure Connection.WaitsFor (connection : Connection) (exchange : Exchange) : Prop where
  goesOn : connection.peerClosed = false
  incomplete : decodeResponse (exchange.request.method == .head) false connection.readBuffer =
    .incomplete

/-- Where nothing was read, any exchange waits. -/
theorem Connection.WaitsFor.silent {connection : Connection}
    (goesOn : connection.peerClosed = false) (nothing : connection.readBuffer = [])
    (exchange : Exchange) :
    connection.WaitsFor exchange where
  goesOn := goesOn
  incomplete := by
    rw [nothing]
    rfl

/-- What waits has not heard its response. -/
theorem Connection.WaitsFor.unheard {connection : Connection} {exchange : Exchange}
    (waits : connection.WaitsFor exchange) (latest : Bytes) :
    exchange.Unheard connection.readBuffer latest :=
  ⟨connection.readBuffer, .inl rfl, waits.incomplete⟩

/-- What waits before a reading has not heard its response before the bytes of that reading. -/
theorem Connection.WaitsFor.unheard_fill {connection : Connection} {exchange : Exchange}
    (waits : connection.WaitsFor exchange) (arrival : Arrival) :
    exchange.Unheard (connection.fill arrival).readBuffer arrival.bytes :=
  ⟨connection.readBuffer, .inr rfl, waits.incomplete⟩

namespace Dispatcher

/--
A dispatcher on whose connections every exchange waits for a response that is not whole, except on
one connection perhaps that is looked after just now.
-/
structure Watchful (except : Option Nat) (dispatcher : Dispatcher) : Prop where
  regular : dispatcher.Regular
  explained : Journal.Explained dispatcher.journal
  waits : ∀ {key connection exchange}, dispatcher.connections.get? key = some connection →
    connection.exchange = some exchange → except ≠ some key → connection.WaitsFor exchange

section Watchful

variable {net : Nat → HandoverIo} {dispatcher next : Dispatcher} {host : String} {key : Nat}
  {connection : Connection} {exchange : Exchange}

namespace Watchful

/-- A new dispatcher watches nothing. -/
theorem fresh (most : Nat) (keepAlive : Bool) : (fresh most keepAlive).Watchful none where
  regular := .fresh most keepAlive
  explained before note after whole := by simp [Dispatcher.fresh] at whole
  waits {key connection exchange} present := by
    rw [Dispatcher.fresh, Roster.get?_empty] at present
    cases present

/-- What is true of all connections is true of all but one. -/
theorem but (watchful : dispatcher.Watchful none) (key : Nat) :
    dispatcher.Watchful (some key) where
  regular := watchful.regular
  explained := watchful.explained
  waits present carried _ := watchful.waits present carried (by simp)

/-- What is true of all connections but one is true of all if it is true of that one. -/
theorem all (watchful : dispatcher.Watchful (some key))
    (waits : ∀ connection exchange, dispatcher.connections.get? key = some connection →
      connection.exchange = some exchange → connection.WaitsFor exchange) :
    dispatcher.Watchful none where
  regular := watchful.regular
  explained := watchful.explained
  -- The one connection that was left out is considered by itself.
  waits {other found exchange} there carried _ := by
    by_cases here : key = other
    · subst here
      exact waits found exchange there carried
    · exact watchful.waits there carried fun same => here (Option.some.inj same)

/-- Something happens to one connection. -/
theorem touch (watchful : dispatcher.Watchful (some key)) (regular : next.Regular)
    (explained : Journal.Explained next.journal)
    (others : ∀ {other found}, key ≠ other → next.connections.get? other = some found →
      dispatcher.connections.get? other = some found) : next.Watchful (some key) where
  regular := regular
  explained := explained
  waits {other found exchange} there carried differs := by
    have apart : key ≠ other := fun same => differs (congrArg some same)
    exact watchful.waits (others apart there) carried differs

/-- A connection changes, and what is noted of it needs no warrant. -/
theorem set (watchful : dispatcher.Watchful (some key))
    (present : dispatcher.connections.get? key = some connection) {changed : Connection}
    (regular : next.Regular)
    (connections : next.connections = dispatcher.connections.set key changed)
    (notes : List Transit) (journal : next.journal = dispatcher.journal ++ notes)
    (inside : ∀ note ∈ notes, note.bounds = false) : next.Watchful (some key) := by
  refine watchful.touch regular (journal ▸ watchful.explained.append inside) ?_
  intro other found differs there
  rw [connections] at there
  exact ((Roster.get?_set_cases present there).resolve_left fun here => differs here.1).2

/-- The pools change, and something is noted that needs no warrant. -/
theorem aside {except : Option Nat} (watchful : dispatcher.Watchful except)
    (regular : next.Regular) (connections : next.connections = dispatcher.connections)
    (notes : List Transit) (journal : next.journal = dispatcher.journal ++ notes)
    (inside : ∀ note ∈ notes, note.bounds = false) : next.Watchful except where
  regular := regular
  explained := journal ▸ watchful.explained.append inside
  waits there carried differs := watchful.waits (connections ▸ there) carried differs

/-- A connection ends, and its exchange is given up for a cause. -/
theorem drop (watchful : dispatcher.Watchful (some key)) (regular : next.Regular)
    (connections : next.connections = dispatcher.connections.erase key)
    (notes after : List Transit)
    (journal : next.journal = dispatcher.journal ++ (notes ++ .closed key :: after))
    (inside : ∀ note ∈ notes, note.bounds = false)
    (behind : ∀ note ∈ after, note.bounds = false)
    (warranted : Journal.Warranted (dispatcher.journal ++ notes) (.closed key) after) :
    next.Watchful none := by
  -- The events in front of the end need no warrant, and the end has one.
  have explained := (watchful.explained.append inside).append_cons warranted behind
  rw [List.append_assoc, ← journal] at explained
  refine (watchful.touch regular explained fun _ there => ?_).all
    fun connection exchange there => ?_
  · -- Every connection that is left was there before.
    rw [connections] at there
    exact (Roster.get?_erase_cases there).2
  · rw [connections, Roster.get?_erase_self] at there
    cases there

end Watchful

/-- The end of a connection is warranted if its exchange is given up for a cause. -/
theorem Regular.warranted (regular : dispatcher.Regular)
    (present : dispatcher.connections.get? key = some connection) {after : List Transit}
    (givenUp : ∀ exchange, connection.exchange = some exchange →
      Journal.GivenUp exchange connection.readBuffer (Journal.latest dispatcher.journal key)
        after) :
    Journal.Warranted dispatcher.journal (.closed key) after := by
  -- The journal tells what the connection carries and what was read over it.
  intro found exchange there carried
  obtain ⟨known, same, shows_⟩ := regular.recorded.live present
  rw [there] at same
  cases same
  rw [shows_.unread]
  exact givenUp exchange (shows_.carried.symm.trans carried)

/-- A connection ends for a cause. -/
theorem Parting.watchful {error : Error} (parting : dispatcher.Parting key error next)
    (watchful : dispatcher.Watchful (some key))
    (cause : ∀ connection exchange, dispatcher.connections.get? key = some connection →
      connection.exchange = some exchange →
        exchange.Cause connection.readBuffer (Journal.latest dispatcher.journal key) error) :
    next.Watchful none := by
  have regular := parting.leads.regular watchful.regular
  have accounted := watchful.regular.accounted
  cases parting with
  | freed present free =>
    -- Nothing is given up.
    refine watchful.drop regular rfl [] [] (accounted.journal_drop present []) (by simp)
      (by simp) ?_
    rw [List.append_nil]
    refine watchful.regular.warranted present fun exchange carried => ?_
    rw [free] at carried
    cases carried
  | rejected present carried =>
    -- The exchange is rejected behind the end of its connection.
    rename_i connection exchange
    refine watchful.drop regular rfl [] [.settled exchange.promise (.error error)] ?_ (by simp)
      (by simp [Transit.bounds]) ?_
    · rw [reject, settle, record, accounted.journal_drop present, List.append_assoc]
      rfl
    · rw [List.append_nil]
      refine watchful.regular.warranted present fun other same => ?_
      rw [carried] at same
      cases same
      exact .rejected (cause connection exchange present carried)
  | requeued present carried stale found =>
    -- A stale connection has brought nothing of the response.
    rename_i connection exchange pool
    obtain ⟨-, silent, -⟩ := (Connection.isStale_iff carried).1 stale
    refine watchful.drop regular rfl [] [.requeued exchange.again] ?_ (by simp)
      (by simp [Transit.bounds]) ?_
    · rw [record, modifyPool, accounted.journal_drop present, List.append_assoc]
      rfl
    · rw [List.append_nil]
      refine watchful.regular.warranted present fun other same => ?_
      rw [carried] at same
      cases same
      exact .requeued silent

/-- An exchange is launched where nothing was read. -/
theorem Launch.silent (launch : dispatcher.Launch host key exchange next)
    (accounted : dispatcher.Accounted)
    (there : next.connections.get? key = some connection) :
    connection.peerClosed = false ∧ connection.readBuffer = [] := by
  cases launch with
  | reused found queued rested present =>
    rename_i pool waiting idle idled
    -- The connection was idle, so that nothing was read over it that nobody asked for.
    have rests := accounted.rests present
      ((idleAt_iff present).1 (accounted.idle found rested)).2
    rcases Roster.get?_set_cases present there with ⟨_, rfl⟩ | ⟨differs, _⟩
    · exact ⟨rests.peerOpen, rests.nothingRead⟩
    · exact absurd rfl differs
  | opened found queued rested room same =>
    -- A new connection has read nothing.
    subst same
    rw [setConnection, record, openConnection, record, unqueue] at there
    dsimp only at there
    rw [Roster.set_insert, Roster.get?_insert, if_pos rfl] at there
    cases there
    exact ⟨rfl, rfl⟩

/-- An exchange is launched on a connection that was there, or under a free key. -/
theorem Launch.explained (launch : dispatcher.Launch host key exchange next)
    (recorded : dispatcher.Recorded) (explained : Journal.Explained dispatcher.journal) :
    Journal.Explained next.journal := by
  cases launch with
  | reused found queued rested present => exact explained.append (by simp [Transit.bounds])
  | opened found queued rested room same =>
    subst same
    rw [setConnection, record, openConnection, record, List.append_assoc]
    -- A new connection takes a key under which none is.
    exact explained.append_cons (recorded.gone dispatcher.connections.get?_nextKey)
      (by simp [Transit.bounds])

/-- Whatever is launched waits for its response. -/
theorem Launch.watchful (launch : dispatcher.Launch host key exchange next)
    (watchful : dispatcher.Watchful none) : next.Watchful none := by
  have regular : next.Regular :=
    Leads.regular (fun hand => (launch.move hand).leads) watchful.regular
  have explained := launch.explained watchful.regular.recorded watchful.explained
  -- The other connections are as they were, and this one has just begun to wait.
  refine ((watchful.but key).touch regular explained fun differs there => ?_).all ?_
  · rwa [launch.confined.connections _ differs] at there
  · intro connection other there _
    obtain ⟨goesOn, nothing⟩ := launch.silent watchful.regular.accounted there
    exact .silent goesOn nothing other

/-- A connection is established or gives out bytes, and what waits on it goes on waiting. -/
theorem Watchful.tend (watchful : dispatcher.Watchful none)
    (present : dispatcher.connections.get? key = some connection) (connected : Bool)
    (still : connection.connected = true → connected = true) (writeBuffer : Bytes) :
    (dispatcher.setConnection key { connection with connected, writeBuffer }).Watchful none := by
  have tended : dispatcher.Move [] _ _ := .tended present connected still writeBuffer
  refine ((watchful.but key).set present (tended.regular watchful.regular) rfl []
    (List.append_nil _).symm (by simp)).all ?_
  intro found exchange there carried
  rw [setConnection, Roster.get?_set_self present] at there
  cases there
  -- Writing does not change what was read.
  obtain ⟨goesOn, incomplete⟩ := watchful.waits present carried (by simp)
  exact ⟨goesOn, incomplete⟩

/-- What lands on a connection waits there, or is given up because of the transport. -/
theorem Landing.watchful (landing : dispatcher.Landing key next)
    (watchful : dispatcher.Watchful none) : next.Watchful none := by
  cases landing with
  | stays present writeBuffer => exact watchful.tend present _ id writeBuffer
  | parts present writeBuffer error parting =>
    -- Whoever cannot write has not heard the response yet.
    have tended := watchful.tend present _ id writeBuffer
    exact parting.watchful (tended.but key) fun _ _ there carried =>
      .transport error ((tended.waits there carried (by simp)).unheard _)

/-- Whatever is handed out waits for its response, or is given up because of the transport. -/
theorem Handover.watchful (handover : dispatcher.Handover host next)
    (watchful : dispatcher.Watchful none) : next.Watchful none := by
  cases handover with
  | refused found queued rested error =>
    -- Only an exchange of the queue is rejected.
    have refused : dispatcher.Handover host _ := .refused found queued rested error
    exact watchful.aside (refused.leads.regular watchful.regular) rfl [_] rfl
      (by simp [Transit.bounds])
  | misdirected found queued rested gone error =>
    exact absurd (watchful.regular.accounted.idle found rested) (not_idleAt gone)
  | given launch landing => exact landing.watchful (launch.watchful watchful)

/-- A pump leaves nothing unwatched. -/
theorem watchful_pump (net : Nat → HandoverIo) (host : String)
    (watchful : dispatcher.Watchful none) : (dispatcher.pump net host).Watchful none :=
  pump_keeps (·.Watchful none) host (fun _ _ handover => handover.watchful) net dispatcher watchful

/-- A connection is lost for a cause, and what waits for its host is handed out. -/
theorem watchful_fail (net : Nat → HandoverIo) (watchful : dispatcher.Watchful (some key))
    (present : dispatcher.connections.get? key = some connection) {error : Error}
    (cause : ∀ exchange, connection.exchange = some exchange →
      exchange.Cause connection.readBuffer (Journal.latest dispatcher.journal key) error) :
    (dispatcher.fail net key error).Watchful none := by
  simp only [fail, present]
  refine watchful_pump net _ ((lose_parting present error).watchful watchful ?_)
  -- The connection that is lost is the one that was present.
  intro found exchange there carried
  rw [present] at there
  cases there
  exact cause exchange carried

/-- A connection fails, and its exchange is given up because of the transport. -/
theorem watchful_failOrRetry (net : Nat → HandoverIo) (watchful : dispatcher.Watchful (some key))
    (present : dispatcher.connections.get? key = some connection) (failure : IoError)
    (unheard : ∀ exchange, connection.exchange = some exchange →
      exchange.Unheard connection.readBuffer (Journal.latest dispatcher.journal key)) :
    (dispatcher.failOrRetry net key (.transport failure)).Watchful none := by
  simp only [failOrRetry, present]
  refine watchful_pump net _ ((loseOrRetry_parting present (.transport failure)).watchful watchful
    fun found exchange there carried => ?_)
  rw [present] at there
  cases there
  exact .transport failure (unheard exchange carried)

/-- An exchange has its response, and is no longer under way. -/
theorem watchful_complete (net : Nat → HandoverIo) (watchful : dispatcher.Watchful (some key))
    (present : dispatcher.connections.get? key = some connection)
    (carried : connection.exchange = some exchange) (connected : connection.connected = true)
    {polled : Connection} {response : Response} {consumed : Nat}
    (decoded : connection.poll = (polled, .message response consumed))
    (failure : Option IoError) :
    ((dispatcher.setConnection key polled).complete net key response failure).Watchful none := by
  -- The settlement stands behind what the pump notes.
  have settled : ∀ (freed : Dispatcher) (regular : ((freed.pump net connection.authority).settle
      exchange (.ok response)).Regular), freed.Watchful none →
        ((freed.pump net connection.authority).settle exchange (.ok response)).Watchful none :=
    fun freed regular watchful => (watchful_pump net _ watchful).aside regular rfl [_] rfl
      (by simp [Transit.bounds])
  have regular := (stride_complete net present carried connected decoded failure).leads.regular
    watchful.regular
  -- The connection can be used again, or it ends.
  rcases complete_eq_or net present carried decoded failure with ⟨reusable, rests⟩ | ends
  · rw [rests] at regular ⊢
    have freed : dispatcher.Move [] _ _ := .answered present carried connected decoded reusable
    refine settled _ regular ((watchful.set present (freed.regular watchful.regular) rfl
      [.answered key response] rfl (by simp [Transit.bounds])).all ?_)
    intro found other there under
    -- It carries nothing any more.
    rw [modifyPool, record, setConnection, Roster.get?_set_self present] at there
    cases there
    cases under
  · rw [ends] at regular ⊢
    have freed : dispatcher.Move [] _ _ := .answeredLast present carried decoded
    refine settled _ regular (watchful.drop (freed.regular watchful.regular) rfl
      [.answered key response] [] (watchful.regular.accounted.journal_drop present _)
      (by simp [Transit.bounds]) (by simp) ?_)
    -- Nothing is under way any more when the connection ends.
    intro found other there under
    rw [Journal.line_concat, Transit.alter, if_pos rfl] at there
    obtain ⟨before, _, rfl⟩ := Option.map_eq_some_iff.1 there
    cases under

/-- A connection ends on which nothing is under way, whatever came over it last. -/
theorem Watchful.dropFree (watchful : dispatcher.Watchful (some key))
    (present : dispatcher.connections.get? key = some connection)
    (free : connection.exchange = none) (notes : List Transit)
    (regular : (dispatcher.drop key connection.authority notes).Regular)
    (quiet : ∀ note ∈ notes, note.turns key = false)
    (inside : ∀ note ∈ notes, note.bounds = false) :
    (dispatcher.drop key connection.authority notes).Watchful none := by
  refine watchful.drop regular rfl notes [] (watchful.regular.accounted.journal_drop present notes)
    inside (by simp) fun found exchange there carried => ?_
  -- What the journal says of the connection is what is there.
  obtain ⟨before, known, shows_⟩ := watchful.regular.recorded.live present
  rw [Journal.line_append_quiet quiet, known] at there
  cases there
  have under : connection.exchange = some exchange := shows_.carried.symm.trans carried
  rw [free] at under
  cases under

/-- A connection that cannot be watched any longer is one that the transport fails. -/
theorem watchful_watch (net : Nat → HandoverIo) (watchful : dispatcher.Watchful (some key))
    (present : dispatcher.connections.get? key = some connection) (failure : Option IoError)
    (waits : ∀ exchange, connection.exchange = some exchange → connection.WaitsFor exchange) :
    (match failure with
      | some failure => dispatcher.fail net key (.transport failure)
      | none => dispatcher : Dispatcher).Watchful none := by
  cases failure with
  | some failure =>
    -- A failure to watch is one of the transport, and nothing has come since the last look.
    exact watchful_fail net watchful present fun exchange carried =>
      .transport failure ((waits exchange carried).unheard _)
  | none =>
    refine watchful.all fun found exchange there carried => ?_
    rw [present] at there
    cases there
    exact waits exchange carried

/-- A connection is looked at for an answer, and from then on its exchange waits or is gone. -/
theorem watchful_lookForAnswer (net : Nat → HandoverIo)
    (watchful : dispatcher.Watchful (some key))
    (present : dispatcher.connections.get? key = some connection)
    (connected : connection.connected = true) (socketFailed : Bool) (failure : Option IoError) :
    (dispatcher.lookForAnswer net key connection socketFailed failure).Watchful none := by
  have decoding := connection.poll_snd
  unfold lookForAnswer
  dsimp only
  split
  · -- It carries an exchange, for which an answer is looked for.
    rename_i busy
    obtain ⟨exchange, carried⟩ := Option.isSome_iff_exists.1 busy
    have head : connection.asksForHead = (exchange.request.method == .head) := by
      rw [Connection.asksForHead, carried]
      rfl
    rw [head] at decoding
    split
    · -- The answer is there.
      rename_i decoded
      exact watchful_complete net watchful present carried connected decoded failure
    · -- The answer is incomplete.
      rename_i decoded
      rw [decoded] at decoding
      split
      · -- A stream that ends before its response is known to be whole has brought nothing.
        rename_i ended
        rw [ended, eq_comm, decodeResponse_ended_eq_incomplete_iff] at decoding
        refine watchful_failOrRetry net watchful present .closedEarly fun other _ => ?_
        exact ⟨[], .inl decoding, rfl⟩
      · rename_i goesOn
        -- More of it may come, so that the exchange waits on.
        refine watchful_watch net watchful present failure fun other same => ?_
        rw [carried] at same
        cases same
        have still : connection.peerClosed = false := by simpa using goesOn
        rw [still] at decoding
        exact ⟨still, decoding.symm⟩
    · -- The answer cannot be understood.
      rename_i decoded
      rw [decoded] at decoding
      refine watchful_fail net watchful present fun other same => ?_
      rw [carried] at same
      cases same
      exact .undecodable connection.peerClosed decoding.symm
  · -- It carries nothing, and what came over it ends it.
    rename_i idle
    have free : connection.exchange = none := Option.not_isSome_iff_eq_none.1 idle
    split
    · rw [close_eq present]
      have ended : dispatcher.Stride net _ := .closed present free
      exact watchful.dropFree present free [] (ended.leads.regular watchful.regular) (by simp)
        (by simp)
    · refine watchful_watch net watchful present failure fun exchange carried => ?_
      rw [free] at carried
      cases carried

/-- Whatever comes of the traffic on a connection, every exchange waits or is gone. -/
theorem Traffic.watchful (traffic : dispatcher.Traffic net key connection next)
    (watchful : dispatcher.Watchful none)
    (present : dispatcher.connections.get? key = some connection)
    (connected : connection.connected = true) : next.Watchful none := by
  -- The four parts are the same in several kinds of traffic.
  have inside : ∀ changed : Connection,
      (dispatcher.setConnection key changed).connections.get? key = some changed :=
    Roster.get?_set_self present
  have flushed : ∀ departure : Departure,
      (dispatcher.setConnection key (connection.flush departure)).Watchful (some key) :=
    fun departure => (watchful.tend present connection.connected id
      (departure.left connection.writeBuffer)).but key
  have filled : ∀ (departure : Departure) (arrival : Arrival),
      (connection.exchange.isSome = true ∨ arrival.bytes = [] ∧ arrival.ending ≠ .closed) →
        ((dispatcher.setConnection key ((connection.flush departure).fill arrival)).record
          (.arrived key arrival.bytes)).Watchful (some key) := by
    intro departure arrival harmless
    have read : Stride net _ _ := .filled (inside (connection.flush departure)) arrival harmless
    have regular := read.leads.regular (flushed departure).regular
    rw [setConnection_setConnection present] at regular
    exact (watchful.but key).set present regular rfl [.arrived key arrival.bytes] rfl
      (by simp [Transit.bounds])
  have still (exchange : Exchange) (carried : connection.exchange = some exchange) :
      connection.WaitsFor exchange := watchful.waits present carried (by simp)
  have spoiled : connection.exchange = none → ∀ bytes : Bytes,
      (dispatcher.drop key connection.authority [.arrived key bytes]).Watchful none := by
    intro free bytes
    have ended : dispatcher.Stride net _ := .spoiled present free bytes
    exact (watchful.but key).dropFree present free _ (ended.leads.regular watchful.regular)
      (by simp [Transit.turns]) (by simp [Transit.bounds])
  cases traffic with
  | unwritten departure failure =>
    -- The bytes before the failed writing were looked at already.
    exact watchful_failOrRetry net (flushed departure) (inside _) failure fun exchange carried =>
      (still exchange carried).unheard _
  | unread departure socketFailed failure =>
    exact watchful_lookForAnswer net (flushed departure) (inside _) (by exact connected)
      socketFailed failure
  | broken departure arrival harmless failure =>
    -- The bytes of the reading that failed are the latest ones.
    refine watchful_failOrRetry net (filled departure arrival harmless) (by exact inside _) failure
      fun exchange carried => ?_
    rw [record, Journal.latest_concat, Transit.bytesOver, if_pos rfl]
    exact (still exchange carried).unheard_fill arrival
  | heard departure arrival harmless socketFailed failure =>
    exact watchful_lookForAnswer net (filled departure arrival harmless) (by exact inside _)
      (by exact connected) socketFailed failure
  | spoiled free bytes => exact spoiled free bytes
  | spoiledAndBroken free bytes => exact watchful_pump net _ (spoiled free bytes)

/-- A connection that is ready is looked after. -/
theorem watchful_onReady (net : Nat → HandoverIo) (watchful : dispatcher.Watchful none) (key : Nat)
    (ready : Readiness) (io : ConnectionIo) :
    (dispatcher.onReady net key ready io).Watchful none := by
  unfold onReady
  split
  · exact watchful
  · rename_i connection present
    -- Only a connection that is there and established is read.
    split
    · rename_i connected
      exact (traffic_exchangeBytes net present ready io).watchful watchful present connected
    · split
      · -- The connection is established now, or cannot be.
        split
        · have there : (dispatcher.setConnection key
              { connection with connected := true }).connections.get? key =
                some { connection with connected := true } := Roster.get?_set_self present _
          have established : (dispatcher.setConnection key
              { connection with connected := true }).Watchful none :=
            watchful.tend present true (fun _ => rfl) connection.writeBuffer
          exact (traffic_exchangeBytes net there ready io).watchful established there rfl
        · exact watchful
        · exact watchful_fail net (watchful.but key) present fun exchange carried =>
            .transport _ ((watchful.waits present carried (by simp)).unheard _)
      · exact watchful

/-- Connections are lost for want of time, each of them once. -/
theorem watchful_timeOutAll (net : Nat → HandoverIo) (expired : List (Nat × Duration))
    (distinct : expired.Pairwise fun entry other => entry.1 ≠ other.1)
    (watchful : dispatcher.Watchful none)
    (busy : ∀ key timeout, (key, timeout) ∈ expired → ∃ connection exchange,
      dispatcher.connections.get? key = some connection ∧ connection.exchange = some exchange ∧
      exchange.timeout = timeout) :
    (dispatcher.timeOutAll net expired).Watchful none := by
  unfold timeOutAll
  -- Each connection is lost by itself, and the others wait on.
  induction expired generalizing dispatcher with
  | nil => exact watchful
  | cons first rest ih =>
    obtain ⟨key, timeout⟩ := first
    obtain ⟨differ, others⟩ := List.pairwise_cons.1 distinct
    obtain ⟨connection, exchange, present, carried, rfl⟩ := busy key timeout List.mem_cons_self
    refine ih others ?_ fun other later member => ?_
    · -- The time was up while the response was incomplete.
      refine watchful_fail net (watchful.but key) present fun other same => ?_
      rw [carried] at same
      cases same
      exact .overdue (watchful.waits present carried (by simp)).incomplete
    · -- The others that have run out of time are where they were.
      obtain ⟨known, carries, there, under, same⟩ :=
        busy other later (List.mem_cons_of_mem _ member)
      have kept := (fail_timeout net watchful.regular.accounted present carried
        exchange.timeout).2.1 other known (differ _ member) there (by simp [under])
      exact ⟨known, carries, kept, under, same⟩

/-- When time has passed, whatever is left waits. -/
theorem watchful_expire (net : Nat → HandoverIo) (watchful : dispatcher.Watchful none)
    (now : Instant) : (dispatcher.expire net now).Watchful none := by
  -- First the connections are lost, and then the queues.
  have regular := (strides_expire net dispatcher now).leads.regular watchful.regular
  have lost := watchful_timeOutAll net (dispatcher.expiredConnections now)
    (expiredConnections_distinct dispatcher now) watchful fun key timeout member => by
      obtain ⟨connection, exchange, present, carried, _, same⟩ := mem_expiredConnections.1 member
      exact ⟨connection, exchange, present, carried, same⟩
  refine lost.aside regular ?_ ((dispatcher.timeOutAll net
    (dispatcher.expiredConnections now)).pools.overdue now |>.map fun exchange =>
      .settled exchange.promise (.error (.timeout exchange.timeout))) ?_ ?_
  · rw [expire, expireQueues, rejectAll_eq]
  · rw [expire, expireQueues, rejectAll_eq]
    rfl
  · -- What is noted for the queues are settlements only.
    intro note member
    obtain ⟨exchange, _, rfl⟩ := List.mem_map.1 member
    rfl

/-- An exchange comes in, and is not under way yet. -/
theorem Entry.watchful (entry : dispatcher.Entry exchange next)
    (watchful : dispatcher.Watchful none) : next.Watchful none := by
  have regular := entry.regular watchful.regular
  cases entry with
  | refused error =>
    -- The exchange is rejected, or waits in a queue that is there.
    exact watchful.aside regular rfl [.received exchange, .settled exchange.promise (.error error)]
      (List.append_assoc ..) (by simp [Transit.bounds])
  | admitted found =>
    exact watchful.aside regular rfl [.received exchange] rfl (by simp [Transit.bounds])

/-- An exchange comes in, and waits in a queue or for a response. -/
theorem watchful_submit (net : Nat → HandoverIo) (watchful : dispatcher.Watchful none)
    (exchange : Exchange) : (dispatcher.submit net exchange).Watchful none := by
  have intake := intake_submit net dispatcher exchange
  generalize dispatcher.submit net exchange = next at intake ⊢
  cases intake with
  | admitted found =>
    have entry : dispatcher.Entry exchange _ := .admitted found
    exact watchful_pump net _ (entry.watchful watchful)
  | refused error =>
    have entry : dispatcher.Entry exchange _ := .refused error
    exact entry.watchful watchful
  | discovered absent address =>
    -- The lookup is a move of its own, which leaves the connections alone.
    have discovered : dispatcher.Move [] _ _ := .discovered absent address
    have looked := watchful.aside (discovered.regular watchful.regular) rfl []
      (List.append_nil _).symm (by simp)
    exact watchful_pump net _ ((entry_discovered absent address).watchful looked)

/-- Whatever the errands are, every exchange under way waits, and none is lost without a cause. -/
theorem watchful_attendAll (net : Nat → HandoverIo) (errands : List Errand)
    (watchful : dispatcher.Watchful none) : (dispatcher.attendAll net errands).Watchful none := by
  unfold attendAll
  induction errands generalizing dispatcher with
  | nil => exact watchful
  | cons errand rest ih =>
    -- Each errand is attended by what the errands before have left.
    refine ih ?_
    cases errand with
    | submit exchange => exact watchful_submit net watchful exchange
    | ready key ready io => exact watchful_onReady net watchful key ready io
    | expire now => exact watchful_expire net watchful now

end Watchful

end Dispatcher

end HttpEngine
