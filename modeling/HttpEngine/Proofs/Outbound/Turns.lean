import HttpEngine.Proofs.Outbound.Accounting
import HttpEngine.Proofs.Outbound.Line

/-!
The turns on a connection, seen from the journal: an exchange is started only where nothing is under
way and nothing is unread, and a response is read from the bytes that have arrived since. Every move
keeps the lines of the journal true to the connections.
-/

namespace HttpEngine

/-- What looking for a response finds is what is decoded from the bytes that were read. -/
theorem Connection.poll_snd (connection : Connection) : connection.poll.2 =
    decodeResponse connection.asksForHead connection.peerClosed connection.readBuffer := by
  unfold poll
  dsimp only
  split <;> rfl

/-- A line that tells what is true of a connection. -/
structure Line.Shows (line : Line) (connection : Connection) : Prop where
  host : line.host = connection.authority
  carried : line.carried = connection.exchange
  unread : line.unread = connection.readBuffer
  served : line.told.length = connection.served
  /-- There is a response to each exchange but the one that is under way. -/
  asked : ∃ answered, line.asked = answered ++ line.carried.toList ∧
    answered.length = line.told.length

namespace Line.Shows

variable {line : Line} {connection : Connection}

/-- What is under way is the exchange to which the next response belongs. -/
theorem latest (shows_ : line.Shows connection) {exchange : Exchange}
    (carried : line.carried = some exchange) : line.asked[line.told.length]? = some exchange := by
  obtain ⟨answered, asked, length⟩ := shows_.asked
  rw [asked, carried, ← length]
  simp

/-- Where nothing is under way, another exchange can be started. -/
theorem start (shows_ : line.Shows connection) (free : connection.exchange = none)
    (exchange : Exchange) (keepAlive : Bool) :
    (line.start exchange).Shows (connection.start exchange keepAlive) where
  host := shows_.host
  carried := rfl
  unread := shows_.unread
  served := shows_.served
  asked := by
    -- Only what was asked grows, by the exchange that is now under way.
    obtain ⟨answered, asked, length⟩ := shows_.asked
    rw [shows_.carried, free, Option.toList_none, List.append_nil] at asked
    exact ⟨answered, by rw [Line.start, asked]; rfl, length⟩

/-- What arrives is unread. -/
theorem hear (shows_ : line.Shows connection) (arrival : Arrival) :
    (line.hear arrival.bytes).Shows (connection.fill arrival) where
  host := shows_.host
  carried := shows_.carried
  unread := by simp [Line.hear, Connection.fill, shows_.unread]
  served := shows_.served
  asked := shows_.asked

/-- A response leaves what stands behind it, if the peer goes on. -/
theorem answer (shows_ : line.Shows connection) {polled : Connection} {exchange : Exchange}
    {response : Response} {consumed : Nat} (carried : connection.exchange = some exchange)
    (decoded : connection.poll = (polled, .message response consumed))
    (goesOn : connection.peerClosed = false) : (line.answer response).Shows polled.release := by
  have polledEq := Connection.polled_eq decoded
  -- The same response is at the front of the unread bytes, as far as the line can tell.
  have found : decodeResponse line.asksForHead false line.unread = .message response consumed := by
    have head : line.asksForHead = connection.asksForHead := by
      rw [Line.asksForHead, shows_.carried, Connection.asksForHead]
    rw [head, shows_.unread, ← goesOn, ← connection.poll_snd, decoded]
  have behind : line.behind = connection.readBuffer.drop consumed := by
    rw [Line.behind, found, shows_.unread]
  subst polledEq
  obtain ⟨answered, asked, length⟩ := shows_.asked
  -- The response leaves the line as it leaves the connection: nothing is carried, one more was
  -- served.
  constructor
  · exact shows_.host
  · rfl
  · exact behind
  · simp [Line.answer, shows_.served, Connection.release]
  · refine ⟨line.asked, by simp [Line.answer], ?_⟩
    rw [asked, shows_.carried, carried]
    simp [Line.answer, length]

end Line.Shows

namespace Journal

/-- What must have happened before an event. -/
def Allows (before : List Transit) : Transit → Prop
  -- The connection carries nothing, and has read nothing that nobody asked for.
  | .started key _ =>
    ∃ found, line before key = some found ∧ found.carried = none ∧ found.unread = []
  -- The response is read from what arrived, for the exchange that is under way.
  | .answered key response => ∃ found exchange ended consumed, line before key = some found ∧
    found.carried = some exchange ∧ found.asked[found.told.length]? = some exchange ∧
    decodeResponse (exchange.request.method == .head) ended found.unread =
      .message response consumed
  -- A connection that was used before was closed without a byte of an answer.
  | .requeued exchange => ∃ earlier key found original, before = earlier ++ [.closed key] ∧
    line earlier key = some found ∧ found.carried = some original ∧ found.told ≠ [] ∧
    found.unread = [] ∧ original.retried = false ∧ exchange = original.again
  | _ => True

/-- A journal in which every event comes after what must have happened before it. -/
def Proper (journal : List Transit) : Prop :=
  ∀ before note after, journal = before ++ note :: after → Allows before note

/-- One more event that is allowed. -/
theorem Proper.concat {journal : List Transit} {note : Transit} (proper : Proper journal)
    (allows : Allows journal note) : Proper (journal ++ [note]) := by
  -- An event of the longer journal is the last one, or one of those before.
  intro before event after whole
  rcases List.eq_nil_or_concat after with rfl | ⟨behind, last, concat⟩
  · obtain ⟨rfl, rfl⟩ := List.append_singleton_inj.1 whole
    exact allows
  · rw [concat, List.concat_eq_append, ← List.cons_append, ← List.append_assoc] at whole
    obtain ⟨rfl, rfl⟩ := List.append_singleton_inj.1 whole
    exact proper before event behind rfl

/-- Events that need nothing to have happened before them. -/
theorem Proper.append {journal notes : List Transit} (proper : Proper journal)
    (free : ∀ note ∈ notes, ∀ before, Allows before note) : Proper (journal ++ notes) := by
  induction notes using List.reverseRecOn with
  | nil => rwa [List.append_nil]
  | append_singleton notes note ih =>
    rw [← List.append_assoc]
    refine Proper.concat (ih fun other member => free other ?_) (free note ?_ _) <;> simp [*]

end Journal

/-- The response that a connection finds is one that the journal allows. -/
theorem Line.Shows.allows {line : Line} {connection polled : Connection}
    (shows_ : line.Shows connection) {journal : List Transit} {key : Nat} {exchange : Exchange}
    {response : Response} {consumed : Nat} (there : Journal.line journal key = some line)
    (carried : connection.exchange = some exchange)
    (decoded : connection.poll = (polled, .message response consumed)) :
    Journal.Allows journal (.answered key response) := by
  have under : line.carried = some exchange := shows_.carried.trans carried
  refine ⟨line, exchange, connection.peerClosed, consumed, there, under, shows_.latest under, ?_⟩
  -- The request that is answered is the one that the connection carries.
  have head : connection.asksForHead = (exchange.request.method == .head) := by
    rw [Connection.asksForHead, carried]
    rfl
  rw [← head, shows_.unread, ← connection.poll_snd, decoded]

namespace Dispatcher

/-- A dispatcher whose journal tells the truth about its connections. -/
structure Recorded (dispatcher : Dispatcher) : Prop where
  live : ∀ {key connection}, dispatcher.connections.get? key = some connection →
    ∃ found, Journal.line dispatcher.journal key = some found ∧ found.Shows connection
  gone : ∀ {key}, dispatcher.connections.get? key = none →
    Journal.line dispatcher.journal key = none
  proper : Journal.Proper dispatcher.journal

namespace Recorded

variable {dispatcher next : Dispatcher} {key : Nat} {connection : Connection}

/-- A new dispatcher has nothing to tell. -/
theorem fresh (most : Nat) (keepAlive : Bool) : (fresh most keepAlive).Recorded where
  live {key connection} present := by
    rw [Dispatcher.fresh, Roster.get?_empty] at present
    cases present
  gone _ := rfl
  proper before note after whole := by simp [Dispatcher.fresh] at whole

/-- A change of the connection under one key, with events about no other key. -/
theorem touch (recorded : dispatcher.Recorded) (key : Nat) (notes : List Transit)
    (journal : next.journal = dispatcher.journal ++ notes)
    (same : ∀ other, key ≠ other →
      next.connections.get? other = dispatcher.connections.get? other)
    (silent : ∀ other known, key ≠ other → notes.foldl (Transit.alter other) known = known)
    (live : ∀ connection, next.connections.get? key = some connection →
      ∃ found, Journal.line next.journal key = some found ∧ found.Shows connection)
    (gone : next.connections.get? key = none → Journal.line next.journal key = none)
    (proper : Journal.Proper next.journal) : next.Recorded := by
  have unaltered : ∀ other, key ≠ other →
      Journal.line next.journal other = Journal.line dispatcher.journal other := by
    intro other differs
    rw [journal, Journal.line_append, silent other _ differs]
  refine ⟨fun {other found} present => ?_, fun {other} absent => ?_, proper⟩
  · by_cases here : key = other
    · -- The line of this key is shown by whoever gives the notes, and the others are unaltered.
      subst here
      exact live found present
    · rw [unaltered other here]
      rw [same other here] at present
      exact recorded.live present
  · by_cases here : key = other
    · subst here
      exact gone absent
    · rw [unaltered other here]
      rw [same other here] at absent
      exact recorded.gone absent

/-- Events about no connection at all. -/
theorem aside (recorded : dispatcher.Recorded) (notes : List Transit)
    (journal : next.journal = dispatcher.journal ++ notes)
    (same : next.connections = dispatcher.connections)
    (silent : ∀ key known, notes.foldl (Transit.alter key) known = known)
    (proper : Journal.Proper (dispatcher.journal ++ notes)) : next.Recorded := by
  have unaltered : ∀ key, Journal.line next.journal key = Journal.line dispatcher.journal key := by
    intro key
    rw [journal, Journal.line_append, silent]
  refine ⟨fun {key connection} present => ?_, fun {key} absent => ?_, journal ▸ proper⟩
  · -- Neither the connections nor the lines are altered.
    rw [unaltered]
    exact recorded.live (same ▸ present)
  · rw [unaltered]
    exact recorded.gone (same ▸ absent)

/-- Whether a connection rests can be told from the journal. -/
theorem rests_iff (recorded : dispatcher.Recorded) {host : String} :
    Journal.Rests dispatcher.journal host key ↔ IdleAt dispatcher.connections host key := by
  cases present : dispatcher.connections.get? key with
  | none =>
    -- Nothing is told of a key that is not in use.
    simp [Journal.Rests, recorded.gone present, not_idleAt present]
  | some connection =>
    -- The line of a connection is there, and shows its host and what it carries.
    obtain ⟨found, there, shows_⟩ := recorded.live present
    rw [idleAt_iff present, ← shows_.host, ← shows_.carried, Journal.Rests, there]
    simp

/-- A connection ends, and nothing is told of it any more. -/
theorem drop (recorded : dispatcher.Recorded) (accounted : dispatcher.Accounted)
    (present : dispatcher.connections.get? key = some connection) (notes : List Transit)
    (silent : ∀ other known, key ≠ other → notes.foldl (Transit.alter other) known = known)
    (proper : Journal.Proper (dispatcher.journal ++ notes)) :
    (dispatcher.drop key connection.authority notes).Recorded := by
  have journal := accounted.journal_drop present notes
  refine recorded.touch key _ journal (fun other differs => ?_) (fun other known differs => ?_)
    (fun connection there => ?_) (fun _ => ?_) ?_
  · rw [Dispatcher.drop, Roster.get?_erase, if_neg differs]
  · rw [List.foldl_append, silent other known differs]
    simp [Transit.alter, differs]
  · -- The line ends with its connection.
    exact absurd rfl (Roster.get?_erase_cases there).1
  · rw [journal, ← List.append_assoc, Journal.line_concat]
    simp [Transit.alter]
  · rw [journal, ← List.append_assoc]
    exact proper.concat trivial

/-- A connection changes, and an event tells of the change. -/
theorem setConnection (recorded : dispatcher.Recorded)
    (present : dispatcher.connections.get? key = some connection) (note : Transit)
    {changed : Connection} (journal : next.journal = dispatcher.journal ++ [note])
    (connections : next.connections = dispatcher.connections.set key changed)
    (silent : ∀ other known, key ≠ other → note.alter other known = known)
    (shows_ : ∀ found : Line, Journal.line dispatcher.journal key = some found →
      found.Shows connection → ∃ after, note.alter key (some found) = some after ∧
        after.Shows changed)
    (allows : Journal.Allows dispatcher.journal note) : next.Recorded := by
  obtain ⟨found, there, before⟩ := recorded.live present
  obtain ⟨after, altered, now⟩ := shows_ found there before
  have inside : next.connections.get? key = some changed := by
    rw [connections, Roster.get?_set_self present]
  refine recorded.touch key [note] journal (fun other differs => ?_) silent (fun other there => ?_)
    (fun absent => ?_) ?_
  · rw [connections, Roster.get?_set present, if_neg differs]
  · -- The line is altered as the connection is.
    rw [inside] at there
    cases there
    refine ⟨after, ?_, now⟩
    rw [journal, Journal.line_concat, there, altered]
  · rw [inside] at absent
    cases absent
  · rw [journal]
    exact recorded.proper.concat allows

/-- A connection is opened, and an exchange is started on it. -/
theorem insert (recorded : dispatcher.Recorded) (host : String) (exchange : Exchange)
    (keepAlive : Bool)
    (journal : next.journal = dispatcher.journal ++
      [.opened dispatcher.connections.nextKey host,
        .started dispatcher.connections.nextKey exchange])
    (connections : next.connections = dispatcher.connections.insert
      (({ authority := host } : Connection).start exchange keepAlive)) : next.Recorded := by
  rw [List.append_cons] at journal
  -- The line of a new connection begins with it.
  have begun : Journal.line (dispatcher.journal ++
      [.opened dispatcher.connections.nextKey host]) dispatcher.connections.nextKey =
        some { host } := by
    rw [Journal.line_concat]
    simp [Transit.alter]
  have inside : next.connections.get? dispatcher.connections.nextKey =
      some (({ authority := host } : Connection).start exchange keepAlive) := by
    rw [connections, Roster.get?_insert, if_pos rfl]
  refine recorded.touch dispatcher.connections.nextKey
    [.opened dispatcher.connections.nextKey host,
      .started dispatcher.connections.nextKey exchange]
    (by rw [journal, ← List.append_cons]) (fun other differs => ?_)
    (fun other known differs => ?_) (fun connection there => ?_) (fun absent => ?_) ?_
  · -- Two notes are taken, the second of them on the line that the first one begins.
    rw [connections, Roster.get?_insert, if_neg differs]
  · simp [Transit.alter, differs]
  · rw [inside] at there
    cases there
    refine ⟨({ host } : Line).start exchange, ?_, ⟨rfl, rfl, rfl, rfl, [], rfl, rfl⟩⟩
    rw [journal, Journal.line_concat, begun]
    simp [Transit.alter]
  · rw [inside] at absent
    cases absent
  · rw [journal]
    have allowed : Journal.Proper (dispatcher.journal ++
        [.opened dispatcher.connections.nextKey host]) := recorded.proper.concat trivial
    exact allowed.concat ⟨_, begun, rfl, rfl⟩

end Recorded

variable {dispatcher next : Dispatcher} {hand rest : List Exchange}

/-- An exchange that comes in tells nothing of the connections. -/
theorem Entry.recorded {exchange : Exchange} (entry : dispatcher.Entry exchange next)
    (recorded : dispatcher.Recorded) : next.Recorded := by
  cases entry with
  | refused error =>
    -- An exchange that comes in alters no line.
    exact recorded.aside [.received exchange, .settled exchange.promise (.error error)]
      (List.append_assoc ..) rfl (fun _ _ => rfl)
      (recorded.proper.append (by simp [Journal.Allows]))
  | admitted found =>
    exact recorded.aside [.received exchange] rfl rfl (fun _ _ => rfl)
      (recorded.proper.concat trivial)

/-- Every move is told truly, and nothing happens that is not allowed. -/
theorem Move.recorded (move : dispatcher.Move hand next rest) (accounted : dispatcher.Accounted)
    (recorded : dispatcher.Recorded) : next.Recorded := by
  cases move with
  | discovered absent address =>
    exact recorded.aside [] (List.append_nil _).symm rfl (fun _ _ => rfl)
      (recorded.proper.append (by simp))
  | unreachable found queued error =>
    -- What happens in a queue alters no line either.
    rename_i host pool exchange waiting
    exact recorded.aside [.settled exchange.promise (.error error)] rfl rfl (fun _ _ => rfl)
      (recorded.proper.concat trivial)
  | misdirected found queued rested gone error =>
    exact absurd (accounted.idle found rested) (not_idleAt gone)
  | reused found queued rested present =>
    -- An idle connection carries nothing and has read nothing.
    rename_i host pool exchange waiting key idle connection
    obtain ⟨-, free⟩ := (idleAt_iff present).1 (accounted.idle found rested)
    obtain ⟨found, there, shows_⟩ := recorded.live present
    refine recorded.setConnection present (.started key exchange) rfl rfl ?_ ?_ ?_
    · intro other known differs
      simp [Transit.alter, differs]
    · intro found _ shows_
      exact ⟨found.start exchange, by simp [Transit.alter],
        shows_.start free exchange dispatcher.keepAlive⟩
    · refine ⟨found, there, shows_.carried.trans free, ?_⟩
      rw [shows_.unread, (accounted.rests present free).nothingRead]
  | opened found queued rested room =>
    -- The first request is written on the line of the new connection.
    rename_i host pool exchange waiting
    exact recorded.insert host exchange dispatcher.keepAlive (List.append_assoc ..)
      (Roster.set_insert dispatcher.connections _ _)
  | tended present connected still writeBuffer =>
    -- Bytes that are given out are no event of the line.
    rename_i key connection
    obtain ⟨found, there, shows_⟩ := recorded.live present
    refine recorded.touch key [] (List.append_nil _).symm (fun other differs => ?_)
      (fun _ _ _ => rfl) (fun other changed => ?_) (fun absent => ?_) recorded.proper
    · rw [Dispatcher.setConnection, Roster.get?_set present, if_neg differs]
    · rw [Dispatcher.setConnection, Roster.get?_set_self present] at changed
      cases changed
      exact ⟨found, there, shows_.host, shows_.carried, shows_.unread, shows_.served, shows_.asked⟩
    · rw [Dispatcher.setConnection, Roster.get?_set_self present] at absent
      cases absent
  | filled present arrival harmless =>
    rename_i key connection
    refine recorded.setConnection present (.arrived key arrival.bytes) rfl rfl ?_ ?_ trivial
    · intro other known differs
      simp [Transit.alter, differs]
    · intro found _ shows_
      exact ⟨found.hear arrival.bytes, by simp [Transit.alter], shows_.hear arrival⟩
  | answered present carried connected decoded reusable =>
    rename_i key connection polled exchange response consumed
    obtain ⟨found, there, shows_⟩ := recorded.live present
    -- A connection that is kept is one whose peer goes on.
    have goesOn : connection.peerClosed = false := by
      rw [Connection.polled_eq decoded] at reusable
      simp only [Connection.isReusable, Bool.and_eq_true, Bool.not_eq_true'] at reusable
      exact reusable.1.2
    refine recorded.setConnection present (.answered key response) rfl rfl ?_ ?_ ?_
    · intro other known differs
      simp [Transit.alter, differs]
    · intro found _ shows_
      exact ⟨found.answer response, by simp [Transit.alter], shows_.answer carried decoded goesOn⟩
    · exact shows_.allows there carried decoded
  | answeredLast present carried decoded =>
    rename_i key connection polled exchange response consumed
    obtain ⟨found, there, shows_⟩ := recorded.live present
    refine recorded.drop accounted present _ (fun other known differs => ?_)
      (recorded.proper.concat (shows_.allows there carried decoded))
    simp [Transit.alter, differs]
  | spoiled present free bytes =>
    rename_i key connection
    have allowed : Journal.Proper (dispatcher.journal ++ [.arrived key bytes]) :=
      recorded.proper.concat trivial
    refine recorded.drop accounted present _ (fun other known differs => ?_) allowed
    simp [Transit.alter, differs]
  | closed present =>
    -- A connection that ends takes its line with it.
    exact recorded.drop accounted present [] (fun _ _ _ => rfl) (recorded.proper.append (by simp))
  | retried present carried stale found =>
    rename_i key connection exchange pool
    obtain ⟨found, there, shows_⟩ := recorded.live present
    obtain ⟨used, silent, first⟩ := (Connection.isStale_iff carried).1 stale
    have ended := recorded.drop accounted present [] (fun _ _ _ => rfl)
      (recorded.proper.append (by simp))
    refine ended.aside [.requeued exchange.again] rfl rfl (fun _ _ => rfl)
      (ended.proper.concat ?_)
    -- The connection was used before, and has read nothing since.
    rw [accounted.journal_drop present, List.nil_append]
    refine ⟨dispatcher.journal, key, found, exchange, rfl, there, shows_.carried.trans carried, ?_,
      shows_.unread.trans silent, first, rfl⟩
    rw [← shows_.served] at used
    exact List.ne_nil_of_length_pos used
  | settled held outcome =>
    rename_i exchange
    exact recorded.aside [.settled exchange.promise outcome] rfl rfl (fun _ _ => rfl)
      (recorded.proper.concat trivial)
  | overdue now =>
    exact recorded.aside [] (List.append_nil _).symm rfl (fun _ _ => rfl)
      (recorded.proper.append (by simp))

end Dispatcher

end HttpEngine
