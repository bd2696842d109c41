import HttpEngine.Outbound.Connection
import HttpEngine.Proofs.Inbound.Service

/-!
A connection and a session with a pipe in each direction between them. The pipes deliver what was
written in pieces of any size, and everything else happens in any order.
-/

namespace HttpEngine

variable {σ : Type}

/-- An exchange that is to be started, and whether its request wants the connection to stay. -/
structure Enquiry where
  exchange : Exchange
  keepAlive : Bool
  deriving DecidableEq, Repr

/-- A connection and a session, and the bytes that are on the way between them. -/
structure Link (σ : Type) where
  client : Connection
  service : Service σ
  upstream : Bytes := []
  downstream : Bytes := []
  /-- The enquiries that were not started yet, in their order. -/
  waiting : List Enquiry
  /-- Whether the connection may carry another exchange, as the client sees it. -/
  usable : Bool := true
  /-- What came of the exchanges that are over, in their order. -/
  outcomes : List (Except DecodeError Response) := []

/-- What can happen on a link. -/
inductive LinkAct where
  /-- The next exchange is started, if the one before it is over and left the connection open. -/
  | start
  /-- The client writes as many bytes into its pipe as there is room for. -/
  | sendUp (room : Nat)
  /-- The session reads some of the bytes that are in the pipe. -/
  | readUp (count : Nat)
  | dispatch (now : Instant)
  /-- The session writes as many bytes into its pipe as there is room for. -/
  | sendDown (room : Nat)
  /-- The client reads some of the bytes that are in the pipe. -/
  | readDown (count : Nat)
  | poll
  deriving DecidableEq, Repr

/-- Whether an act only moves bytes along. -/
def LinkAct.moves : LinkAct → Bool
  | .sendUp _ | .readUp _ | .sendDown _ | .readDown _ => true
  | .start | .dispatch _ | .poll => false

namespace Link

/-- A link over which nothing has gone yet. -/
def opened (authority : String) (kept : σ) (now : Instant) (enquiries : List Enquiry) : Link σ :=
  { client := { authority, connected := true }, service := .opened kept now, waiting := enquiries }

/-- Starts the next exchange if that is possible. -/
def start (link : Link σ) : Link σ :=
  match link.waiting with
  | [] => link
  | enquiry :: rest =>
    if link.client.isBusy || !link.usable then link
    else
      { link with
        client := link.client.start enquiry.exchange enquiry.keepAlive
        waiting := rest }

/-- Looks for a response. A connection that carries no exchange must have nothing to read. -/
def poll (link : Link σ) : Link σ :=
  if link.client.isBusy then
    match link.client.poll with
    | (_, .incomplete) => link
    | (polled, .message response _) =>
      { link with
        client := polled.release
        usable := polled.isReusable response
        outcomes := link.outcomes ++ [.ok response] }
    | (polled, .failed error) =>
      { link with
        client := polled.release
        usable := false
        outcomes := link.outcomes ++ [.error error] }
  else if link.client.peerClosed || link.client.hasUnsolicited then { link with usable := false }
  else link

/-- One act. -/
def step (handler : Handler σ) (maxPayload : Nat) (link : Link σ) : LinkAct → Link σ
  | .start => link.start
  | .sendUp room =>
    { link with
      client := link.client.flush ⟨room, none⟩
      upstream := link.upstream ++ Departure.taken ⟨room, none⟩ link.client.writeBuffer }
  | .readUp count =>
    { link with
      service := link.service.fill ⟨link.upstream.take count, .blocked⟩
      upstream := link.upstream.drop count }
  | .dispatch now => { link with service := link.service.dispatch handler maxPayload now }
  | .sendDown room =>
    { link with
      service := link.service.flush ⟨room, none⟩
      downstream := link.downstream ++
        Departure.taken ⟨room, none⟩ link.service.session.writeBuffer }
  | .readDown count =>
    { link with
      client := link.client.fill ⟨link.downstream.take count, .blocked⟩
      downstream := link.downstream.drop count }
  | .poll => link.poll

/-- Acts, one after the other. -/
def run (handler : Handler σ) (maxPayload : Nat) (link : Link σ) (acts : List LinkAct) : Link σ :=
  acts.foldl (step handler maxPayload) link

/-- The bytes that the client has written and the session has not answered, wherever they are. -/
def outgoing (link : Link σ) : Bytes :=
  link.service.session.readBuffer ++ link.upstream ++ link.client.writeBuffer

/-- The bytes that the session has written and the client has not taken, wherever they are. -/
def incoming (link : Link σ) : Bytes :=
  link.client.readBuffer ++ link.downstream ++ link.service.session.writeBuffer

/-- Everything about a link but where its bytes are. -/
structure View (σ : Type) where
  exchange : Option Exchange
  authority : String
  outgoing : Bytes
  incoming : Bytes
  calls : List Call
  kept : σ
  closing : Bool
  peersClosed : Bool × Bool
  waiting : List Enquiry
  usable : Bool
  outcomes : List (Except DecodeError Response)

/-- What a link looks like from far away. -/
def view (link : Link σ) : View σ where
  exchange := link.client.exchange
  authority := link.client.authority
  outgoing := link.outgoing
  incoming := link.incoming
  calls := link.service.calls
  kept := link.service.kept
  closing := link.service.session.closing
  peersClosed := (link.client.peerClosed, link.service.session.peerClosed)
  waiting := link.waiting
  usable := link.usable
  outcomes := link.outcomes

/-- Bytes that are read from a pipe stand behind those that were read before. -/
theorem read_append (read pipe behind : Bytes) (count : Nat) :
    (read ++ pipe.take count) ++ pipe.drop count ++ behind = read ++ pipe ++ behind := by
  rw [List.append_assoc read, List.take_append_drop]

/-- Bytes that are written into a pipe stand in front of those that still wait. -/
theorem sent_append (read pipe waiting : Bytes) (departure : Departure) :
    read ++ (pipe ++ departure.taken waiting) ++ departure.left waiting =
      read ++ pipe ++ waiting := by
  rw [List.append_assoc, List.append_assoc, departure.taken_append_left, ← List.append_assoc]

/-- Bytes that move along are not lost, and nothing else changes. -/
theorem view_step_of_moves (handler : Handler σ) (maxPayload : Nat) (link : Link σ) {act : LinkAct}
    (moves : act.moves = true) : (link.step handler maxPayload act).view = link.view := by
  cases act with
  | sendUp room =>
    -- Writing and reading move bytes along the way to the session.
    have same : (link.step handler maxPayload (.sendUp room)).outgoing = link.outgoing :=
      sent_append _ _ _ _
    unfold view
    rw [same]
    rfl
  | readUp count =>
    have same : (link.step handler maxPayload (.readUp count)).outgoing = link.outgoing :=
      read_append _ _ _ _
    -- A piece that comes is not the end.
    have goesOn : (link.step handler maxPayload (.readUp count)).service.session.peerClosed =
        link.service.session.peerClosed := Bool.or_false _
    unfold view
    rw [same, goesOn]
    rfl
  | sendDown room =>
    have same : (link.step handler maxPayload (.sendDown room)).incoming = link.incoming :=
      sent_append _ _ _ _
    unfold view
    rw [same]
    rfl
  | readDown count =>
    have same : (link.step handler maxPayload (.readDown count)).incoming = link.incoming :=
      read_append _ _ _ _
    have goesOn : (link.step handler maxPayload (.readDown count)).client.peerClosed =
        link.client.peerClosed := Bool.or_false _
    unfold view
    rw [same, goesOn]
    rfl
  | start => cases moves
  | dispatch now => cases moves
  | poll => cases moves

end Link

end HttpEngine
