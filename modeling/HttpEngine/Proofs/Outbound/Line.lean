import HttpEngine.Proofs.Outbound.Journal
import Mathlib.Data.List.Induction

/-!
What a journal tells of one connection: which exchanges were started on it, which responses came
over it, and which of the bytes that arrived belong to no response yet. Keys are used again, so that
a line begins anew with every connection that is opened under its key.
-/

namespace HttpEngine

/-- What is known of a connection from the notes about it. -/
structure Line where
  host : String
  /-- The exchanges that were started on it, one after the other. -/
  asked : List Exchange := []
  /-- The responses that came over it, one after the other. -/
  told : List Response := []
  carried : Option Exchange := none
  /-- The bytes that arrived and are part of no response. -/
  unread : Bytes := []

namespace Line

/-- The line after an exchange was started. -/
def start (line : Line) (exchange : Exchange) : Line :=
  { line with asked := line.asked ++ [exchange], carried := some exchange }

/-- The line after bytes arrived. -/
def hear (line : Line) (bytes : Bytes) : Line := { line with unread := line.unread ++ bytes }

/-- Whether the request that is under way asked for the head alone. -/
def asksForHead (line : Line) : Bool :=
  line.carried.any fun exchange => exchange.request.method == .head

/-- What stands behind the response at the front of the unread bytes. -/
def behind (line : Line) : Bytes :=
  -- A response that only the end of the stream completes leaves nothing.
  match decodeResponse line.asksForHead false line.unread with
  | .message _ consumed => line.unread.drop consumed
  | _ => []

/-- The line after a response came. -/
def answer (line : Line) (response : Response) : Line :=
  { line with told := line.told ++ [response], carried := none, unread := line.behind }

end Line

namespace Transit

/-- What one more event tells of the connection under a key. -/
def alter (key : Nat) (line : Option Line) : Transit → Option Line
  | opened other host => if other = key then some { host } else line
  | started other exchange => if other = key then line.map (·.start exchange) else line
  | arrived other bytes => if other = key then line.map (·.hear bytes) else line
  | answered other response => if other = key then line.map (·.answer response) else line
  | closed other => if other = key then none else line
  | _ => line

/-- Whether an event begins or ends something on the connection under a key. -/
def turns (key : Nat) : Transit → Bool
  | opened other _ | started other _ | answered other _ | closed other => other == key
  | _ => false

end Transit

namespace Journal

/-- What a journal tells of the connection that is open under a key. -/
def line (journal : List Transit) (key : Nat) : Option Line :=
  journal.foldl (Transit.alter key) none

/-- A connection to a host that carries nothing. -/
def Rests (journal : List Transit) (host : String) (key : Nat) : Prop :=
  ∃ found, line journal key = some found ∧ found.host = host ∧ found.carried = none

section Append

variable {journal notes : List Transit} {key : Nat}

/-- Events that come later alter the line later. -/
theorem line_append :
    line (journal ++ notes) key = notes.foldl (Transit.alter key) (line journal key) :=
  List.foldl_append

/-- The last event is the last to alter the line. -/
theorem line_concat (note : Transit) :
    line (journal ++ [note]) key = note.alter key (line journal key) := by
  rw [line_append]
  rfl

end Append

section Alter

variable {key : Nat} {note : Transit} {known : Option Line} {found : Line}

/-- An event that is no turn leaves what is under way, and at most brings bytes. -/
theorem alter_of_not_turns (quiet : note.turns key = false) (known : Option Line) :
    note.alter key known = known.map (·.hear (note.bytesOver key)) := by
  have silent : known = known.map (·.hear []) := by cases known <;> simp [Line.hear]
  -- Only the arrival of bytes alters anything.
  cases note with
  | arrived other bytes =>
    rw [Transit.alter, Transit.bytesOver]
    split
    · rfl
    · exact silent
  | opened other host | started other exchange | answered other response | closed other =>
    -- A note about another key alters nothing, and one about this key would turn it.
    have differs : other ≠ key := by simpa [Transit.turns] using quiet
    rw [Transit.alter, if_neg differs]
    exact silent
  | _ => exact silent

/-- Events that are no turns leave what is under way, and the bytes that they bring are unread. -/
theorem line_append_quiet {journal notes : List Transit}
    (quiet : ∀ note ∈ notes, note.turns key = false) :
    line (journal ++ notes) key = (line journal key).map (·.hear (bytesOver notes key)) := by
  rw [line_append]
  generalize line journal key = known
  -- What is heard is added up, one note after the other.
  induction notes generalizing known with
  | nil => cases known <;> simp [Line.hear, bytesOver]
  | cons note notes ih =>
    rw [List.foldl_cons, ih (fun other member => quiet other (List.mem_cons_of_mem note member)),
      alter_of_not_turns (quiet note List.mem_cons_self)]
    cases known <;> simp [Line.hear, bytesOver]

/-- Of all turns only a start leaves something under way. -/
theorem started_of_turns {exchange : Exchange} (turns : note.turns key = true)
    (altered : note.alter key known = some found) (carried : found.carried = some exchange) :
    ∃ before, known = some before ∧ note = .started key exchange ∧
      found = before.start exchange := by
  -- Of the notes that turn a key, only a start leaves an exchange on the line.
  cases note with
  | started other begun =>
    have here : other = key := by simpa [Transit.turns] using turns
    rw [Transit.alter, if_pos here] at altered
    obtain ⟨before, there, rfl⟩ := Option.map_eq_some_iff.1 altered
    cases carried
    exact ⟨before, there, by rw [here], rfl⟩
  | answered other response =>
    have here : other = key := by simpa [Transit.turns] using turns
    rw [Transit.alter, if_pos here] at altered
    obtain ⟨before, _, rfl⟩ := Option.map_eq_some_iff.1 altered
    cases carried
  | opened other host =>
    have here : other = key := by simpa [Transit.turns] using turns
    rw [Transit.alter, if_pos here] at altered
    cases altered
    cases carried
  | closed other =>
    have here : other = key := by simpa [Transit.turns] using turns
    rw [Transit.alter, if_pos here] at altered
    cases altered
  | _ => cases turns

end Alter

/--
What is under way on a connection was started last, and the bytes that have arrived since stand
behind those that were unread before.
-/
theorem exists_start {journal : List Transit} {key : Nat} {found : Line} {exchange : Exchange}
    (there : line journal key = some found) (carried : found.carried = some exchange) :
    ∃ earlier before between, journal = earlier ++ .started key exchange :: between ∧
      line earlier key = some before ∧ (∀ note ∈ between, note.turns key = false) ∧
      found.unread = before.unread ++ bytesOver between key := by
  -- The induction is on the end of the journal: either the start is there, or it was before.
  induction journal using List.reverseRecOn generalizing found with
  | nil => cases there
  | append_singleton journal note ih =>
    rw [line_concat] at there
    cases turns : note.turns key with
    | true =>
      obtain ⟨before, known, rfl, rfl⟩ := started_of_turns turns there carried
      exact ⟨journal, before, [], rfl, known, fun _ member => absurd member List.not_mem_nil,
        (List.append_nil _).symm⟩
    | false =>
      -- The start is further in front, and the event may have brought bytes.
      rw [alter_of_not_turns turns] at there
      obtain ⟨last, known, rfl⟩ := Option.map_eq_some_iff.1 there
      obtain ⟨earlier, before, between, rfl, begun, quiet, unread⟩ := ih known carried
      refine ⟨earlier, before, between ++ [note], by simp, begun, ?_, ?_⟩
      · intro other member
        rcases List.mem_append.1 member with member | last
        · exact quiet other member
        · rw [List.mem_singleton.1 last]
          exact turns
      · simp [Line.hear, unread, bytesOver]

end Journal

end HttpEngine
