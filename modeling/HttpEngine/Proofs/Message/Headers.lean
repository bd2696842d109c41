import HttpEngine.Message.Headers

/-!
Header lists as they are built up. A field is put behind the others, or it takes the place of all
that have its name, in any case. Which fields stay, and which value is found under a name, is read
off the changes alone, without the lists in between.
-/

namespace HttpEngine

namespace Headers

/-- One change of a header list. -/
inductive Change where
  /-- A field behind whatever is there. -/
  | append (name value : String)
  /-- A field behind all that have other names. -/
  | insert (name value : String)
  deriving DecidableEq, Repr

namespace Change

/-- The field that comes with a change, as it is spelled there. -/
def field : Change → Field
  | append name value => ⟨name, value⟩
  | insert name value => ⟨name, value⟩

/-- Whether a change inserts a field with a name. -/
def inserts (change : Change) (name : String) : Bool :=
  match change with
  | append .. => false
  | insert own _ => sameName own name

/-- Whether a change appends a field with a name. -/
def appends (change : Change) (name : String) : Bool :=
  match change with
  | append own _ => sameName own name
  | insert .. => false

/-- Whether the field of a change has a name. -/
def names (change : Change) (name : String) : Bool := sameName change.field.name name

/-- A field is appended or inserted under its name. -/
theorem names_eq (change : Change) (name : String) :
    change.names name = (change.inserts name || change.appends name) := by
  cases change with
  | append own value => exact (Bool.false_or _).symm
  | insert own value => exact (Bool.or_false _).symm

end Change

/-- A header list after one change. -/
def apply (headers : Headers) : Change → Headers
  | .append name value => headers.append name value
  | .insert name value => headers.insert name value

/-- A header list after some changes, one behind the other. -/
def applyAll (headers : Headers) (changes : List Change) : Headers :=
  changes.foldl apply headers

/-- The fields of those changes after which no field with the same name is inserted. -/
def lasting : List Change → List Field
  | [] => []
  | change :: later =>
    if later.any (·.inserts change.field.name) then lasting later
    else change.field :: lasting later

/-- The value that was inserted last under a name. -/
def lastInserted? (changes : List Change) (name : String) : Option String :=
  (changes.reverse.find? (·.inserts name)).map (·.field.value)

/-- The value that was appended first under a name. -/
def firstAppended? (changes : List Change) (name : String) : Option String :=
  (changes.find? (·.appends name)).map (·.field.value)

/-- The first change is done before the others. -/
@[simp] theorem applyAll_cons (headers : Headers) (change : Change) (later : List Change) :
    headers.applyAll (change :: later) = (headers.apply change).applyAll later := rfl

/-- Changes can be done in two parts. -/
theorem applyAll_append (headers : Headers) (before after : List Change) :
    headers.applyAll (before ++ after) = (headers.applyAll before).applyAll after :=
  List.foldl_append

/-- A change takes away the fields with its name if it inserts one, and puts its own at the end. -/
theorem fields_apply (headers : Headers) (change : Change) :
    (headers.apply change).fields =
      headers.fields.filter (fun field => !change.inserts field.name) ++ [change.field] := by
  cases change with
  | append name value =>
    have all : headers.fields.filter (fun _ => !false) = headers.fields :=
      List.filter_eq_self.2 fun _ _ => rfl
    exact congrArg (· ++ [⟨name, value⟩]) all.symm
  | insert name value =>
    simp only [apply, insert, Change.inserts, Change.field, sameName_comm name]

/-- A change is found under its name: at once if it inserts, and behind all others if it appends. -/
theorem get?_apply (headers : Headers) (change : Change) (name : String) :
    (headers.apply change).get? name =
      if change.inserts name then some change.field.value
      else (headers.get? name).or
        (if change.appends name then some change.field.value else none) := by
  cases change with
  | append own value => exact (get?_append ..).trans (congrArg _ (get?_singleton ..))
  | insert own value =>
    rw [apply, get?_insert]
    simp [Change.inserts, Change.appends, Change.field]

/-- What is there stays unless a change takes it away, and in front of what the changes leave. -/
theorem fields_applyAll (headers : Headers) (changes : List Change) :
    (headers.applyAll changes).fields =
      headers.fields.filter (fun field => !changes.any (·.inserts field.name)) ++
        lasting changes := by
  induction changes generalizing headers with
  | nil => simp [applyAll, lasting, List.filter_eq_self.2]
  | cons change later ih =>
    rw [applyAll_cons, ih, fields_apply, List.filter_append, List.filter_filter, List.append_assoc]
    -- An old field has to outlast the first change and the others.
    congr 1
    · refine List.filter_congr fun field _ => ?_
      rw [List.any_cons, Bool.not_or, Bool.and_comm]
    · -- The field of the first change has to outlast the others.
      rw [lasting]
      cases gone : later.any (·.inserts change.field.name) <;> simp [gone]

/-- The last insertion comes with the first change only if there is none among the others. -/
theorem lastInserted?_cons (change : Change) (later : List Change) (name : String) :
    lastInserted? (change :: later) name =
      (lastInserted? later name).or
        (if change.inserts name then some change.field.value else none) := by
  rw [lastInserted?, lastInserted?, List.reverse_cons, List.find?_append, Option.map_or]
  cases inserted : change.inserts name <;> simp [inserted]

/-- The first appended value is that of the first change, if it appends one. -/
theorem firstAppended?_cons (change : Change) (later : List Change) (name : String) :
    firstAppended? (change :: later) name =
      if change.appends name then some change.field.value else firstAppended? later name := by
  cases appended : change.appends name <;> simp [firstAppended?, appended]

/--
Under a name stands what was inserted last, or else what stood there before, or else what was
appended first.
-/
theorem get?_applyAll (headers : Headers) (changes : List Change) (name : String) :
    (headers.applyAll changes).get? name =
      (lastInserted? changes name).or ((headers.get? name).or (firstAppended? changes name)) := by
  induction changes generalizing headers with
  | nil => simp [applyAll, lastInserted?, firstAppended?]
  | cons change later ih =>
    rw [applyAll_cons, ih, get?_apply, lastInserted?_cons, firstAppended?_cons]
    -- An insertion hides what stood there before, and an appended field stands behind it.
    cases inserted : change.inserts name with
    | true => simp
    | false => cases appended : change.appends name <;> simp

/-- No change takes a name away: it is there if it was there before, or came with a change. -/
theorem contains_applyAll (headers : Headers) (changes : List Change) (name : String) :
    (headers.applyAll changes).contains name =
      (headers.contains name || changes.any (·.names name)) := by
  induction changes generalizing headers with
  | nil => exact (Bool.or_false _).symm
  | cons change later ih =>
    have step : (headers.apply change).contains name =
        (headers.contains name || change.names name) := by
      rw [contains, get?_apply, Change.names_eq, contains]
      cases inserted : change.inserts name with
      | true => simp
      | false => cases appended : change.appends name <;> simp
    rw [applyAll_cons, ih, step, List.any_cons, Bool.or_assoc]

/-- Changes of other names do not change what is found under a name. -/
theorem get?_applyAll_of_others {headers : Headers} {changes : List Change} {name : String}
    (others : ∀ change ∈ changes, change.names name = false) :
    (headers.applyAll changes).get? name = headers.get? name := by
  have apart : ∀ change ∈ changes, change.inserts name = false ∧ change.appends name = false := by
    intro change member
    simpa [Change.names_eq] using others change member
  have inserted : lastInserted? changes name = none := by
    rw [lastInserted?, Option.map_eq_none_iff, List.find?_eq_none]
    intro change member
    simp [(apart change (List.mem_reverse.1 member)).1]
  have appended : firstAppended? changes name = none := by
    rw [firstAppended?, Option.map_eq_none_iff, List.find?_eq_none]
    intro change member
    simp [(apart change member).2]
  rw [get?_applyAll, inserted, appended, Option.none_or, Option.or_none]

/--
What is found in a header list, and what is kept of its changes.

Under a name is found the value that was inserted last under it, in any case; if there is none, the
value that was appended first; and if there is none either, nothing, so that a name is there exactly
if a change came with it. The fields are those of the changes after which no field with the same
name was inserted, in the order of the changes and as they are spelled there. Changes of other names
could as well be left out, wherever they come, for what is found under a name.
-/
theorem found_and_kept (changes : List Change) (name : String) :
    (empty.applyAll changes).get? name =
      (lastInserted? changes name).or (firstAppended? changes name) ∧
    ((empty.applyAll changes).contains name = true ↔
      ∃ change ∈ changes, change.names name = true) ∧
    (empty.applyAll changes).fields = lasting changes ∧
    ∀ others, (∀ change ∈ others, change.names name = false) → ∀ after,
      (empty.applyAll (changes ++ others ++ after)).get? name =
        (empty.applyAll (changes ++ after)).get? name := by
  refine ⟨get?_applyAll empty changes name, ?_, fields_applyAll empty changes, ?_⟩
  · -- Nothing is there before the first change.
    have before : empty.contains name = false := rfl
    rw [contains_applyAll, before, Bool.false_or, List.any_eq_true]
  · intro others apart after
    -- What comes after sees of the list before it only what is found there under the name.
    have same : (empty.applyAll (changes ++ others)).get? name =
        (empty.applyAll changes).get? name := by
      rw [applyAll_append]
      exact get?_applyAll_of_others apart
    rw [applyAll_append, get?_applyAll, same, ← get?_applyAll, ← applyAll_append]

/--
A name that is appended twice, inserted in other letters and appended again has the inserted value,
also with changes of another name in between, and the fields in front of the insertion are gone.
-/
theorem found_and_kept_replaced :
    let changes : List Change :=
      [.append "X-Trace" "a", .insert "Accept" "*/*", .append "x-trace" "b", .insert "X-TRACE" "c"]
    let others : List Change := [.append "accept" "text/plain", .insert "ACCEPT" "text/html"]
    (∀ change ∈ others, change.names "x-trace" = false) ∧
    (empty.applyAll (changes ++ others ++ [.append "X-Trace" "d"])).get? "x-trace" = some "c" ∧
    (empty.applyAll changes).fields = [⟨"Accept", "*/*"⟩, ⟨"X-TRACE", "c"⟩] ∧
    (empty.applyAll changes).get? "accept" = some "*/*" := by
  intro changes others
  have apart : ∀ change ∈ others, change.names "x-trace" = false := by decide
  obtain ⟨-, -, fields, kept⟩ := found_and_kept changes "x-trace"
  refine ⟨apart, ?_, fields.trans (by decide), ?_⟩
  · rw [kept others apart, (found_and_kept _ _).1]
    decide
  · exact (found_and_kept changes "accept").1.trans (by decide)

end Headers

end HttpEngine
