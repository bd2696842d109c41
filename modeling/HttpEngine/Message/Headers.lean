import HttpEngine.Text.Ascii

/-! Header lists: the fields of a message in their order, found by a name in any case. -/

namespace HttpEngine

/-- One header line: a name and its value. -/
structure Field where
  name : String
  value : String
  deriving DecidableEq, Repr, Inhabited

/-- The fields of a message, in order. A name may come up several times. -/
structure Headers where
  fields : List Field := []
  deriving DecidableEq, Repr, Inhabited

namespace Headers

/-- No fields. -/
def empty : Headers := ⟨[]⟩

/-- The value of the first field with a name. -/
def get? (headers : Headers) (name : String) : Option String :=
  (headers.fields.find? fun field => sameName field.name name).map Field.value

/-- Whether a field with a name is there. -/
def contains (headers : Headers) (name : String) : Bool :=
  (headers.get? name).isSome

/-- One more field at the end, whatever is there already. -/
def append (headers : Headers) (name value : String) : Headers :=
  ⟨headers.fields ++ [⟨name, value⟩]⟩

/-- One field at the end in the place of all fields with its name. -/
def insert (headers : Headers) (name value : String) : Headers :=
  ⟨headers.fields.filter (fun field => !sameName field.name name) ++ [⟨name, value⟩]⟩

/-- How many fields there are. -/
def size (headers : Headers) : Nat := headers.fields.length

/-- Whether there are no fields. -/
def isEmpty (headers : Headers) : Bool := headers.fields.isEmpty

/-- Whether the first `Connection` field asks for the end of the connection. -/
def wantsClose (headers : Headers) : Bool :=
  (headers.get? "connection").any fun value => sameName value "close"

/-- Whether the first `Connection` field asks for the connection to stay. -/
def wantsKeepAlive (headers : Headers) : Bool :=
  (headers.get? "connection").any fun value => sameName value "keep-alive"

/-- A field is there exactly when some field has the name. -/
theorem contains_iff {headers : Headers} {name : String} :
    headers.contains name = true ↔ ∃ field ∈ headers.fields, sameName field.name name = true := by
  simp [contains, get?]

/-- A name is looked for among the first fields, and then among the others. -/
theorem get?_append (front back : List Field) (name : String) :
    get? ⟨front ++ back⟩ name = (get? ⟨front⟩ name).or (get? ⟨back⟩ name) := by
  simp only [get?, List.find?_append, Option.map_or]

/-- Nothing is found among no fields. -/
theorem get?_nil (name : String) : get? ⟨[]⟩ name = none := rfl

/-- A field alone is found by its own name. -/
theorem get?_singleton (field : Field) (name : String) :
    get? ⟨[field]⟩ name = if sameName field.name name then some field.value else none := by
  cases same : sameName field.name name <;> simp [get?, same]

/-- A name that no field has is not found. -/
theorem get?_eq_none {fields : List Field} {name : String}
    (others : ∀ field ∈ fields, sameName field.name name = false) : get? ⟨fields⟩ name = none := by
  unfold get?
  rw [Option.map_eq_none_iff, List.find?_eq_none]
  -- Nothing is found, since every field has another name.
  intro field member
  rw [others field member]
  exact Bool.false_ne_true

/-- What is found under a name after a field was put in the place of all with its own. -/
theorem get?_insert (headers : Headers) (name value other : String) :
    (headers.insert name value).get? other =
      if sameName name other then some value else headers.get? other := by
  rw [insert, get?_append, get?_singleton]
  split
  · -- No field with the name is left in front of the inserted one.
    rename_i same
    rw [get?_eq_none, Option.none_or]
    intro field kept
    rw [← sameName_congr same]
    simpa using (List.mem_filter.1 kept).2
  · -- The fields that are taken away have another name than the one looked for.
    rename_i differs
    have kept : ∀ field : Field, sameName field.name other = true →
        sameName field.name name = false := by
      intro field same
      refine Bool.eq_false_iff.2 fun own => differs ?_
      rwa [← sameName_congr same, sameName_comm]
    rw [Option.or_none, get?, get?, List.find?_filter]
    congr 2
    funext field
    cases looked : sameName field.name other with
    | false => simp
    | true => simp [kept field looked]

end Headers

end HttpEngine
