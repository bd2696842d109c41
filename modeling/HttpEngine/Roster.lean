/-!
Rosters: values under small numbers that stay the same while the value is there. The number that was
given up last is the first to be given out again.
-/

namespace HttpEngine

/-- Values in places, some of which are empty, and the empty places to fill first. -/
@[ext] structure Roster (α : Type) where
  places : List (Option α) := []
  vacant : List Nat := []
  /-- No place is to be filled twice. -/
  vacant_nodup : vacant.Nodup := by exact List.nodup_nil
  /-- A place that is to be filled is there, and is empty. -/
  vacant_empty : ∀ key ∈ vacant, places[key]? = some none := by
    exact fun _ member => absurd member List.not_mem_nil

namespace Roster

variable {α : Type}

/-- A roster without values. -/
def empty : Roster α := {}

/-- The value under a key. -/
def get? (roster : Roster α) (key : Nat) : Option α :=
  roster.places[key]?.join

/-- A value stands in the place of its key. -/
theorem get?_eq_some_iff {roster : Roster α} {key : Nat} {value : α} :
    roster.get? key = some value ↔ roster.places[key]? = some (some value) := by
  rw [get?, Option.join_eq_some_iff]

/-- A key in use is not vacant. -/
theorem not_vacant {roster : Roster α} {key : Nat} {value : α}
    (present : roster.get? key = some value) : key ∉ roster.vacant := by
  -- A vacant place is empty.
  intro vacant
  have filled := get?_eq_some_iff.1 present
  rw [roster.vacant_empty key vacant] at filled
  cases filled

/-- The key that the next value gets. -/
def nextKey (roster : Roster α) : Nat :=
  roster.vacant.headD roster.places.length

/-- One more value, under the next key. -/
def insert (roster : Roster α) (value : α) : Roster α :=
  match queued : roster.vacant with
  | key :: rest =>
    { places := roster.places.set key (some value)
      vacant := rest
      vacant_nodup := by
        have nodup := roster.vacant_nodup
        rw [queued] at nodup
        exact (List.nodup_cons.1 nodup).2
      vacant_empty := by
        -- The place that is filled is no longer to be filled.
        intro other member
        have nodup := roster.vacant_nodup
        rw [queued] at nodup
        have differs : key ≠ other := by
          rintro rfl
          exact (List.nodup_cons.1 nodup).1 member
        rw [List.getElem?_set_ne differs]
        exact roster.vacant_empty other (by rw [queued]; exact List.mem_cons_of_mem key member) }
  | [] => { places := roster.places ++ [some value] }

/-- Another value under a key that is in use. -/
def set (roster : Roster α) (key : Nat) (value : α) : Roster α :=
  match present : roster.get? key with
  | some _ =>
    { places := roster.places.set key (some value)
      vacant := roster.vacant
      vacant_nodup := roster.vacant_nodup
      vacant_empty := by
        -- The key is in use, so that its place is not one of the vacant ones.
        intro other member
        have differs : key ≠ other := by
          rintro rfl
          exact not_vacant present member
        rw [List.getElem?_set_ne differs]
        exact roster.vacant_empty other member }
  | none => roster

/-- The roster without the value under a key. -/
def erase (roster : Roster α) (key : Nat) : Roster α :=
  match present : roster.get? key with
  | some _ =>
    { places := roster.places.set key none
      vacant := key :: roster.vacant
      vacant_nodup := List.nodup_cons.2 ⟨not_vacant present, roster.vacant_nodup⟩
      vacant_empty := by
        -- The place that is emptied joins those that were empty before.
        intro other member
        have inside : key < roster.places.length :=
          (List.getElem?_eq_some_iff.1 (get?_eq_some_iff.1 present)).1
        by_cases same : key = other
        · subst same
          rw [List.getElem?_set_self inside]
        · rw [List.getElem?_set_ne same]
          exact roster.vacant_empty other (List.mem_of_ne_of_mem (Ne.symm same) member) }
  | none => roster

/-- The values with their keys, in the order of the keys. -/
def entries (roster : Roster α) : List (Nat × α) :=
  roster.places.zipIdx.filterMap fun (place, key) => place.map fun value => (key, value)

/-- How many values there are. -/
def size (roster : Roster α) : Nat := roster.entries.length

/-- The places of a roster in which a value is set. -/
theorem places_set {roster : Roster α} {key : Nat} {old : α}
    (present : roster.get? key = some old) (value : α) :
    (roster.set key value).places = roster.places.set key (some value) := by
  -- The other case is for keys that are not in use.
  unfold set
  split
  · rfl
  · rename_i absent
    rw [present] at absent
    cases absent

/-- The places of a roster from which a value is erased. -/
theorem places_erase {roster : Roster α} {key : Nat} {old : α}
    (present : roster.get? key = some old) :
    (roster.erase key).places = roster.places.set key none := by
  unfold erase
  split
  · rfl
  · rename_i absent
    rw [present] at absent
    cases absent

/-- What is under a key after another value was set under some key in use. -/
theorem get?_set {roster : Roster α} {key : Nat} {old : α} (present : roster.get? key = some old)
    (value : α) (other : Nat) :
    (roster.set key value).get? other = if key = other then some value else roster.get? other := by
  -- A key in use has a place, and only that place takes the value.
  have inside : key < roster.places.length :=
    (List.getElem?_eq_some_iff.1 (get?_eq_some_iff.1 present)).1
  unfold get?
  rw [places_set present]
  by_cases same : key = other
  · subst same
    rw [List.getElem?_set_self inside, if_pos rfl]
    rfl
  · rw [List.getElem?_set_ne same, if_neg same]

/-- A value that was set is there, if the key was in use. -/
theorem get?_set_self {roster : Roster α} {key : Nat} {old : α}
    (present : roster.get? key = some old)
    (value : α) : (roster.set key value).get? key = some value := by
  rw [get?_set present, if_pos rfl]

/-- The vacant places of a roster in which a value is set. -/
@[simp] theorem vacant_set (roster : Roster α) (key : Nat) (value : α) :
    (roster.set key value).vacant = roster.vacant := by
  -- Whether the key is in use or not, no place becomes vacant.
  unfold set
  split <;> rfl

/-- The value that was set last counts. -/
theorem set_set {roster : Roster α} {key : Nat} {old : α} (present : roster.get? key = some old)
    (value last : α) : (roster.set key value).set key last = roster.set key last := by
  -- Both rosters have the same places and the same vacant ones.
  apply Roster.ext
  · rw [places_set (get?_set_self present value), places_set present, List.set_set,
      places_set present]
  · rw [vacant_set, vacant_set, vacant_set]

/-- The vacant places of a roster from which a value is erased. -/
theorem vacant_erase {roster : Roster α} {key : Nat} {old : α}
    (present : roster.get? key = some old) :
    (roster.erase key).vacant = key :: roster.vacant := by
  unfold erase
  split
  · rfl
  · rename_i absent
    rw [present] at absent
    cases absent

/-- It does not matter what was set under a key that is erased. -/
theorem erase_set {roster : Roster α} {key : Nat} {old : α} (present : roster.get? key = some old)
    (value : α) : (roster.set key value).erase key = roster.erase key := by
  -- The place is emptied either way, and becomes the first to be filled.
  have there := get?_set_self present value
  apply Roster.ext
  · rw [places_erase there, places_set present, List.set_set, places_erase present]
  · rw [vacant_erase there, vacant_set, vacant_erase present]

/-- What is under a key after the value of some key was erased. -/
theorem get?_erase (roster : Roster α) (key other : Nat) :
    (roster.erase key).get? other = if key = other then none else roster.get? other := by
  -- The place of the key is emptied, and an unused key has nothing in its place.
  cases present : roster.get? key with
  | none =>
    have same : roster.erase key = roster := by
      unfold erase
      split
      · rename_i found
        rw [present] at found
        cases found
      · rfl
    rw [same]
    split
    · -- Nothing was under the key before either.
      rename_i here
      subst here
      exact present
    · rfl
  | some old =>
    have inside : key < roster.places.length :=
      (List.getElem?_eq_some_iff.1 (get?_eq_some_iff.1 present)).1
    unfold get?
    rw [places_erase present]
    by_cases same : key = other
    · subst same
      rw [List.getElem?_set_self inside, if_pos rfl]
      rfl
    · rw [List.getElem?_set_ne same, if_neg same]

/-- What was erased is no longer there. -/
theorem get?_erase_self (roster : Roster α) (key : Nat) : (roster.erase key).get? key = none := by
  rw [get?_erase, if_pos rfl]

/-- The next key is not in use. -/
theorem get?_nextKey (roster : Roster α) : roster.get? roster.nextKey = none := by
  -- It is a vacant place, or lies behind all places.
  unfold nextKey
  cases queued : roster.vacant with
  | nil =>
    rw [get?, List.headD_nil, List.getElem?_eq_none (Nat.le_refl _)]
    rfl
  | cons key rest =>
    rw [get?, List.headD_cons, roster.vacant_empty key (by rw [queued]; exact List.mem_cons_self)]
    rfl

/-- What is under a key after one more value came. -/
theorem get?_insert (roster : Roster α) (value : α) (other : Nat) :
    (roster.insert value).get? other =
      if roster.nextKey = other then some value else roster.get? other := by
  unfold insert get?
  split
  · rename_i key rest queued
    -- A vacant place is filled, and no other changes.
    have next : roster.nextKey = key := by
      rw [nextKey, queued]
      rfl
    have inside : key < roster.places.length := by
      have empty := roster.vacant_empty key (by rw [queued]; exact List.mem_cons_self)
      exact (List.getElem?_eq_some_iff.1 empty).1
    rw [next]
    by_cases same : key = other
    · subst same
      rw [List.getElem?_set_self inside, if_pos rfl]
      rfl
    · rw [List.getElem?_set_ne same, if_neg same]
  · rename_i queued
    -- A new place comes behind all the others.
    have next : roster.nextKey = roster.places.length := by
      rw [nextKey, queued]
      rfl
    rw [next]
    by_cases same : roster.places.length = other
    · subst same
      rw [List.getElem?_concat_length, if_pos rfl]
      rfl
    · rw [if_neg same]
      rcases Nat.lt_or_gt_of_ne same with above | below
      · rw [List.getElem?_eq_none (by rw [List.length_append, List.length_singleton]; omega),
          List.getElem?_eq_none (by omega)]
      · rw [List.getElem?_append_left below]

end Roster

end HttpEngine
