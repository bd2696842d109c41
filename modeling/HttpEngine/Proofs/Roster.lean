import HttpEngine.Roster

/-! Rosters as collections: what is in them, and how many values have a property. -/

namespace HttpEngine

namespace Roster

variable {α : Type}

/-- The entries are the values under their keys. -/
theorem mem_entries {roster : Roster α} {key : Nat} {value : α} :
    (key, value) ∈ roster.entries ↔ roster.get? key = some value := by
  -- Every place stands beside its own number.
  rw [get?_eq_some_iff, entries, List.mem_filterMap]
  constructor
  · -- Only a place that is filled gives an entry.
    rintro ⟨⟨place, other⟩, member, filled⟩
    rw [List.mk_mem_zipIdx_iff_getElem?] at member
    cases place with
    | none => cases filled
    | some held =>
      cases filled
      exact member
  · intro placed
    exact ⟨(some value, key), List.mk_mem_zipIdx_iff_getElem?.2 placed, rfl⟩

/-- No key has two entries. -/
theorem keys_distinct (roster : Roster α) :
    roster.entries.Pairwise fun entry other => entry.1 ≠ other.1 := by
  -- The places are numbered one after the other.
  have numbered : roster.places.zipIdx.Pairwise fun place other => place.2 ≠ other.2 := by
    rw [← List.pairwise_map, List.zipIdx_map_snd]
    exact List.nodup_range'
  refine numbered.filterMap _ fun place other differs entry found last there => ?_
  obtain ⟨value, _, rfl⟩ := Option.map_eq_some_iff.1 found
  obtain ⟨second, _, rfl⟩ := Option.map_eq_some_iff.1 there
  exact differs

/-- How many values have a property. -/
def count (roster : Roster α) (property : α → Bool) : Nat :=
  roster.entries.countP fun (_, value) => property value

/-- The values that have a property are in places of their own. -/
theorem count_eq_places (roster : Roster α) (property : α → Bool) :
    roster.count property = roster.places.countP (·.any property) := by
  -- The numbers beside the places do not matter.
  have firsts : roster.places.zipIdx.map Prod.fst = roster.places := by
    rw [List.zipIdx_map_fst]
  conv => rhs; rw [← firsts]
  rw [count, entries, List.countP_filterMap, List.countP_map]
  refine List.countP_congr fun entry _ => ?_
  obtain ⟨place, key⟩ := entry
  cases place <;> rfl

/-- Nothing is under any key of an empty roster. -/
@[simp] theorem get?_empty (key : Nat) : (empty : Roster α).get? key = none := rfl

/-- A value that has the property counts. -/
theorem count_pos {roster : Roster α} {key : Nat} {value : α} {property : α → Bool}
    (present : roster.get? key = some value) (holds : property value = true) :
    0 < roster.count property :=
  List.countP_pos_iff.2 ⟨(key, value), mem_entries.2 present, holds⟩

/-- The count after a place was filled anew: the old value goes, and the new one comes. -/
theorem countP_set_place {places : List (Option α)} {key : Nat} {old : Option α}
    (placed : places[key]? = some old) (new : Option α) (property : α → Bool) :
    (places.set key new).countP (·.any property) + (old.any property).toNat =
      places.countP (·.any property) + (new.any property).toNat := by
  -- The old value is taken off the count before the new one is added to it.
  obtain ⟨inside, here⟩ := List.getElem?_eq_some_iff.1 placed
  have toNat_eq : ∀ counts : Bool, (if counts = true then 1 else 0) = counts.toNat := by decide
  have counted : (places.set key new).countP (·.any property) =
      places.countP (·.any property) - (old.any property).toNat + (new.any property).toNat := by
    rw [List.countP_set inside, here, toNat_eq, toNat_eq]
  -- It was counted, so that there is something to take off.
  have least : (old.any property).toNat ≤ places.countP (·.any property) := by
    rw [← here, ← toNat_eq]
    exact List.boole_getElem_le_countP inside
  omega

/-- The count after another value was set. -/
theorem count_set {roster : Roster α} {key : Nat} {old : α} (present : roster.get? key = some old)
    (value : α) (property : α → Bool) :
    (roster.set key value).count property + (property old).toNat =
      roster.count property + (property value).toNat := by
  rw [count_eq_places, count_eq_places, places_set present]
  exact countP_set_place (get?_eq_some_iff.1 present) (some value) property

/-- The count after a value was erased. -/
theorem count_erase {roster : Roster α} {key : Nat} {old : α}
    (present : roster.get? key = some old) (property : α → Bool) :
    (roster.erase key).count property + (property old).toNat = roster.count property := by
  -- The place is left without a value, which has no property.
  rw [count_eq_places, count_eq_places, places_erase present]
  exact countP_set_place (get?_eq_some_iff.1 present) none property

/-- The count after one more value came. -/
theorem count_insert (roster : Roster α) (value : α) (property : α → Bool) :
    (roster.insert value).count property = roster.count property + (property value).toNat := by
  rw [count_eq_places, count_eq_places, insert]
  split
  · -- The last place that became vacant is filled again.
    rename_i key rest queued
    have vacant := roster.vacant_empty key (by rw [queued]; exact List.mem_cons_self)
    exact countP_set_place vacant (some value) property
  · -- No place is vacant, and one more is added behind the others.
    dsimp only
    rw [List.countP_append, List.countP_singleton]
    cases holds : property value <;> simp [holds]

/-- The value that came last may be changed at once. -/
theorem set_insert (roster : Roster α) (value last : α) :
    (roster.insert value).set roster.nextKey last = roster.insert last := by
  have present : (roster.insert value).get? roster.nextKey = some value := by
    rw [get?_insert, if_pos rfl]
  apply Roster.ext
  · -- The place is the same one, whether it was vacant before or is new.
    rw [places_set present]
    unfold insert
    split
    · rename_i key rest queued
      have next : roster.nextKey = key := by
        rw [nextKey, queued]
        rfl
      rw [next]
      exact List.set_set ..
    · rename_i queued
      have next : roster.nextKey = roster.places.length := by
        rw [nextKey, queued]
        rfl
      rw [next]
      simp
  · -- Setting a value makes no place vacant.
    rw [vacant_set]
    unfold insert
    split <;> rfl

/-- The value under a new key, and all others as before. -/
theorem get?_insert_cases {roster : Roster α} {value found : α} {key : Nat}
    (there : (roster.insert value).get? key = some found) :
    roster.nextKey = key ∧ found = value ∨ roster.get? key = some found := by
  rw [get?_insert] at there
  split at there
  · rename_i here
    cases there
    exact .inl ⟨here, rfl⟩
  · exact .inr there

/-- The value that was set, and all others as before. -/
theorem get?_set_cases {roster : Roster α} {old value found : α} {key other : Nat}
    (present : roster.get? key = some old)
    (there : (roster.set key value).get? other = some found) :
    key = other ∧ found = value ∨ key ≠ other ∧ roster.get? other = some found := by
  rw [get?_set present] at there
  split at there
  · rename_i here
    cases there
    exact .inl ⟨here, rfl⟩
  · rename_i differs
    exact .inr ⟨differs, there⟩

/-- What is left after a value was erased was there before. -/
theorem get?_erase_cases {roster : Roster α} {found : α} {key other : Nat}
    (there : (roster.erase key).get? other = some found) :
    key ≠ other ∧ roster.get? other = some found := by
  rw [get?_erase] at there
  split at there
  · cases there
  · rename_i differs
    exact ⟨differs, there⟩

end Roster

end HttpEngine
