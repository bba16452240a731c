import ScopedGrants.SortedMap

/-!
Looking entries up in sorted maps. An entry is in a map exactly if it is what the map has under its
key, so that maps are equal that have the same under every key, and storing one changes what is
found under that key and nothing else.
-/

namespace ScopedGrants.SortedMap

variable {κ α : Type} [Ord κ] [Std.LawfulEqOrd κ]

theorem find?_place [DecidableEq κ] (key other : κ) (value : α) (entries : List (κ × α)) :
    (place key value entries).find? (fun entry => compare entry.1 other == .eq) =
      if key = other then some (key, value)
      else entries.find? fun entry => compare entry.1 other == .eq := by
  induction entries with
  | nil => by_cases same : key = other <;> simp [place, same]
  | cons first rest ih =>
    unfold place
    split
    case h_1 => by_cases same : key = other <;> simp [same, List.find?_cons]
    case h_2 order =>
      obtain rfl := Std.compare_eq_iff_eq.mp order
      by_cases same : first.1 = other <;> simp [same]
    case h_3 order =>
      have different : first.1 ≠ key := fun same => by simp [same] at order
      by_cases same : first.1 = other
      · have missed : key ≠ other := fun found => different (same.trans found.symm)
        simp [same, missed]
      · simp [same, ih]

theorem get?_insert [Std.TransOrd κ] [DecidableEq κ] (map : SortedMap κ α) (key other : κ)
    (value : α) :
    (map.insert key value).get? other = if key = other then some value else map.get? other := by
  rw [get?, insert, find?_place]
  split <;> rfl

/-- Keys do not repeat, so an entry is what is found under its key. -/
theorem mem_entries {map : SortedMap κ α} {entry : κ × α} :
    entry ∈ map.entries ↔ map.get? entry.1 = some entry.2 := by
  obtain ⟨entries, sorted⟩ := map
  induction entries with
  | nil => simp [get?]
  | cons first rest ih =>
    obtain ⟨below, sorted⟩ := List.pairwise_cons.mp sorted
    have later := ih sorted
    by_cases same : first.1 = entry.1
    · have absent : entry ∉ rest := fun member => by
        have order := below entry member
        simp [same] at order
      simp only [List.mem_cons, absent, or_false, get?, List.find?_cons, same, Std.compare_self]
      constructor
      · rintro rfl
        rfl
      · intro found
        exact Prod.ext same.symm (Option.some.inj found).symm
    · have different : entry ≠ first := fun equal => same (equal ▸ rfl)
      simpa [different, get?, same] using later

theorem ext_get? [Std.TransOrd κ] {map other : SortedMap κ α}
    (same : ∀ key, map.get? key = other.get? key) : map = other := by
  have distinct : ∀ map : SortedMap κ α, map.entries.Nodup := by
    intro map
    refine map.sorted.imp fun below equal => ?_
    rw [equal, Std.compare_self] at below
    cases below
  have members : ∀ entry, entry ∈ map.entries ↔ entry ∈ other.entries := by
    intro entry
    rw [mem_entries, mem_entries, same]
  have perm := (List.perm_ext_iff_of_nodup (distinct map) (distinct other)).mpr members
  refine SortedMap.ext (perm.eq_of_pairwise ?_ map.sorted other.sorted)
  intro a b _ _ below above
  exact absurd above (Std.OrientedCmp.not_lt_of_lt below)

/-! ### Storing many entries -/

variable [Std.TransOrd κ] [DecidableEq κ]

theorem get?_insertMany (map : SortedMap κ α) (entries : List (κ × α)) (key : κ) :
    (map.insertMany entries).get? key =
      ((entries.reverse.find? (·.1 = key)).map (·.2)).or (map.get? key) := by
  induction entries generalizing map with
  | nil => rfl
  | cons entry rest ih =>
    rw [insertMany, List.foldl_cons]
    refine (ih (map.insert entry.1 entry.2)).trans ?_
    rw [get?_insert, List.reverse_cons, List.find?_append]
    by_cases same : entry.1 = key
    · cases rest.reverse.find? (·.1 = key) <;> simp [same]
    · simp [same]

theorem get?_ofList (entries : List (κ × α)) (key : κ) :
    (ofList entries).get? key = (entries.reverse.find? (·.1 = key)).map (·.2) := by
  rw [ofList, get?_insertMany]
  exact Option.or_none

theorem get?_merge (map above : SortedMap κ α) (key : κ) :
    (map.insertMany above.entries).get? key = (above.get? key).or (map.get? key) := by
  rw [get?_insertMany]
  congr 1
  cases search : above.entries.reverse.find? (·.1 = key) with
  | none =>
    refine (Option.eq_none_iff_forall_not_mem.mpr fun value found => ?_).symm
    have member : (key, value) ∈ above.entries := mem_entries.mpr found
    have missed := List.find?_eq_none.mp search (key, value) (List.mem_reverse.mpr member)
    simp at missed
  | some entry =>
    have member := List.mem_reverse.mp (List.mem_of_find?_eq_some search)
    have named : entry.1 = key := by simpa using List.find?_some search
    exact (named ▸ mem_entries.mp member).symm

end ScopedGrants.SortedMap
