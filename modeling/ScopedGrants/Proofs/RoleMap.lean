import Mathlib.Data.List.Nodup
import Mathlib.Data.Set.Defs
import ScopedGrants.Proofs.SortedMap
import ScopedGrants.RoleMap

/-!
What maps of roles hold. Of the roles stored for one principal the last stays, so that entries for
different principals are all kept.
-/

namespace ScopedGrants.RoleMap

theorem mem_entries {map : RoleMap} {entry : String × Role} :
    entry ∈ map.entries ↔ map.get? entry.1 = some entry.2 := SortedMap.mem_entries

theorem get?_eq_some {map : RoleMap} {principal : String} {role : Role} :
    map.get? principal = some role ↔ (principal, role) ∈ map.entries :=
  (SortedMap.mem_entries : (principal, role) ∈ map.roles.entries ↔ _).symm

theorem get?_nobody (map : RoleMap) : map.get? "" = none := by
  cases found : map.get? "" with
  | none => rfl
  | some role => exact absurd rfl (map.named ("", role) (mem_entries.mpr found))

theorem ext_get? {map other : RoleMap}
    (same : ∀ principal, map.get? principal = other.get? principal) : map = other :=
  RoleMap.ext (SortedMap.ext_get? same)

theorem get?_insert (map : RoleMap) {principal : String} (other : String) (role : Role)
    (named : principal ≠ "") :
    (map.insert principal role).get? other =
      if principal = other then some role else map.get? other := by
  rw [insert, dif_neg named]
  exact SortedMap.get?_insert map.roles principal other role

theorem get?_foldl_insert (entries : List (String × Role)) (map : RoleMap) {principal : String}
    (named : principal ≠ "") :
    (entries.foldl (fun map entry => map.insert entry.1 entry.2) map).get? principal =
      ((entries.reverse.find? (·.1 = principal)).map (·.2)).or (map.get? principal) := by
  induction entries generalizing map with
  | nil => rfl
  | cons entry rest ih =>
    rw [List.foldl_cons, ih, List.reverse_cons, List.find?_append]
    by_cases same : entry.1 = principal
    · subst same
      rw [get?_insert _ _ _ named]
      cases rest.reverse.find? (·.1 = entry.1) <;> simp
    · by_cases nobody : entry.1 = ""
      · simp [insert, nobody, Ne.symm named]
      · simp [get?_insert _ _ _ nobody, same]

theorem get?_ofList (entries : List (String × Role)) {principal : String}
    (named : principal ≠ "") :
    (ofList entries).get? principal =
      (entries.reverse.find? (·.1 = principal)).map (·.2) := by
  rw [ofList, get?_foldl_insert entries empty named]
  exact Option.or_none

theorem mem_ofList {entries : List (String × Role)} {entry : String × Role}
    (distinct : (entries.map (·.1)).Nodup) :
    entry ∈ (ofList entries).entries ↔ entry.1 ≠ "" ∧ entry ∈ entries := by
  rw [mem_entries]
  by_cases nobody : entry.1 = ""
  · simp [nobody, get?_nobody]
  · rw [get?_ofList entries nobody, Option.map_eq_some_iff]
    constructor
    · rintro ⟨found, search, role⟩
      have member := List.mem_of_find?_eq_some search
      have named := List.find?_some search
      have same : found = entry := Prod.ext (by simpa using named) role
      exact ⟨nobody, List.mem_reverse.mp (same ▸ member)⟩
    · rintro ⟨-, member⟩
      cases search : entries.reverse.find? (·.1 = entry.1) with
      | none =>
        have missed := List.find?_eq_none.mp search entry (List.mem_reverse.mpr member)
        simp at missed
      | some found =>
        have present := List.mem_reverse.mp (List.mem_of_find?_eq_some search)
        have named := List.find?_some search
        exact ⟨found, rfl, congrArg Prod.snd
          (List.inj_on_of_nodup_map distinct present member (by simpa using named))⟩

/-- Where no principal comes up twice, the order in which the roles are stored does not matter. -/
theorem ofList_perm {entries others : List (String × Role)} (distinct : (entries.map (·.1)).Nodup)
    (perm : others.Perm entries) : ofList others = ofList entries := by
  have apart : (others.map (·.1)).Nodup := (perm.map (·.1)).nodup_iff.mpr distinct
  apply ext_get?
  intro principal
  apply Option.ext
  intro role
  rw [get?_eq_some, get?_eq_some, mem_ofList apart, mem_ofList distinct, perm.mem_iff]

/-! ### Everybody who is the principal but for case -/

def naming (map : RoleMap) (principal : String) : Set (String × Role) :=
  {entry | entry ∈ map.entries ∧ Principal.Same entry.1 principal}

theorem mem_matching {map : RoleMap} {principal : String} {role : Role} :
    role ∈ map.matching principal ↔ ∃ entry ∈ map.naming principal, entry.2 = role := by
  rw [matching, List.mem_map]
  refine exists_congr fun entry => and_congr_left fun _ => ?_
  rw [List.mem_filter, decide_eq_true_eq]
  rfl

theorem naming_insert {principal other : String} (map : RoleMap) (role : Role)
    (apart : ¬ Principal.Same principal other) :
    (map.insert principal role).naming other = map.naming other := by
  by_cases nobody : principal = ""
  · rw [insert, dif_pos nobody]
  · ext entry
    refine and_congr_left fun same => ?_
    have different : principal ≠ entry.1 := by
      rintro rfl
      exact apart same
    rw [mem_entries, mem_entries, get?_insert _ _ _ nobody, if_neg different]

end ScopedGrants.RoleMap
