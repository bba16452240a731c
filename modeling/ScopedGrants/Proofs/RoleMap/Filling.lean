import Mathlib.Data.Finset.Card
import Mathlib.Data.String.Basic
import ScopedGrants.Proofs.RoleMap
import ScopedGrants.Proofs.Text.ByteOrder

/-!
Maps of roles filled pair by pair. However a map is filled, it holds the latest role of everybody
but nobody and lists the principals in the order of their bytes, so that nothing else shows of the
pairs it was filled with. Roles are stored under principals as written and matched without regard
to case.
-/

namespace ScopedGrants.RoleMap

/-! ### The listing -/

def principals (map : RoleMap) : List String := map.entries.map (·.1)

variable {map : RoleMap} {principal : String} {role : Role}

theorem mem_principals : principal ∈ map.principals ↔ ∃ role, map.get? principal = some role := by
  rw [principals, List.mem_map]
  constructor
  · rintro ⟨entry, member, rfl⟩
    exact ⟨entry.2, mem_entries.mp member⟩
  · rintro ⟨role, found⟩
    exact ⟨(principal, role), get?_eq_some.mp found, rfl⟩

theorem principals_ascending (map : RoleMap) :
    map.principals.Pairwise fun a b => Text.bytes a < Text.bytes b := by
  rw [principals, List.pairwise_map]
  refine map.roles.sorted.imp fun below => ?_
  exact Text.bytes_lt (compare_lt_iff_lt.mp below)

theorem principals_distinct (map : RoleMap) : map.principals.Nodup := by
  refine map.principals_ascending.imp fun below same => ?_
  rw [same] at below
  exact List.lt_irrefl _ below

theorem length_principals (map : RoleMap) : map.principals.length = map.size := List.length_map _

theorem matching_eq (map : RoleMap) (principal : String) :
    (map.matching principal).map some =
      (map.principals.filter (Principal.Same · principal)).map map.get? := by
  rw [matching, principals, List.filter_map, List.map_map, List.map_map]
  apply List.map_congr_left
  intro entry member
  have present := List.mem_of_mem_filter member
  exact (mem_entries.mp present).symm

theorem matching_nobody (map : RoleMap) : map.matching "" = [] := by
  have unmatched : map.entries.filter (fun entry => Principal.Same entry.1 "") = [] := by
    apply List.filter_eq_nil_iff.mpr
    intro entry member same
    exact map.named entry member (Principal.same_nobody (of_decide_eq_true same))
  rw [matching, unmatched, List.map_nil]

/-! ### The latest role -/

/-- The role comes with the principal in one of the pairs, and in no later one does the principal
come up. -/
def Latest (pairs : List (String × Role)) (principal : String) (role : Role) : Prop :=
  ∃ earlier later, pairs = earlier ++ (principal, role) :: later ∧
    ∀ pair ∈ later, pair.1 ≠ principal

theorem latest_iff {pairs : List (String × Role)} :
    Latest pairs principal role ↔
      (pairs.reverse.find? (·.1 = principal)).map (·.2) = some role := by
  constructor
  · rintro ⟨earlier, later, rfl, last⟩
    have passed : later.reverse.find? (·.1 = principal) = none := by
      apply List.find?_eq_none.mpr
      intro pair member
      simpa using last pair (List.mem_reverse.mp member)
    rw [List.reverse_append, List.reverse_cons, List.append_assoc, List.find?_append, passed]
    simp
  · intro found
    obtain ⟨pair, search, rfl⟩ := Option.map_eq_some_iff.mp found
    obtain ⟨named, later, earlier, split, passed⟩ := List.find?_eq_some_iff_append.mp search
    obtain rfl : pair.1 = principal := of_decide_eq_true named
    refine ⟨earlier.reverse, later.reverse, ?_, ?_⟩
    · rw [← List.reverse_reverse pairs, split]
      simp
    · intro other member
      simpa using passed other (List.mem_reverse.mp member)

theorem exists_latest {pairs : List (String × Role)} :
    (∃ role, Latest pairs principal role) ↔ principal ∈ pairs.map (·.1) := by
  simp only [latest_iff, ← Option.isSome_iff_exists, Option.isSome_map]
  simp only [List.find?_isSome, List.mem_reverse, decide_eq_true_eq, List.mem_map]

/-! ### Filling -/

inductive Filling where
  | fresh
  | collected (pairs : List (String × Role))
  | named (pairs : List (String × String))
  | inserted (filling : Filling) (principal : String) (role : Role)

namespace Filling

def pairs : Filling → List (String × Role)
  | fresh => []
  | collected pairs => pairs
  | named pairs => pairs.map fun pair => (pair.1, Role.ofName pair.2)
  | inserted filling principal role => filling.pairs ++ [(principal, role)]

def filled : Filling → RoleMap
  | fresh => ∅
  | collected pairs => ofList pairs
  | named pairs => ofNames pairs
  | inserted filling principal role => filling.filled.insert principal role

theorem filled_eq (filling : Filling) : filling.filled = ofList filling.pairs := by
  induction filling with
  | fresh => rfl
  | collected pairs => rfl
  | named pairs => rfl
  | inserted filling principal role ih =>
    rw [filled, pairs, ih, ofList, ofList, List.foldl_append]
    rfl

theorem get?_filled (filling : Filling) (principal : String) (role : Role) :
    filling.filled.get? principal = some role ↔
      principal ≠ "" ∧ Latest filling.pairs principal role := by
  by_cases nobody : principal = ""
  · simp [nobody, get?_nobody]
  · rw [filled_eq, get?_ofList filling.pairs nobody, latest_iff]
    exact (and_iff_right nobody).symm

theorem size_filled (filling : Filling) :
    filling.filled.size = ((filling.pairs.map (·.1)).toFinset.erase "").card := by
  rw [← length_principals, ← List.toFinset_card_of_nodup (principals_distinct filling.filled)]
  congr 1
  ext principal
  rw [List.mem_toFinset, mem_principals, Finset.mem_erase, List.mem_toFinset, ← exists_latest]
  simp only [get?_filled, exists_and_left]

theorem filled_eq_filled (filling other : Filling) :
    filling.filled = other.filled ↔ ∀ principal ≠ "", ∀ role,
      Latest filling.pairs principal role ↔ Latest other.pairs principal role := by
  constructor
  · intro same principal named role
    have found := filling.get?_filled principal role
    rw [same, get?_filled, and_iff_right named, and_iff_right named] at found
    exact found.symm
  · intro same
    refine ext_get? fun principal => Option.ext fun role => ?_
    rw [get?_filled, get?_filled]
    exact and_congr_right fun named => same principal named role

/-- Whichever way the roles come in, a map holds the latest one of everybody but nobody. It lists
the principals once each in the order of their bytes, and matches those of them who are the
principal but for case. -/
theorem filling_exact (filling : Filling) :
    (∀ principal role, filling.filled.get? principal = some role ↔
      principal ≠ "" ∧ Latest filling.pairs principal role) ∧
    (filling.filled.principals.Pairwise fun a b => Text.bytes a < Text.bytes b) ∧
    filling.filled.principals.Nodup ∧
    (∀ entry, entry ∈ filling.filled.entries ↔ filling.filled.get? entry.1 = some entry.2) ∧
    filling.filled.size = ((filling.pairs.map (·.1)).toFinset.erase "").card ∧
    (∀ principal, (filling.filled.matching principal).map some =
      (filling.filled.principals.filter (Principal.Same · principal)).map filling.filled.get?) ∧
    filling.filled.matching "" = [] ∧
    ∀ other : Filling, filling.filled = other.filled ↔ ∀ principal ≠ "", ∀ role,
      Latest filling.pairs principal role ↔ Latest other.pairs principal role := by
  refine ⟨filling.get?_filled, principals_ascending filling.filled,
    principals_distinct filling.filled, ?_, filling.size_filled, matching_eq filling.filled,
    matching_nobody filling.filled, filling.filled_eq_filled⟩
  intro entry
  exact mem_entries

/-- Read from names, with one role put in the place of another, comes to the same as the two roles
that stay, collected in another order. -/
theorem filling_exact_replaced :
    (inserted (named [("Zoë", "OWNER"), ("", "owner"), ("ann", "viewer")]) "Zoë" .editor).filled =
      (collected [("ann", .viewer), ("Zoë", .editor)]).filled ∧
    (collected [("ann", .viewer), ("Zoë", .editor)]).filled.get? "Zoë" = some .editor := by
  have replaced := filling_exact
    (inserted (named [("Zoë", "OWNER"), ("", "owner"), ("ann", "viewer")]) "Zoë" .editor)
  have kept := filling_exact (collected [("ann", .viewer), ("Zoë", .editor)])
  have latest : Latest [("ann", .viewer), ("Zoë", .editor)] "Zoë" .editor :=
    ⟨[("ann", .viewer)], [], rfl, by simp⟩
  refine ⟨(replaced.2.2.2.2.2.2.2 _).mpr ?_, (kept.1 "Zoë" .editor).mpr ⟨by decide, latest⟩⟩
  intro principal named role
  have viewer : Role.ofName "viewer" = .viewer := by decide +kernel
  rw [latest_iff, latest_iff]
  by_cases zoe : "Zoë" = principal
  · simp [pairs, zoe]
  · by_cases ann : "ann" = principal <;> simp [pairs, zoe, ann, Ne.symm named, viewer]

end Filling
end ScopedGrants.RoleMap
