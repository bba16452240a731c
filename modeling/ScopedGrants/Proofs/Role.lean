import Mathlib.Order.Defs.LinearOrder
import ScopedGrants.Permission

/-!
The ladder of roles. Roles are ordered by their levels and what they permit grows along the ladder,
so that the highest of some roles permits exactly what any of them does.
-/

namespace ScopedGrants.Role

theorem level_inj {a b : Role} (h : a.level = b.level) : a = b := by
  rw [← ofLevel_level a, h, ofLevel_level]

instance : LinearOrder Role where
  le_refl role := Nat.le_refl role.level
  le_trans _ _ _ := Nat.le_trans
  le_antisymm _ _ below above := level_inj (Nat.le_antisymm below above)
  le_total a b := Nat.le_total a.level b.level
  lt_iff_le_not_ge _ _ := Nat.lt_iff_le_and_not_ge
  toDecidableLE := inferInstance
  toDecidableLT := inferInstance
  max_def _ _ := rfl

/-! ### What roles permit -/

theorem grants_mono {a b : Role} {permission : Permission} (above : a ≤ b)
    (granted : a.grants permission = true) : b.grants permission = true := by
  rcases permission with verb | verb | verb <;> cases verb <;> cases a <;> cases b <;>
    first | rfl | exact granted | exact absurd above (by decide)

/-- What a role permits tells how high it is. -/
theorem le_of_grants {a b : Role}
    (more : ∀ permission, a.grants permission = true → b.grants permission = true) : a ≤ b := by
  have viewing := more (.secret .list)
  have editing := more (.secret .write)
  have owning := more (.secret .delete)
  revert viewing editing owning
  cases a <;> cases b <;> decide

theorem grants_max {a b : Role} {permission : Permission} :
    (max a b).grants permission = true ↔
      a.grants permission = true ∨ b.grants permission = true := by
  rcases le_total a b with above | above
  · rw [max_eq_right above]
    exact ⟨Or.inr, fun h => h.elim (grants_mono above) id⟩
  · rw [max_eq_left above]
    exact ⟨Or.inl, fun h => h.elim id (grants_mono above)⟩

def highest (roles : List Role) : Role := roles.foldl max unspecified

theorem foldl_max_grants {roles : List Role} {start : Role} {permission : Permission} :
    (roles.foldl max start).grants permission = true ↔
      start.grants permission = true ∨ ∃ role ∈ roles, role.grants permission = true := by
  induction roles generalizing start with
  | nil => simp
  | cons role rest ih =>
    rw [List.foldl_cons, ih, grants_max, or_assoc]
    simp

/-- Asking the highest of some roles comes to the same as asking them all. -/
theorem highest_grants {roles : List Role} {permission : Permission} :
    (highest roles).grants permission = true ↔
      ∃ role ∈ roles, role.grants permission = true := by
  have nothing : unspecified.grants permission = false := rfl
  rw [highest, foldl_max_grants, nothing]
  simp

/-! ### The highest role and the highest level -/

theorem unspecified_le (role : Role) : unspecified ≤ role := Nat.zero_le role.level

theorem foldl_max (roles : List Role) (start : Role) :
    roles.foldl max start = max start (highest roles) := by
  induction roles generalizing start with
  | nil => exact (max_eq_left (unspecified_le start)).symm
  | cons role rest ih =>
    have first : highest (role :: rest) = rest.foldl max (max unspecified role) := rfl
    rw [List.foldl_cons, first, ih, ih, max_eq_right (unspecified_le role), max_assoc]

theorem highest_cons (role : Role) (rest : List Role) :
    highest (role :: rest) = max role (highest rest) := by
  rw [highest, List.foldl_cons, foldl_max, max_eq_right (unspecified_le role)]

theorem highest_append (roles others : List Role) :
    highest (roles ++ others) = max (highest roles) (highest others) := by
  rw [highest, List.foldl_append, foldl_max]
  rfl

theorem le_highest {roles : List Role} {role : Role} (member : role ∈ roles) :
    role ≤ highest roles := by
  apply le_of_grants
  intro permission granted
  exact highest_grants.mpr ⟨role, member, granted⟩

theorem highest_mem {roles : List Role} (some : roles ≠ []) : highest roles ∈ roles := by
  induction roles with
  | nil => exact absurd rfl some
  | cons role rest ih =>
    rw [highest_cons]
    rcases le_total (highest rest) role with below | above
    · rw [max_eq_left below]
      exact List.mem_cons_self
    · rw [max_eq_right above]
      by_cases last : rest = []
      · subst last
        exact List.mem_singleton.mpr (le_antisymm (unspecified_le role) above)
      · exact List.mem_cons_of_mem _ (ih last)

theorem level_max (a b : Role) : (max a b).level = max a.level b.level := by
  rcases le_total a b with above | above
  · rw [max_eq_right above]
    exact (Nat.max_eq_right above).symm
  · rw [max_eq_left above]
    exact (Nat.max_eq_left above).symm

theorem level_highest (roles : List Role) : (highest roles).level = peak roles := by
  induction roles with
  | nil => rfl
  | cons role rest ih =>
    rw [highest_cons, level_max, ih, peak, peak, List.map_cons, List.max?_cons]
    cases (rest.map level).max? <;> simp

/-- There is one role at each level, so that asking all roles at a level asks that one. -/
theorem any_grants_level (role : Role) (permission : Permission) :
    (all.filter (·.level = role.level)).any (·.grants permission) = role.grants permission := by
  have only : all.filter (·.level = role.level) = [role] := by cases role <;> rfl
  rw [only, List.any_cons, List.any_nil, Bool.or_false]

end ScopedGrants.Role
