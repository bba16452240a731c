import ScopedGrants.Access.Decision
import ScopedGrants.Proofs.Grant.Live

/-!
What stored grants permit a caller, read straight off the records: one live record that names the
caller and whose role carries the permission is enough. Deciding by the best role of the live map
comes to the same.
-/

namespace ScopedGrants

/-- The grant can be used by the principal, in whatever case it is spelled, and its role carries
the permission. -/
def Grant.Permits (grant : Grant) (principal : String) (permission : Permission)
    (now : Instant) : Prop :=
  grant.Live now ∧ Principal.Same grant.principal principal ∧
    grant.role.grants permission = true

def RoleMap.Permits (map : RoleMap) (principal : String) (permission : Permission) : Prop :=
  ∃ entry ∈ map.entries, Principal.Same entry.1 principal ∧ entry.2.grants permission = true

/-- One entry is enough, of the caller's email among the users or of one of the caller's groups
among the groups. -/
def ActiveGrants.Permit (active : ActiveGrants) (caller : Caller) (permission : Permission) :
    Prop :=
  active.users.Permits caller.email permission ∨
    ∃ group ∈ caller.groups, active.groups.Permits group permission

/-- One stored record is enough, of the caller's email among the users or of one of the caller's
groups among the groups. -/
def ResourceGrants.Permit (grants : ResourceGrants) (caller : Caller) (permission : Permission)
    (now : Instant) : Prop :=
  (∃ grant ∈ grants.users, grant.Permits caller.email permission now) ∨
    ∃ group ∈ caller.groups, ∃ grant ∈ grants.groups, grant.Permits group permission now

variable {caller : Caller} {permission : Permission} {now : Instant}

/-! ### From records to maps -/

theorem liveRoles_permits {grants : List Grant} {principal : String} :
    (Grants.liveRoles grants now).Permits principal permission ↔
      ∃ grant ∈ grants, grant.Permits principal permission now := by
  constructor
  · rintro ⟨entry, member, same, granted⟩
    obtain ⟨grant, present, live, named, role⟩ := Grants.liveRoles_origin member
    exact ⟨grant, present, live, named ▸ same, role ▸ granted⟩
  · rintro ⟨grant, present, live, same, granted⟩
    obtain ⟨role, member, above⟩ := Grants.liveRoles_upholds present live
    exact ⟨_, member, same, Role.grants_mono above granted⟩

theorem active_permit {grants : ResourceGrants} :
    (grants.active now).Permit caller permission ↔ grants.Permit caller permission now := by
  simp only [ActiveGrants.Permit, ResourceGrants.active, ResourceGrants.Permit, liveRoles_permits]

theorem ResourceGrants.Permit.mono {grants others : ResourceGrants}
    (users : ∀ grant ∈ grants.users, grant.Live now → grant ∈ others.users)
    (groups : ∀ grant ∈ grants.groups, grant.Live now → grant ∈ others.groups)
    (permit : grants.Permit caller permission now) : others.Permit caller permission now := by
  rcases permit with ⟨grant, member, permits⟩ | ⟨group, belongs, grant, member, permits⟩
  · exact Or.inl ⟨grant, users grant member permits.1, permits⟩
  · exact Or.inr ⟨group, belongs, grant, groups grant member permits.1, permits⟩

/-! ### From maps to the decision -/

namespace Caller

/-- The roles of everyone the caller counts as: the user by email among the users, and each of the
caller's groups among the groups. -/
def roles (caller : Caller) (active : ActiveGrants) : List Role :=
  active.users.matching caller.email ++ caller.groups.flatMap active.groups.matching

theorem level_eq (caller : Caller) (active : ActiveGrants) :
    caller.level active = (Role.highest (caller.roles active)).level := by
  rw [level, roles, Role.highest_append, Role.level_max, Role.level_highest, Role.level_highest]

theorem bestRole_eq (caller : Caller) (active : ActiveGrants) :
    caller.bestRole active = Role.highest (caller.roles active) := by
  rw [bestRole, level_eq, Role.ofLevel_level]

/-- The one role at the highest level is the best role. -/
theorem decide_eq (caller : Caller) (active : ActiveGrants) (permission : Permission) :
    caller.decide active permission = .ofBool ((caller.bestRole active).grants permission) := by
  rw [decide, level_eq, Role.any_grants_level, bestRole_eq]

end Caller

theorem exists_mem_matching {map : RoleMap} {principal : String} :
    (∃ role ∈ map.matching principal, role.grants permission = true) ↔
      map.Permits principal permission := by
  constructor
  · rintro ⟨role, member, granted⟩
    obtain ⟨entry, ⟨present, same⟩, rfl⟩ := RoleMap.mem_matching.mp member
    exact ⟨entry, present, same, granted⟩
  · rintro ⟨entry, present, same, granted⟩
    exact ⟨entry.2, RoleMap.mem_matching.mpr ⟨entry, ⟨present, same⟩, rfl⟩, granted⟩

theorem decide_bestRole {active : ActiveGrants} :
    caller.decide active permission = .allowed ↔
      (caller.bestRole active).grants permission = true := by
  rw [Caller.decide_eq]
  cases (caller.bestRole active).grants permission <;> simp [Decision.ofBool]

/-- Only the best role is asked, yet no entry is overlooked. -/
theorem decide_allowed {active : ActiveGrants} :
    caller.decide active permission = .allowed ↔ active.Permit caller permission := by
  rw [decide_bestRole, Caller.bestRole_eq, Role.highest_grants, ActiveGrants.Permit,
    ← exists_mem_matching]
  simp only [Caller.roles, List.mem_append, List.mem_flatMap, or_and_right, exists_or]
  refine or_congr_right ⟨?_, ?_⟩
  · rintro ⟨role, ⟨group, belongs, member⟩, granted⟩
    exact ⟨group, belongs, exists_mem_matching.mp ⟨role, member, granted⟩⟩
  · rintro ⟨group, belongs, permits⟩
    obtain ⟨role, member, granted⟩ := exists_mem_matching.mpr permits
    exact ⟨role, ⟨group, belongs, member⟩, granted⟩

theorem decide_active_allowed {grants : ResourceGrants} :
    caller.decide (grants.active now) permission = .allowed ↔
      grants.Permit caller permission now :=
  decide_allowed.trans active_permit

theorem bestRole_le {narrow wide : Caller} {fewer more : ResourceGrants}
    (permits : ∀ permission, fewer.Permit narrow permission now → more.Permit wide permission now) :
    narrow.bestRole (fewer.active now) ≤ wide.bestRole (more.active now) := by
  apply Role.le_of_grants
  intro permission granted
  have permit := decide_active_allowed.mp (decide_bestRole.mpr granted)
  exact decide_bestRole.mp (decide_active_allowed.mpr (permits permission permit))

end ScopedGrants
