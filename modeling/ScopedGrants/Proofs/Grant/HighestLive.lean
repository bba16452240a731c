import Mathlib.Order.Bounds.Basic
import ScopedGrants.Proofs.Grant.Live

/-!
The roles in force at an instant, told from the records alone. A principal has a role exactly if a
record with a window around the instant names it, and the role is the highest of those records.
Records outside their windows, the order of the records and repetitions leave no trace.
-/

namespace ScopedGrants

/-- The instant lies in the window of the grant. A bound that is missing excludes nothing. -/
structure Grant.InWindow (grant : Grant) (now : Instant) : Prop where
  begun : ∀ start, grant.notBefore = some start → start ≤ now
  lasting : ∀ expiry, grant.expires = some expiry → now < expiry

theorem Grant.activeAt_iff {grant : Grant} {now : Instant} :
    grant.activeAt now = true ↔ grant.InWindow now := by
  rw [activeAt, Bool.and_eq_true, Option.all_eq_true, Option.all_eq_true]
  constructor
  · rintro ⟨begun, lasting⟩
    exact ⟨fun start bound => of_decide_eq_true (begun start bound),
      fun expiry bound => of_decide_eq_true (lasting expiry bound)⟩
  · rintro ⟨begun, lasting⟩
    exact ⟨fun start bound => decide_eq_true (begun start bound),
      fun expiry bound => decide_eq_true (lasting expiry bound)⟩

namespace Grants

/-- The roles of the records that name exactly the principal and have the instant in their window. -/
def rolesInForce (grants : List Grant) (principal : String) (now : Instant) : Set Role :=
  {role | ∃ grant ∈ grants, grant.principal = principal ∧ grant.InWindow now ∧ grant.role = role}

variable {grants others kept : List Grant} {principal : String} {role : Role} {now : Instant}

theorem get?_liveRoles_ne_none :
    (liveRoles grants now).get? principal ≠ none ↔
      principal ≠ "" ∧ (rolesInForce grants principal now).Nonempty := by
  constructor
  · intro present
    obtain ⟨role, found⟩ := Option.ne_none_iff_exists'.mp present
    obtain ⟨grant, member, ⟨named, active⟩, rfl, rfl⟩ :=
      liveRoles_origin (RoleMap.get?_eq_some.mp found)
    exact ⟨named, grant.role, grant, member, rfl, Grant.activeAt_iff.mp active, rfl⟩
  · rintro ⟨named, role, grant, member, rfl, window, -⟩
    obtain ⟨upheld, stored, -⟩ := liveRoles_upholds member ⟨named, Grant.activeAt_iff.mpr window⟩
    rw [RoleMap.get?_eq_some.mpr stored]
    exact Option.some_ne_none upheld

theorem isGreatest_of_get? (found : (liveRoles grants now).get? principal = some role) :
    IsGreatest (rolesInForce grants principal now) role := by
  obtain ⟨grant, member, ⟨named, active⟩, rfl, rfl⟩ :=
    liveRoles_origin (RoleMap.get?_eq_some.mp found)
  refine ⟨⟨grant, member, rfl, Grant.activeAt_iff.mp active, rfl⟩, ?_⟩
  rintro lower ⟨other, present, same, window, rfl⟩
  have live : other.Live now := ⟨same ▸ named, Grant.activeAt_iff.mpr window⟩
  obtain ⟨upheld, stored, above⟩ := liveRoles_upholds present live
  rw [same] at stored
  obtain rfl := Option.some.inj (found.symm.trans (RoleMap.get?_eq_some.mpr stored))
  exact above

theorem get?_liveRoles_eq_some :
    (liveRoles grants now).get? principal = some role ↔
      principal ≠ "" ∧ IsGreatest (rolesInForce grants principal now) role := by
  constructor
  · intro found
    have present := get?_liveRoles_ne_none.mp (found ▸ Option.some_ne_none role)
    exact ⟨present.1, isGreatest_of_get? found⟩
  · rintro ⟨named, greatest⟩
    have present := get?_liveRoles_ne_none.mpr ⟨named, greatest.nonempty⟩
    obtain ⟨other, found⟩ := Option.ne_none_iff_exists'.mp present
    rw [found, (isGreatest_of_get? found).unique greatest]

theorem rolesInForce_mono
    (present : ∀ grant ∈ grants, grant.InWindow now → grant ∈ others) :
    rolesInForce grants principal now ⊆ rolesInForce others principal now := by
  rintro role ⟨grant, member, named, window, rfl⟩
  exact ⟨grant, present grant member window, named, window, rfl⟩

theorem liveRoles_congr
    (same : ∀ grant, grant.InWindow now → (grant ∈ others ↔ grant ∈ grants)) :
    liveRoles others now = liveRoles grants now := by
  apply RoleMap.ext_get?
  intro principal
  have roles : rolesInForce others principal now = rolesInForce grants principal now := by
    apply Set.Subset.antisymm
    · exact rolesInForce_mono fun grant member window => (same grant window).mp member
    · exact rolesInForce_mono fun grant member window => (same grant window).mpr member
  apply Option.ext
  intro role
  rw [get?_liveRoles_eq_some, get?_liveRoles_eq_some, roles]

theorem activeRoles_perm (perm : kept.Perm (deduplicate (grants.filter (·.activeAt now)))) :
    activeRoles kept now = liveRoles grants now := by
  have distinct := deduplicate_distinct (grants.filter (·.activeAt now))
  have part := (List.filter_sublist (l := deduplicate (grants.filter (·.activeAt now)))
    (p := fun grant => grant.principal ≠ "" ∧ grant.activeAt now)).map (·.principal)
  -- No principal comes up twice, so that no role is stored over another.
  refine RoleMap.ofList_perm ?_ ((perm.filter _).map _)
  rw [List.map_map]
  exact distinct.sublist part

end Grants

inductive Bucket where
  | users
  | groups

namespace Bucket

def stored (grants : ResourceGrants) : Bucket → List Grant
  | users => grants.users
  | groups => grants.groups

def roles (active : ActiveGrants) : Bucket → RoleMap
  | users => active.users
  | groups => active.groups

theorem roles_active (bucket : Bucket) (grants : ResourceGrants) (now : Instant) :
    bucket.roles (grants.active now) = Grants.liveRoles (bucket.stored grants) now := by
  cases bucket <;> rfl

end Bucket

/-- Each list holds for each principal the highest role in force, and nothing but the records that
are in their windows tells which. What deduplication leaves has no principal twice, so that no
record takes the place of an earlier one. -/
theorem ResourceGrants.active_highest (bucket : Bucket) (grants : ResourceGrants) (now : Instant) :
    (∀ principal, (bucket.roles (grants.active now)).get? principal ≠ none ↔
      principal ≠ "" ∧ ∃ grant ∈ bucket.stored grants,
        grant.principal = principal ∧ grant.InWindow now) ∧
    (∀ principal role, (bucket.roles (grants.active now)).get? principal = some role →
      IsGreatest (Grants.rolesInForce (bucket.stored grants) principal now) role) ∧
    (∀ others : ResourceGrants,
      (∀ grant, grant.InWindow now →
        (grant ∈ bucket.stored others ↔ grant ∈ bucket.stored grants)) →
      bucket.roles (others.active now) = bucket.roles (grants.active now)) ∧
    ∀ kept, kept.Perm (Grants.deduplicate ((bucket.stored grants).filter (·.activeAt now))) →
      Grants.activeRoles kept now = bucket.roles (grants.active now) := by
  rw [Bucket.roles_active]
  refine ⟨?_, fun _ _ => Grants.isGreatest_of_get?, ?_, fun _ => Grants.activeRoles_perm⟩
  · intro principal
    rw [Grants.get?_liveRoles_ne_none]
    refine and_congr_right fun _ => ?_
    constructor
    · rintro ⟨role, grant, member, named, window, -⟩
      exact ⟨grant, member, named, window⟩
    · rintro ⟨grant, member, named, window⟩
      exact ⟨grant.role, grant, member, named, window, rfl⟩
  · intro others same
    rw [Bucket.roles_active]
    exact Grants.liveRoles_congr same

/-- An owner who has lapsed stands before an editor and a viewer who have not. -/
theorem ResourceGrants.active_highest_ann :
    IsGreatest (Grants.rolesInForce [⟨"ann", .owner, none, some 5⟩, ⟨"ann", .editor, some 2, some 9⟩,
      ⟨"ann", .viewer, none, none⟩] "ann" 7) .editor ∧
    (ResourceGrants.active ⟨[⟨"ann", .viewer, none, none⟩, ⟨"ann", .editor, some 2, some 9⟩,
      ⟨"ann", .viewer, none, none⟩], []⟩ 7).users =
      (ResourceGrants.active ⟨[⟨"ann", .owner, none, some 5⟩, ⟨"ann", .editor, some 2, some 9⟩,
        ⟨"ann", .viewer, none, none⟩], []⟩ 7).users ∧
    Grants.activeRoles [⟨"ann", .editor, some 2, some 9⟩] 7 =
      (ResourceGrants.active ⟨[⟨"ann", .owner, none, some 5⟩, ⟨"ann", .editor, some 2, some 9⟩,
        ⟨"ann", .viewer, none, none⟩], []⟩ 7).users := by
  have held := active_highest .users ⟨[⟨"ann", .owner, none, some 5⟩,
    ⟨"ann", .editor, some 2, some 9⟩, ⟨"ann", .viewer, none, none⟩], []⟩ 7
  refine ⟨held.2.1 "ann" .editor (by decide +kernel), held.2.2.1 ⟨_, []⟩ ?_,
    held.2.2.2 _ (by decide +kernel)⟩
  intro grant window
  have lapsed : grant ≠ ⟨"ann", .owner, none, some 5⟩ := by
    rintro rfl
    exact absurd (window.lasting 5 rfl) (by decide)
  show grant ∈ [_, _, _] ↔ grant ∈ [_, _, _]
  grind

end ScopedGrants
