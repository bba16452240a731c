import ScopedGrants.Proofs.Access.Authorizer

/-!
Decisions where more is granted. Grants that can be used and groups of the caller only ever add to
what is permitted, so that neither their order nor how often they are stored nor the case of a
principal makes a difference.
-/

namespace ScopedGrants

/-- Each live grant of the second list has one in the first that can be used, to the same principal
but for case, with a role at least as high. -/
def Grants.Dominates (more fewer : List Grant) (now : Instant) : Prop :=
  ∀ grant ∈ fewer, grant.Live now → ∃ other ∈ more, other.activeAt now = true ∧
    Principal.Same other.principal grant.principal ∧ grant.role ≤ other.role

structure ResourceGrants.Dominates (more fewer : ResourceGrants) (now : Instant) : Prop where
  users : Grants.Dominates more.users fewer.users now
  groups : Grants.Dominates more.groups fewer.groups now

/-- The same user but for case, in all groups of the other and perhaps in more. -/
structure Caller.Covers (wide narrow : Caller) : Prop where
  email : Principal.Same wide.email narrow.email
  groups : ∀ group ∈ narrow.groups, ∃ other ∈ wide.groups, Principal.Same other group

variable {narrow wide : Caller} {permission : Permission} {now : Instant}

theorem Caller.Covers.refl (caller : Caller) : caller.Covers caller where
  email := Principal.Same.refl caller.email
  groups group member := ⟨group, member, Principal.Same.refl group⟩

/-! ### What is permitted -/

theorem Grants.Dominates.permits {more fewer : List Grant} {principal other : String}
    (dominates : Dominates more fewer now) (same : Principal.Same principal other)
    (permitted : ∃ grant ∈ fewer, grant.Permits principal permission now) :
    ∃ grant ∈ more, grant.Permits other permission now := by
  obtain ⟨grant, member, live, named, granted⟩ := permitted
  obtain ⟨above, present, active, spelled, higher⟩ := dominates grant member live
  have somebody : above.principal ≠ "" := by
    intro nobody
    rw [nobody] at spelled
    exact live.1 (Principal.same_nobody spelled.symm)
  have meant : Principal.Same above.principal other := (spelled.trans named).trans same
  exact ⟨above, present, ⟨somebody, active⟩, meant, Role.grants_mono higher granted⟩

theorem ResourceGrants.Dominates.permit {more fewer : ResourceGrants}
    (dominates : more.Dominates fewer now) (covers : wide.Covers narrow)
    (permit : fewer.Permit narrow permission now) : more.Permit wide permission now := by
  rcases permit with permitted | ⟨group, belongs, permitted⟩
  · exact Or.inl (dominates.users.permits covers.email.symm permitted)
  · obtain ⟨other, joined, same⟩ := covers.groups group belongs
    exact Or.inr ⟨other, joined, dominates.groups.permits same.symm permitted⟩

theorem RoleMap.Permits.same {map : RoleMap} {principal other : String}
    (permits : map.Permits principal permission) (same : Principal.Same principal other) :
    map.Permits other permission := by
  obtain ⟨entry, member, named, granted⟩ := permits
  exact ⟨entry, member, named.trans same, granted⟩

theorem ActiveGrants.Permit.covers {active : ActiveGrants}
    (permit : active.Permit narrow permission) (covers : wide.Covers narrow) :
    active.Permit wide permission := by
  rcases permit with user | ⟨group, belongs, member⟩
  · exact Or.inl (user.same covers.email.symm)
  · obtain ⟨other, joined, same⟩ := covers.groups group belongs
    exact Or.inr ⟨other, joined, member.same same.symm⟩

theorem bestRole_mono {more fewer : ResourceGrants} (dominates : more.Dominates fewer now)
    (covers : wide.Covers narrow) :
    narrow.bestRole (fewer.active now) ≤ wide.bestRole (more.active now) :=
  bestRole_le fun _ permit => dominates.permit covers permit

/-! ### Checks -/

namespace Check

/-- What is known of an organization in the second place permits the wide caller whatever is
permitted the narrow one by what is known in the first. -/
def Informs (wide narrow : Caller) (wider known : String → Option ActiveGrants) : Prop :=
  ∀ name active, known name = some active → ∃ other, wider name = some other ∧
    ∀ permission, active.Permit narrow permission → other.Permit wide permission

theorem informs_covers (covers : wide.Covers narrow) (known : String → Option ActiveGrants) :
    Informs wide narrow known known := by
  intro name active found
  exact ⟨active, found, fun permission permit => permit.covers covers⟩

variable {known wider : String → Option ActiveGrants}

theorem organization_mono {name : String} (informs : Informs wide narrow wider known)
    (allowed : (organization narrow name permission).Allows known) :
    (organization wide name permission).Allows wider := by
  rw [organization_allows] at allowed ⊢
  obtain ⟨scope, active, found, permit⟩ := allowed
  obtain ⟨other, told, more⟩ := informs name active found
  exact ⟨scope, other, told, more permission permit⟩

theorem project_mono {cascade : Bool} {project other : Project}
    (covers : wide.Covers narrow) (informs : Informs wide narrow wider known)
    (belongs : other.organization = project.organization)
    (dominates : other.grants.Dominates project.grants now)
    (allowed : (Check.project cascade narrow project permission now).Allows known) :
    (Check.project cascade wide other permission now).Allows wider := by
  rw [project_allows] at allowed ⊢
  obtain ⟨scope, own | ⟨cascades, verb, name, active, same, parent, found, permit⟩⟩ := allowed
  · exact ⟨scope, Or.inl (dominates.permit covers own)⟩
  · obtain ⟨told, knows, more⟩ := informs name active found
    exact ⟨scope, Or.inr ⟨cascades, verb, name, told, same, belongs.trans parent, knows,
      more _ permit⟩⟩

theorem secret_mono {secret other : Secret} (covers : wide.Covers narrow)
    (own : other.grants.Dominates secret.grants now)
    (outer : other.project.grants.Dominates secret.project.grants now)
    (allowed : Check.secret narrow secret permission now = .allowed) :
    Check.secret wide other permission now = .allowed := by
  rw [secret_allowed] at allowed ⊢
  obtain ⟨scope, direct | ⟨verb, container, same, instead, permit⟩⟩ := allowed
  · exact ⟨scope, Or.inl (own.permit covers direct)⟩
  · exact ⟨scope, Or.inr ⟨verb, container, same, instead, outer.permit covers permit⟩⟩

end Check

/-! ### The same grants in another order and in other letters -/

structure Grant.Respelled (grant other : Grant) : Prop where
  principal : Principal.Same other.principal grant.principal
  role : other.role = grant.role
  notBefore : other.notBefore = grant.notBefore
  expires : other.expires = grant.expires

/-- Each list has all grants of the other but for case, wherever and however often. -/
structure Grants.Rearranged (grants others : List Grant) : Prop where
  there : ∀ grant ∈ grants, ∃ other ∈ others, grant.Respelled other
  back : ∀ other ∈ others, ∃ grant ∈ grants, other.Respelled grant

structure ResourceGrants.Rearranged (grants others : ResourceGrants) : Prop where
  users : Grants.Rearranged grants.users others.users
  groups : Grants.Rearranged grants.groups others.groups

theorem Grants.dominates_respelled {more fewer : List Grant} (now : Instant)
    (respelled : ∀ grant ∈ fewer, ∃ other ∈ more, grant.Respelled other) :
    Dominates more fewer now := by
  intro grant member live
  obtain ⟨other, present, same⟩ := respelled grant member
  refine ⟨other, present, ?_, same.principal, le_of_eq same.role.symm⟩
  rw [Grant.activeAt, same.notBefore, same.expires]
  exact live.2

namespace ResourceGrants.Rearranged

variable {grants others : ResourceGrants}

theorem dominates (rearranged : grants.Rearranged others) (now : Instant) :
    others.Dominates grants now where
  users := Grants.dominates_respelled now rearranged.users.there
  groups := Grants.dominates_respelled now rearranged.groups.there

theorem symm (rearranged : grants.Rearranged others) : others.Rearranged grants where
  users := ⟨rearranged.users.back, rearranged.users.there⟩
  groups := ⟨rearranged.groups.back, rearranged.groups.there⟩

end ResourceGrants.Rearranged

namespace Authorizer

variable {ε : Type} {authorizer : Authorizer ε}

theorem checkProject_mono {project other : Project} (covers : wide.Covers narrow)
    (belongs : other.organization = project.organization)
    (dominates : other.grants.Dominates project.grants now)
    (allowed : (authorizer.checkProject narrow project permission now).decision = .allowed) :
    (authorizer.checkProject wide other permission now).decision = .allowed := by
  rw [checkProject_allows] at allowed ⊢
  exact Check.project_mono covers (Check.informs_covers covers _) belongs dominates allowed

/-- Neither the best role nor a decision goes down where each live grant is matched by one at least
as high and the caller loses no group. So where the grants and the caller's groups are only put in
another order, stored again or respelled in another case, neither changes. -/
theorem checks_monotone (authorizer : Authorizer ε) (permission : Permission) (now : Instant) :
    (∀ narrow wide : Caller, wide.Covers narrow →
      (∀ fewer more : ResourceGrants, more.Dominates fewer now →
        authorizer.bestRole narrow fewer now ≤ authorizer.bestRole wide more now) ∧
      (∀ project other : Project, other.organization = project.organization →
        other.grants.Dominates project.grants now →
          (authorizer.checkProject narrow project permission now).decision = .allowed →
            (authorizer.checkProject wide other permission now).decision = .allowed) ∧
      ∀ secret other : Secret, other.grants.Dominates secret.grants now →
        other.project.grants.Dominates secret.project.grants now →
          (authorizer.checkSecret narrow secret permission now).decision = .allowed →
            (authorizer.checkSecret wide other permission now).decision = .allowed) ∧
    ∀ caller twin : Caller, twin.Covers caller → caller.Covers twin →
      (∀ grants others : ResourceGrants, grants.Rearranged others →
        authorizer.bestRole twin others now = authorizer.bestRole caller grants now) ∧
      (∀ project other : Project, other.organization = project.organization →
        project.grants.Rearranged other.grants →
          (authorizer.checkProject twin other permission now).decision =
            (authorizer.checkProject caller project permission now).decision) ∧
      ∀ secret other : Secret, secret.grants.Rearranged other.grants →
        secret.project.grants.Rearranged other.project.grants →
          (authorizer.checkSecret twin other permission now).decision =
            (authorizer.checkSecret caller secret permission now).decision := by
  constructor
  · intro narrow wide covers
    refine ⟨fun fewer more dominates => bestRole_mono dominates covers, ?_, ?_⟩
    · intro project other belongs dominates allowed
      exact checkProject_mono covers belongs dominates allowed
    · intro secret other own outer allowed
      exact Check.secret_mono covers own outer allowed
  · intro caller twin there back
    refine ⟨?_, ?_, ?_⟩
    · intro grants others rearranged
      have up : caller.bestRole (grants.active now) ≤ twin.bestRole (others.active now) :=
        bestRole_mono (rearranged.dominates now) there
      have down : twin.bestRole (others.active now) ≤ caller.bestRole (grants.active now) :=
        bestRole_mono (rearranged.symm.dominates now) back
      exact le_antisymm down up
    · intro project other belongs rearranged
      apply Decision.eq_of_allowed_iff
      constructor
      · exact checkProject_mono back belongs.symm (rearranged.symm.dominates now)
      · exact checkProject_mono there belongs (rearranged.dominates now)
    · intro secret other own outer
      apply Decision.eq_of_allowed_iff
      constructor
      · exact Check.secret_mono back (own.symm.dominates now) (outer.symm.dominates now)
      · exact Check.secret_mono there (own.dominates now) (outer.dominates now)

/-- Two keys that differ become one, in another order, and the caller is in one group twice. -/
theorem checks_monotone_respelled :
    ((⟨{}, none⟩ : Authorizer Unit).checkProject ⟨"ANN", ["Ops", "ops"]⟩
      ⟨"shop", none, ⟨[⟨"aNN", .editor, none, none⟩, ⟨"aNN", .viewer, none, none⟩], []⟩⟩
      (.project .write) 7).decision = .allowed := by
  have spelled : Principal.Same "ANN" "ann" ∧ Principal.Same "Ops" "ops" ∧
      Principal.Same "aNN" "Ann" ∧ Principal.Same "aNN" "ann" := by decide +kernel
  obtain ⟨email, group, capital, small⟩ := spelled
  have there : Caller.Covers ⟨"ANN", ["Ops", "ops"]⟩ ⟨"ann", ["ops"]⟩ :=
    ⟨email, by simp [group]⟩
  have back : Caller.Covers ⟨"ann", ["ops"]⟩ ⟨"ANN", ["Ops", "ops"]⟩ :=
    ⟨email.symm, by simp [group.symm, Principal.Same.refl]⟩
  have users : Grants.Rearranged [⟨"Ann", .viewer, none, none⟩, ⟨"ann", .editor, none, none⟩]
      [⟨"aNN", .editor, none, none⟩, ⟨"aNN", .viewer, none, none⟩] := by
    constructor
    · simp only [List.forall_mem_cons]
      refine ⟨⟨_, .tail _ (.head _), capital, rfl, rfl, rfl⟩,
        ⟨_, .head _, small, rfl, rfl, rfl⟩, ?_⟩
      simp
    · simp only [List.forall_mem_cons]
      refine ⟨⟨_, .tail _ (.head _), small.symm, rfl, rfl, rfl⟩,
        ⟨_, .head _, capital.symm, rfl, rfl, rfl⟩, ?_⟩
      simp
  have nobody : Grants.Rearranged [] [] := ⟨by simp, by simp⟩
  have same := ((checks_monotone (⟨{}, none⟩ : Authorizer Unit) (.project .write) 7).2 _ _
    there back).2.1 ⟨"shop", none, ⟨_, []⟩⟩ ⟨"shop", none, ⟨_, []⟩⟩ (Eq.refl none) ⟨users, nobody⟩
  exact same.trans (by decide +kernel)

end Authorizer
end ScopedGrants
