import ScopedGrants.Proofs.Access.Check

/-!
The reference semantics of the checks on projects and secrets. Each is allowed exactly if one
stored record, or one entry of the organization's answer, is enough for it. Nothing else that is
stored hides such a record, and organizations have no say in secrets.
-/

namespace ScopedGrants

theorem Decision.eq_of_allowed_iff {a b : Decision} (h : a = .allowed ↔ b = .allowed) : a = b := by
  cases a <;> cases b <;> simp_all

namespace Authorizer

variable {ε : Type}

theorem checkProject_allows {authorizer : Authorizer ε} {caller : Caller} {project : Project}
    {permission : Permission} {now : Instant} :
    (authorizer.checkProject caller project permission now).decision = .allowed ↔
      (Check.project authorizer.settings.organizationCascade caller project permission now).Allows
        (Check.answers authorizer.resolver now) :=
  Check.settle_allowed

/-- A check on a project is allowed exactly if a live record of its own is enough, or an entry of
its organization's answer where grants cascade. A source that fails for the organization counts as
none, and no other record, dead, lower or repeated, hides one that is live. -/
theorem checkProject_reference (authorizer : Authorizer ε) (caller : Caller) (project : Project)
    (permission : Permission) (now : Instant) :
    ((authorizer.checkProject caller project permission now).decision = .allowed ↔
      permission.scope = .project ∧ (project.grants.Permit caller permission now ∨
        authorizer.settings.organizationCascade = true ∧ ∃ verb name answer active,
          permission = .project verb ∧ project.organization = some name ∧
            authorizer.resolver = some answer ∧ answer name now = .ok active ∧
              active.Permit caller (.organization verb))) ∧
    (∀ name answer error, project.organization = some name →
      authorizer.resolver = some answer → answer name now = .error error →
        (authorizer.checkProject caller project permission now).decision =
          ((⟨authorizer.settings, none⟩ : Authorizer ε).checkProject caller project permission
            now).decision) ∧
    ∀ other : Project, other.organization = project.organization →
      (∀ grant ∈ project.grants.users, grant.Live now → grant ∈ other.grants.users) →
      (∀ grant ∈ project.grants.groups, grant.Live now → grant ∈ other.grants.groups) →
        (authorizer.checkProject caller project permission now).decision = .allowed →
          (authorizer.checkProject caller other permission now).decision = .allowed := by
  refine ⟨?_, ?_, ?_⟩
  · rw [checkProject_allows, Check.project_allows]
    simp only [Check.answers_eq_some]
    refine and_congr_right fun _ => or_congr_right (and_congr_right fun _ => ?_)
    constructor
    · rintro ⟨verb, name, active, same, belongs, ⟨answer, source, found⟩, permit⟩
      exact ⟨verb, name, answer, active, same, belongs, source, found, permit⟩
    · rintro ⟨verb, name, answer, active, same, belongs, source, found, permit⟩
      exact ⟨verb, name, active, same, belongs, ⟨answer, source, found⟩, permit⟩
  · intro name answer error belongs source failed
    have silent : Check.answers authorizer.resolver now name = none := by
      simp [Check.answers, source, failed, Except.toOption]
    refine Decision.eq_of_allowed_iff ?_
    rw [checkProject_allows, checkProject_allows, Check.project_allows, Check.project_allows]
    refine and_congr_right fun _ => or_congr_right (and_congr_right fun _ => ?_)
    constructor
    · rintro ⟨verb, found, active, same, same_name, known, permit⟩
      obtain rfl := Option.some.inj (belongs.symm.trans same_name)
      exact absurd (silent.symm.trans known) (by simp)
    · rintro ⟨verb, found, active, same, same_name, known, permit⟩
      exact absurd known (by simp [Check.answers])
  · intro other belongs users groups
    rw [checkProject_allows, checkProject_allows, Check.project_allows, Check.project_allows,
      belongs]
    exact And.imp_right (Or.imp_left (.mono users groups))

/-- A record in small letters that has lapsed, of a higher role, stands before one that is live. -/
theorem checkProject_reference_lapsed_owner :
    ((⟨{}, some fun _ _ => .error ()⟩ : Authorizer Unit).checkProject { email := "ann" }
      { name := "shop", organization := some "acme", grants :=
        { users := [{ principal := "ann", role := .owner, expires := some 5 },
          { principal := "Ann", role := .viewer }] } } (.project .read) 7).decision = .allowed :=
  (checkProject_reference ⟨{}, some fun _ _ => .error ()⟩ { email := "ann" }
    { name := "shop", organization := some "acme", grants :=
      { users := [{ principal := "Ann", role := .viewer }] } } (.project .read) 7).2.2 _ rfl
    (by simp) (by simp) (by decide +kernel)

/-- A check on a secret is allowed exactly if a live record of its own is enough, or for all but
reading one of its project with the verb that stands in. It depends on nothing but these two lists
of records, and reading not even on those of the project. -/
theorem checkSecret_reference {ε' : Type} (authorizer : Authorizer ε) (other : Authorizer ε')
    (caller : Caller) (secret : Secret) (permission : Permission) (now : Instant) :
    ((authorizer.checkSecret caller secret permission now).decision = .allowed ↔
      permission.scope = .secret ∧ (secret.grants.Permit caller permission now ∨
        permission ≠ .secret .read ∧ ∃ verb container, permission = .secret verb ∧
          StandsIn container verb ∧
            secret.project.grants.Permit caller (.project container) now)) ∧
    (∀ twin : Secret, twin.grants = secret.grants →
      twin.project.grants = secret.project.grants →
        other.checkSecret caller twin permission now =
          authorizer.checkSecret caller secret permission now) ∧
    ∀ twin : Secret, twin.grants = secret.grants → permission = .secret .read →
      other.checkSecret caller twin permission now =
        authorizer.checkSecret caller secret permission now := by
  refine ⟨?_, ?_, ?_⟩
  · rw [checkSecret, Check.secret_allowed]
    refine and_congr_right fun _ => or_congr_right ⟨?_, fun h => h.2⟩
    rintro ⟨verb, container, rfl, instead, permit⟩
    refine ⟨?_, verb, container, rfl, instead, permit⟩
    rintro reads
    obtain rfl := Permission.secret.inj reads
    cases instead
  · intro twin own project
    simp only [checkSecret, Check.secret, own, project]
  · rintro twin own rfl
    simp only [checkSecret, Check.secret, own, Permission.substitute, SecretVerb.onProject,
      Option.map_none, if_true]

/-- Ownership of the project, which the second of two otherwise equal secrets does not have around
it, makes no difference to reading; nor does a source that answers with another owner. -/
theorem checkSecret_reference_project_owner :
    (⟨{}, some fun _ _ => .ok { users := .ofList [("ann", .owner)] }⟩ :
        Authorizer Unit).checkSecret { email := "ann" }
      { name := "key", project := { name := "shop", organization := some "acme" } }
      (.secret .read) 7 =
    (⟨{}, none⟩ : Authorizer Empty).checkSecret { email := "ann" }
      { name := "key", project :=
        { name := "shop", grants := { users := [{ principal := "Ann", role := .owner }] } } }
      (.secret .read) 7 :=
  (checkSecret_reference _ _ _ _ _ _).2.2 _ rfl rfl

end Authorizer
end ScopedGrants
