import ScopedGrants.Access.Authorizer
import ScopedGrants.Proofs.Access.Permit

/-!
What checks come to, given what is known of organizations. A check is allowed by stored records
alone, or by the entries of the organization that it asks for; who answers, and how, does not
matter beyond that.
-/

namespace ScopedGrants

/-- A verb on a project that makes up for one on the secrets in it. None does for reading. -/
inductive StandsIn : ContainerVerb → SecretVerb → Prop
  | list : StandsIn .read .list
  | write : StandsIn .write .write
  | delete : StandsIn .admin .delete
  | admin : StandsIn .admin .admin

theorem onProject_eq_some {verb : SecretVerb} {container : ContainerVerb} :
    verb.onProject = some container ↔ StandsIn container verb := by
  constructor
  · intro h
    cases verb <;> cases h <;> constructor
  · rintro (_ | _) <;> rfl

namespace Check

def Allows (known : String → Option ActiveGrants) : Check → Prop
  | decided decision => decision = .allowed
  | ask name resume => ∃ active, known name = some active ∧ resume active = .allowed

variable {known : String → Option ActiveGrants} {caller : Caller} {permission : Permission}
  {now : Instant}

theorem organization_allows {name : String} :
    (organization caller name permission).Allows known ↔
      permission.scope = .organization ∧
        ∃ active, known name = some active ∧ active.Permit caller permission := by
  unfold organization
  split
  · rename_i inside
    simp only [Allows, decide_allowed, inside, true_and]
  · rename_i outside
    simp [Allows, outside]

theorem project_allows {cascade : Bool} {project : Project} :
    (Check.project cascade caller project permission now).Allows known ↔
      permission.scope = .project ∧ (project.grants.Permit caller permission now ∨
        cascade = true ∧ ∃ verb name active, permission = .project verb ∧
          project.organization = some name ∧ known name = some active ∧
          active.Permit caller (.organization verb)) := by
  cases permission with
  | secret verb => simp [Check.project, Permission.scope, Allows]
  | organization verb => simp [Check.project, Permission.scope, Allows]
  | project verb =>
    rw [Check.project, if_neg (by simp [Permission.scope])]
    by_cases direct : project.grants.Permit caller (.project verb) now
    · rw [if_pos (decide_active_allowed.mpr direct)]
      simp [direct, Allows, Permission.scope]
    · rw [if_neg (mt decide_active_allowed.mp direct)]
      cases cascade with
      | false => simp [direct, Allows]
      | true =>
        cases belongs : project.organization with
        | none => simp [direct, Allows]
        | some name =>
          simp [direct, Allows, Permission.substitute, Permission.scope, decide_allowed]

theorem secret_allowed {secret : Secret} :
    Check.secret caller secret permission now = .allowed ↔
      permission.scope = .secret ∧ (secret.grants.Permit caller permission now ∨
        ∃ verb container, permission = .secret verb ∧ StandsIn container verb ∧
          secret.project.grants.Permit caller (.project container) now) := by
  cases permission with
  | project verb => simp [Check.secret, Permission.scope]
  | organization verb => simp [Check.secret, Permission.scope]
  | secret verb =>
    rw [Check.secret, if_neg (by simp [Permission.scope])]
    by_cases direct : secret.grants.Permit caller (.secret verb) now
    · rw [if_pos (decide_active_allowed.mpr direct)]
      simp [direct, Permission.scope]
    · rw [if_neg (mt decide_active_allowed.mp direct)]
      simp only [direct, Permission.scope, true_and, false_or, Permission.secret.injEq,
        exists_and_left, exists_eq_left', ← onProject_eq_some]
      cases verb <;> simp [Permission.substitute, SecretVerb.onProject, decide_active_allowed]

/-- What a source of organization grants makes known at an instant. One that fails makes nothing
known, like one that is missing. -/
def answers {ε : Type} (resolver : Option (Resolver ε)) (now : Instant) (name : String) :
    Option ActiveGrants :=
  resolver.bind fun answer => (answer name now).toOption

theorem answers_eq_some {ε : Type} {resolver : Option (Resolver ε)} {name : String}
    {active : ActiveGrants} :
    answers resolver now name = some active ↔
      ∃ answer, resolver = some answer ∧ answer name now = .ok active := by
  rw [answers, Option.bind_eq_some_iff]
  refine exists_congr fun answer => and_congr_right fun _ => ?_
  cases answer name now <;> simp [Except.toOption]

theorem settle_allowed {ε : Type} {resolver : Option (Resolver ε)} {check : Check} :
    (check.settle resolver now).decision = .allowed ↔ check.Allows (answers resolver now) := by
  cases check with
  | decided decision => rfl
  | ask name resume =>
    cases resolver with
    | none => simp [settle, Allows, answers]
    | some answer =>
      cases found : answer name now <;> simp [settle, Allows, answers, found, Except.toOption]

end Check
end ScopedGrants
