import ScopedGrants.Fixture
import ScopedGrants.Proofs.Access.Check
import ScopedGrants.Proofs.Except
import ScopedGrants.Proofs.Grant.Annotations

/-!
What a check on a fixture comes to. It has an outcome exactly if all that it reads is there and can
be read, and then the decision hangs on the grants on these resources alone.
-/

namespace ScopedGrants

def FixtureResource.Holds (keys : GrantKeys) (resource : FixtureResource)
    (grants : ResourceGrants) : Prop :=
  grants.StoredIn keys resource.annotations

def FixtureResource.Readable (keys : GrantKeys) (resource : FixtureResource) : Prop :=
  ∃ grants, resource.Holds keys grants

namespace Fixture

/-- The resource that a check in a scope is about. -/
def resource? (fixture : Fixture) : Scope → Option FixtureResource
  | .organization => fixture.organization
  | .project => fixture.project
  | .secret => fixture.secret

/-- The scopes of the resources that a check cannot do without. -/
def required : Scope → List Scope
  | .organization => [.organization]
  | .project => [.project]
  | .secret => [.secret, .project]

/-- Required resources are there, and these and the organization can be read. -/
@[mk_iff readable_iff]
structure Readable (fixture : Fixture) (keys : GrantKeys) (scope : Scope) : Prop where
  around : ∀ organization, fixture.organization = some organization → organization.Readable keys
  there : ∀ level ∈ required scope, ∃ resource, fixture.resource? level = some resource ∧
    resource.Readable keys

/-- The organization by its name with its grants, or nothing if there is none. -/
def Around (fixture : Fixture) (keys : GrantKeys) : Option (String × ResourceGrants) → Prop
  | none => fixture.organization = none
  | some (name, grants) => ∃ organization, fixture.organization = some organization ∧
      organization.name = name ∧ organization.Holds keys grants

def authorizer (settings : Settings) (source : Option (String × ResourceGrants)) :
    Authorizer String where
  settings
  resolver := source.map fun (name, grants) => resolver name grants

variable {fixture : Fixture} {settings : Settings} {keys : GrantKeys} {caller : Caller}
  {permission : Permission} {now : Instant} {outcome : Outcome}
  {source : Option (String × ResourceGrants)}

/-! ### Reading -/

theorem grantsOf_eq_ok {scope : Scope} {resource : FixtureResource} {grants : ResourceGrants} :
    grantsOf keys scope resource = .ok grants ↔ resource.Holds keys grants :=
  mapError_eq_ok.trans ResourceGrants.ofAnnotations_eq_ok

theorem organization_eq_ok :
    (fixture.organization.mapM fun organization =>
      return (organization.name, ← grantsOf keys .organization organization)) = .ok source ↔
        fixture.Around keys source := by
  cases present : fixture.organization with
  | none => cases source <;> simp [Around, present, pure, Except.pure]
  | some organization =>
    simp only [Option.mapM_some, map_eq_ok, bind_eq_ok, grantsOf_eq_ok]
    cases source with
    | none => simp [Around, present]
    | some named => simp [Around, present, pure, Except.pure, and_comm, Prod.ext_iff]

theorem loadProject_eq_ok {project : Project} :
    fixture.loadProject keys = .ok project ↔ ∃ resource grants, fixture.project = some resource ∧
      resource.Holds keys grants ∧
        project = ⟨resource.name, fixture.organization.map (·.name), grants⟩ := by
  rw [loadProject]
  cases fixture.project with
  | none => simp
  | some resource =>
    simp only [bind_eq_ok, grantsOf_eq_ok]
    constructor
    · rintro ⟨grants, stored, ended⟩
      exact ⟨resource, grants, rfl, stored, (Except.ok.inj ended).symm⟩
    · rintro ⟨_, grants, ⟨⟩, stored, rfl⟩
      exact ⟨grants, stored, rfl⟩

theorem loadSecret_eq_ok {secret : Secret} :
    fixture.loadSecret keys permission = .ok secret ↔ ∃ resource grants project,
      fixture.secret = some resource ∧ resource.Holds keys grants ∧
        fixture.loadProject keys = .ok project ∧ secret = ⟨resource.name, grants, project⟩ := by
  rw [loadSecret]
  cases fixture.secret with
  | none => simp
  | some resource =>
    simp only [bind_eq_ok, grantsOf_eq_ok]
    constructor
    · rintro ⟨grants, stored, project, loaded, ended⟩
      exact ⟨resource, grants, project, rfl, stored, loaded, (Except.ok.inj ended).symm⟩
    · rintro ⟨_, grants, project, ⟨⟩, stored, loaded, rfl⟩
      exact ⟨grants, stored, project, loaded, rfl⟩

/-! ### Checking -/

theorem evaluate_organization (scope : permission.scope = .organization) :
    fixture.evaluate settings caller permission now = .ok outcome ↔
      ∃ name grants, fixture.Around settings.keys (some (name, grants)) ∧
        outcome = ⟨((authorizer settings (some (name, grants))).checkOrganization caller name
          permission now).decision, caller.bestRole (grants.active now)⟩ := by
  unfold evaluate
  simp only [bind_eq_ok, organization_eq_ok, scope]
  constructor
  · rintro ⟨_ | ⟨name, grants⟩, around, ended⟩
    · cases ended
    · exact ⟨name, grants, around, (Except.ok.inj ended).symm⟩
  · rintro ⟨name, grants, around, rfl⟩
    exact ⟨some (name, grants), around, rfl⟩

theorem evaluate_project (scope : permission.scope = .project) :
    fixture.evaluate settings caller permission now = .ok outcome ↔
      ∃ source project, fixture.Around settings.keys source ∧
        fixture.loadProject settings.keys = .ok project ∧
          outcome = ⟨((authorizer settings source).checkProject caller project permission
            now).decision, caller.bestRole (project.grants.active now)⟩ := by
  unfold evaluate
  simp only [bind_eq_ok, organization_eq_ok, scope]
  constructor
  · rintro ⟨source, around, project, loaded, ended⟩
    exact ⟨source, project, around, loaded, (Except.ok.inj ended).symm⟩
  · rintro ⟨source, project, around, loaded, rfl⟩
    exact ⟨source, around, project, loaded, rfl⟩

theorem evaluate_secret (scope : permission.scope = .secret) :
    fixture.evaluate settings caller permission now = .ok outcome ↔
      ∃ source secret, fixture.Around settings.keys source ∧
        fixture.loadSecret settings.keys permission = .ok secret ∧
          outcome = ⟨Check.secret caller secret permission now,
            caller.bestRole (secret.grants.active now)⟩ := by
  unfold evaluate
  simp only [bind_eq_ok, organization_eq_ok, scope]
  constructor
  · rintro ⟨source, around, secret, loaded, ended⟩
    exact ⟨source, secret, around, loaded, (Except.ok.inj ended).symm⟩
  · rintro ⟨source, secret, around, loaded, rfl⟩
    exact ⟨source, around, secret, loaded, rfl⟩

theorem readable_organization :
    (∀ organization, fixture.organization = some organization → organization.Readable keys) ↔
      ∃ source, fixture.Around keys source := by
  constructor
  · intro readable
    cases present : fixture.organization with
    | none => exact ⟨none, present⟩
    | some organization =>
      obtain ⟨grants, stored⟩ := readable organization present
      exact ⟨some (organization.name, grants), organization, present, rfl, stored⟩
  · rintro ⟨_ | ⟨name, grants⟩, around⟩ organization present
    · cases present.symm.trans around
    · obtain ⟨other, also, -, stored⟩ := around
      obtain rfl := Option.some.inj (also.symm.trans present)
      exact ⟨grants, stored⟩

theorem readable_project :
    (∃ resource, fixture.project = some resource ∧ resource.Readable keys) ↔
      ∃ project, fixture.loadProject keys = .ok project := by
  simp only [loadProject_eq_ok]
  constructor
  · rintro ⟨resource, present, grants, stored⟩
    exact ⟨_, resource, grants, present, stored, rfl⟩
  · rintro ⟨_, resource, grants, present, stored, -⟩
    exact ⟨resource, present, grants, stored⟩

theorem readable_secret (permission : Permission) :
    ((∃ resource, fixture.secret = some resource ∧ resource.Readable keys) ∧
      ∃ resource, fixture.project = some resource ∧ resource.Readable keys) ↔
        ∃ secret, fixture.loadSecret keys permission = .ok secret := by
  simp only [readable_project, loadSecret_eq_ok]
  constructor
  · rintro ⟨⟨resource, present, grants, stored⟩, project, loaded⟩
    exact ⟨_, resource, grants, project, present, stored, loaded, rfl⟩
  · rintro ⟨_, resource, grants, project, present, stored, loaded, -⟩
    exact ⟨⟨resource, present, grants, stored⟩, project, loaded⟩

theorem exists_outcome_iff :
    (∃ outcome, fixture.evaluate settings caller permission now = .ok outcome) ↔
      fixture.Readable settings.keys permission.scope := by
  rw [readable_iff, readable_organization]
  cases scope : permission.scope with
  | organization =>
    simp only [evaluate_organization scope, required, List.forall_mem_singleton, resource?]
    constructor
    · rintro ⟨_, name, grants, around, -⟩
      have ⟨organization, present, _, stored⟩ := around
      exact ⟨⟨_, around⟩, organization, present, grants, stored⟩
    · rintro ⟨-, organization, present, grants, stored⟩
      exact ⟨_, organization.name, grants, ⟨organization, present, rfl, stored⟩, rfl⟩
  | project =>
    simp only [evaluate_project scope, required, List.forall_mem_singleton, resource?,
      readable_project]
    constructor
    · rintro ⟨_, source, project, around, loaded, -⟩
      exact ⟨⟨source, around⟩, project, loaded⟩
    · rintro ⟨⟨source, around⟩, project, loaded⟩
      exact ⟨_, source, project, around, loaded, rfl⟩
  | secret =>
    simp only [evaluate_secret scope, required, List.forall_mem_cons, List.not_mem_nil,
      IsEmpty.forall_iff, implies_true, and_true, resource?, readable_secret permission]
    constructor
    · rintro ⟨_, source, secret, around, loaded, -⟩
      exact ⟨⟨source, around⟩, secret, loaded⟩
    · rintro ⟨⟨source, around⟩, secret, loaded⟩
      exact ⟨_, source, secret, around, loaded, rfl⟩

/-! ### Deciding -/

theorem Around.eq_some {organization : FixtureResource} {grants : ResourceGrants}
    (around : fixture.Around keys source) (present : fixture.organization = some organization)
    (stored : organization.Holds keys grants) :
    source = some (organization.name, grants) := by
  cases source with
  | none => cases present.symm.trans around
  | some named =>
    obtain ⟨other, also, same, read⟩ := around
    obtain rfl := Option.some.inj (also.symm.trans present)
    exact congrArg some (Prod.ext same.symm (read.unique stored))

theorem answers_around {name : String} {active : ActiveGrants}
    (around : fixture.Around keys source) :
    Check.answers (authorizer settings source).resolver now name = some active ↔
      ∃ organization grants, fixture.organization = some organization ∧
        organization.name = name ∧ organization.Holds keys grants ∧
          grants.active now = active := by
  constructor
  · intro told
    cases source with
    | none => cases told
    | some named =>
      obtain ⟨organization, present, same, stored⟩ := around
      by_cases asked : name = named.1
      · simp [Check.answers, authorizer, resolver, asked, Except.toOption] at told
        exact ⟨organization, named.2, present, same.trans asked.symm, stored, told⟩
      · simp [Check.answers, authorizer, resolver, asked, Except.toOption] at told
  · rintro ⟨organization, grants, present, rfl, stored, rfl⟩
    rw [around.eq_some present stored]
    simp [Check.answers, authorizer, resolver, Except.toOption]

theorem organization_outcome (scope : permission.scope = .organization)
    (evaluated : fixture.evaluate settings caller permission now = .ok outcome) :
    ∃ organization grants, fixture.organization = some organization ∧
      organization.Holds settings.keys grants ∧
        outcome.directRole = caller.bestRole (grants.active now) ∧
          (outcome.decision = .allowed ↔ grants.Permit caller permission now) := by
  obtain ⟨name, grants, around, rfl⟩ := (evaluate_organization scope).mp evaluated
  have ⟨organization, present, same, stored⟩ := around
  refine ⟨organization, grants, present, stored, rfl, ?_⟩
  refine Check.settle_allowed.trans (Check.organization_allows.trans ?_)
  rw [scope, eq_self, true_and]
  have told : Check.answers (authorizer settings (some (name, grants))).resolver now name =
      some (grants.active now) :=
    (answers_around around).mpr ⟨organization, grants, present, same, stored, rfl⟩
  simp only [told, Option.some.injEq, exists_eq_left', active_permit]

theorem project_outcome (scope : permission.scope = .project)
    (evaluated : fixture.evaluate settings caller permission now = .ok outcome) :
    ∃ project grants, fixture.project = some project ∧
      project.Holds settings.keys grants ∧
        outcome.directRole = caller.bestRole (grants.active now) ∧
          (outcome.decision = .allowed ↔ grants.Permit caller permission now ∨
            settings.organizationCascade = true ∧ ∃ verb organization outer,
              permission = .project verb ∧ fixture.organization = some organization ∧
                organization.Holds settings.keys outer ∧
                  outer.Permit caller (.organization verb) now) := by
  obtain ⟨source, _, around, loaded, rfl⟩ := (evaluate_project scope).mp evaluated
  obtain ⟨project, grants, present, stored, rfl⟩ := loadProject_eq_ok.mp loaded
  refine ⟨project, grants, present, stored, rfl, ?_⟩
  refine Check.settle_allowed.trans (Check.project_allows.trans ?_)
  rw [scope, eq_self, true_and]
  refine or_congr_right (and_congr_right fun _ => ?_)
  simp only [answers_around around]
  constructor
  · rintro ⟨verb, name, _, rfl, -, ⟨organization, outer, there, -, read, rfl⟩, permit⟩
    exact ⟨verb, organization, outer, rfl, there, read, active_permit.mp permit⟩
  · rintro ⟨verb, organization, outer, rfl, there, read, permit⟩
    exact ⟨verb, organization.name, _, rfl, by simp [there],
      ⟨organization, outer, there, rfl, read, rfl⟩, active_permit.mpr permit⟩

theorem secret_outcome (scope : permission.scope = .secret)
    (evaluated : fixture.evaluate settings caller permission now = .ok outcome) :
    ∃ secret project grants outer, fixture.secret = some secret ∧
      secret.Holds settings.keys grants ∧ fixture.project = some project ∧
        project.Holds settings.keys outer ∧
          outcome.directRole = caller.bestRole (grants.active now) ∧
            (outcome.decision = .allowed ↔ grants.Permit caller permission now ∨
              ∃ verb container, permission = .secret verb ∧ StandsIn container verb ∧
                outer.Permit caller (.project container) now) := by
  obtain ⟨source, _, -, loaded, rfl⟩ := (evaluate_secret scope).mp evaluated
  obtain ⟨secret, grants, _, present, stored, inside, rfl⟩ := loadSecret_eq_ok.mp loaded
  obtain ⟨project, outer, around, read, rfl⟩ := loadProject_eq_ok.mp inside
  refine ⟨secret, project, grants, outer, present, stored, around, read, rfl, ?_⟩
  refine Check.secret_allowed.trans ?_
  rw [scope, eq_self, true_and]

theorem direct_outcome
    (evaluated : fixture.evaluate settings caller permission now = .ok outcome) :
    ∃ target grants, fixture.resource? permission.scope = some target ∧
      target.Holds settings.keys grants ∧
        outcome.directRole = caller.bestRole (grants.active now) ∧
          (outcome.directRole.grants permission = true → outcome.decision = .allowed) := by
  have enough : ∀ grants : ResourceGrants,
      outcome.directRole = caller.bestRole (grants.active now) →
        outcome.directRole.grants permission = true → grants.Permit caller permission now := by
    intro grants best carries
    rw [best] at carries
    exact decide_active_allowed.mp (decide_bestRole.mpr carries)
  cases scope : permission.scope with
  | organization =>
    obtain ⟨target, grants, present, stored, best, allowed⟩ :=
      organization_outcome scope evaluated
    exact ⟨target, grants, present, stored, best, fun carries =>
      allowed.mpr (enough grants best carries)⟩
  | project =>
    obtain ⟨target, grants, present, stored, best, allowed⟩ := project_outcome scope evaluated
    exact ⟨target, grants, present, stored, best, fun carries =>
      allowed.mpr (Or.inl (enough grants best carries))⟩
  | secret =>
    obtain ⟨target, _, grants, _, present, stored, -, -, best, allowed⟩ :=
      secret_outcome scope evaluated
    exact ⟨target, grants, present, stored, best, fun carries =>
      allowed.mpr (Or.inl (enough grants best carries))⟩

end Fixture
end ScopedGrants
