import ScopedGrants.Proofs.Access.Authorizer
import ScopedGrants.Proofs.Cluster.FailClosed
import ScopedGrants.Proofs.Cluster.Memory
import ScopedGrants.Proofs.Fixture

/-!
Checks on a fixture as rehearsals. In a cluster with the resources of the fixture, tied together by
labels, the same check comes to the same decision.
-/

namespace ScopedGrants

open Cluster CommandLine Config

def Cluster.Memory.place (memory : Memory) (ref : String → Ref) (labels : SortedMap String String) :
    Option FixtureResource → Memory
  | none => memory
  | some resource => memory.add (ref resource.name) labels resource.annotations

namespace Fixture

def ties (fixture : Fixture) (labels : LabelKeys) : SortedMap String String :=
  let tie := fixture.organization.map fun organization => (labels.organization, organization.name)
  .ofList tie.toList

/-- The resources as objects of a cluster, with the secret in the project. -/
def cluster (fixture : Fixture) (labels : LabelKeys) : Memory :=
  let around := ({} : Memory).place .space .empty fixture.organization
  match fixture.project with
  | none => around
  | some project =>
    let inside := around.add (.space project.name) (fixture.ties labels) project.annotations
    inside.place (.secret project.name) .empty fixture.secret

/-- How a cluster is asked about the resource of a scope: its namespace, and its name if it is a
secret. -/
def address (fixture : Fixture) : Scope → Option (String × Option String)
  | .organization => fixture.organization.map fun organization => (organization.name, none)
  | .project => fixture.project.map fun project => (project.name, none)
  | .secret => do
    let project ← fixture.project
    let secret ← fixture.secret
    return (project.name, some secret.name)

/-- The organization has a name, which is not the project's. -/
def NamesApart (fixture : Fixture) : Prop :=
  ∀ organization, fixture.organization = some organization → organization.name ≠ "" ∧
    ∀ project, fixture.project = some project → project.name ≠ organization.name

end Fixture

namespace Cluster

/-! ### The cluster of a fixture -/

def Memory.Has (memory : Memory) (ref : Ref) (labels : SortedMap String String)
    (annotations : Annotations) : Prop :=
  ∃ object, memory.find? ref = some object ∧ object.labels = some labels ∧
    object.annotations = some annotations

namespace Memory

variable {memory : Memory} {ref other : Ref} {labels others : SortedMap String String}
  {annotations kept : Annotations}

theorem add_eq_put (memory : Memory) (ref : Ref) (labels : SortedMap String String)
    (annotations : Annotations) : ∃ object : Object, object.labels = some labels ∧
      object.annotations = some annotations ∧
        memory.add ref labels annotations = memory.put object ref := by
  cases ref <;> exact ⟨_, rfl, rfl, rfl⟩

theorem has_add : (memory.add ref labels annotations).Has ref labels annotations := by
  obtain ⟨object, labelled, annotated, same⟩ := memory.add_eq_put ref labels annotations
  refine ⟨object, ?_, labelled, annotated⟩
  rw [same, find?_put, if_pos rfl]

theorem Has.add (has : memory.Has other others kept) (apart : ref ≠ other) :
    (memory.add ref labels annotations).Has other others kept := by
  obtain ⟨object, found, labelled, annotated⟩ := has
  obtain ⟨_, -, -, same⟩ := memory.add_eq_put ref labels annotations
  refine ⟨object, ?_, labelled, annotated⟩
  rw [same, find?_put, if_neg apart, found]

theorem add_willing (willing : memory.refusal = none) :
    (memory.add ref labels annotations).refusal = none := by
  cases ref <;> exact willing

theorem has_place {ref : String → Ref} {resource : FixtureResource} :
    (memory.place ref labels (some resource)).Has (ref resource.name) labels
      resource.annotations := has_add

theorem Has.place {ref : String → Ref} {resource : Option FixtureResource}
    (has : memory.Has other others kept) (apart : ∀ name, ref name ≠ other) :
    (memory.place ref labels resource).Has other others kept := by
  cases resource with
  | none => exact has
  | some resource => exact has.add (apart resource.name)

theorem place_willing {ref : String → Ref} {resource : Option FixtureResource}
    (willing : memory.refusal = none) : (memory.place ref labels resource).refusal = none := by
  cases resource with
  | none => exact willing
  | some resource => exact add_willing willing

theorem Has.found {keys : GrantKeys} {object : Object} {grants : ResourceGrants}
    (has : memory.Has ref labels annotations) (willing : memory.refusal = none) :
    Found memory.still keys ref object grants ↔ memory.find? ref = some object ∧
      object.labels = some labels ∧ grants.StoredIn keys annotations := by
  obtain ⟨present, there, labelled, annotated⟩ := has
  rw [Found, still_fetch_ok, willing, there]
  constructor
  · rintro ⟨⟨-, same⟩, stored⟩
    obtain rfl := Option.some.inj same
    rw [Object.annotationMap, annotated] at stored
    exact ⟨rfl, labelled, stored⟩
  · rintro ⟨same, -, stored⟩
    obtain rfl := Option.some.inj same
    rw [Object.annotationMap, annotated]
    exact ⟨⟨rfl, rfl⟩, stored⟩

theorem Has.exists_found {keys : GrantKeys} {grants : ResourceGrants}
    (has : memory.Has ref labels annotations) (willing : memory.refusal = none)
    (stored : grants.StoredIn keys annotations) :
    ∃ object, Found memory.still keys ref object grants ∧ object.labels = some labels := by
  have ⟨object, there, labelled, _⟩ := has
  exact ⟨object, (has.found willing).mpr ⟨there, labelled, stored⟩, labelled⟩

end Memory

theorem cluster_willing (fixture : Fixture) (labels : LabelKeys) :
    (fixture.cluster labels).refusal = none := by
  unfold Fixture.cluster
  split
  · exact Memory.place_willing rfl
  · exact Memory.place_willing (Memory.add_willing (Memory.place_willing rfl))

variable {fixture : Fixture} {labels : LabelKeys} {organization project secret : FixtureResource}

theorem cluster_organization (apart : fixture.NamesApart)
    (present : fixture.organization = some organization) :
    (fixture.cluster labels).Has (.space organization.name) .empty organization.annotations := by
  have placed : (({} : Memory).place .space .empty fixture.organization).Has
      (.space organization.name) .empty organization.annotations := by
    rw [present]
    exact Memory.has_place
  unfold Fixture.cluster
  split
  case h_1 => exact placed
  case h_2 project inside =>
    have other : Ref.space project.name ≠ .space organization.name :=
      mt Ref.space.inj ((apart organization present).2 project inside)
    exact (placed.add other).place fun _ => Ref.noConfusion

theorem cluster_project (present : fixture.project = some project) :
    (fixture.cluster labels).Has (.space project.name) (fixture.ties labels)
      project.annotations := by
  simp only [Fixture.cluster, present]
  exact Memory.has_add.place fun _ => Ref.noConfusion

theorem cluster_secret (inside : fixture.project = some project)
    (present : fixture.secret = some secret) :
    (fixture.cluster labels).Has (.secret project.name secret.name) .empty
      secret.annotations := by
  simp only [Fixture.cluster, inside, present]
  exact Memory.has_place

/-! ### Labels -/

theorem links_ties {object : Object} {name : String} (apart : fixture.NamesApart)
    (labelled : object.labels = some (fixture.ties labels)) :
    object.Links labels.organization name ↔
      ∃ organization, fixture.organization = some organization ∧ organization.name = name := by
  rw [Object.Links, labelled, Option.bind_some, Fixture.ties, SortedMap.get?_ofList]
  cases present : fixture.organization with
  | none => simp
  | some organization =>
    have named := (apart organization present).1
    constructor
    · rintro ⟨found, -⟩
      exact ⟨organization, rfl, by simpa using found⟩
    · rintro ⟨_, ⟨⟩, rfl⟩
      exact ⟨by simp, named⟩

theorem unlabelled_inProject {object : Object} (unlabelled : object.labels = some .empty)
    (key space : String) : object.InProject key space space := by
  refine Or.inr ⟨?_, rfl⟩
  rintro ⟨name, linked, -⟩
  rw [unlabelled] at linked
  cases linked

/-! ### Checks -/

theorem clusterDecision_readOnly (config : Resolved) (space : String) (secret : Option String)
    (query : Query) (now : Instant) : (clusterDecision config space secret query now).ReadOnly := by
  unfold clusterDecision
  dsimp only
  split
  · exact (Store.checkOrganization_readOnly _ _ _ _ now).map _
  · exact (Store.checkProject_readOnly _ _ _ _ _ now).map _
  · exact .done _
  · exact (Store.checkSecret_readOnly _ _ _ _ _ now).map _

theorem outcome_still (memory : Memory) (config : Resolved) (space : String)
    (secret : Option String) (query : Query) (now : Instant) :
    memory.outcome (clusterDecision config space secret query now) =
      outcome memory.still config space secret query now :=
  Memory.outcome_readOnly (clusterDecision_readOnly config space secret query now) memory

theorem eq_ok_of_allowed {result : Except RunError Decision} {decision : Decision}
    {permitted : Prop} (direct : decision = .allowed ↔ permitted)
    (reached : ∃ other, result = .ok other ∧ (other = .allowed ↔ permitted)) :
    result = .ok decision := by
  obtain ⟨other, ran, allowed⟩ := reached
  rw [ran, Decision.eq_of_allowed_iff (allowed.trans direct.symm)]

variable {config : Resolved} {query : Query} {now : Instant} {told : Fixture.Outcome}

theorem organization_rehearsed (apart : fixture.NamesApart)
    (scope : query.permission.scope = .organization)
    (evaluated : fixture.evaluate config.access query.caller query.permission now = .ok told) :
    ∃ space secret, fixture.address .organization = some (space, secret) ∧
      outcome (fixture.cluster config.labels).still config space secret query now =
        .ok told.decision := by
  obtain ⟨organization, grants, present, stored, -, direct⟩ :=
    Fixture.organization_outcome scope evaluated
  refine ⟨organization.name, none, by rw [Fixture.address, present]; rfl, ?_⟩
  have willing := cluster_willing fixture config.labels
  obtain ⟨object, found, -⟩ := (cluster_organization apart present).exists_found willing stored
  refine eq_ok_of_allowed (direct.trans ?_) (outcome_organization scope)
  constructor
  · intro permit
    exact ⟨object, grants, found, permit⟩
  · rintro ⟨_, others, also, permit⟩
    have same : grants = others := found.unique also
    rwa [same]

theorem project_rehearsed (apart : fixture.NamesApart)
    (scope : query.permission.scope = .project)
    (evaluated : fixture.evaluate config.access query.caller query.permission now = .ok told) :
    ∃ space secret, fixture.address .project = some (space, secret) ∧
      outcome (fixture.cluster config.labels).still config space secret query now =
        .ok told.decision := by
  obtain ⟨project, grants, present, stored, -, direct⟩ := Fixture.project_outcome scope evaluated
  refine ⟨project.name, none, by rw [Fixture.address, present]; rfl, ?_⟩
  have willing := cluster_willing fixture config.labels
  obtain ⟨object, found, labelled⟩ := (cluster_project present).exists_found willing stored
  refine eq_ok_of_allowed (direct.trans ?_) (outcome_project_found scope found)
  refine or_congr_right (and_congr_right fun _ => ?_)
  -- The label leads to the organization of the fixture, and its own object is found there.
  simp only [links_ties apart labelled]
  constructor
  · rintro ⟨verb, organization, outer, same, there, read, permit⟩
    obtain ⟨object, around, -⟩ := (cluster_organization apart there).exists_found willing read
    exact ⟨verb, organization.name, object, outer, same, ⟨organization, there, rfl⟩, around, permit⟩
  · rintro ⟨verb, _, object, outer, same, ⟨organization, there, rfl⟩, around, permit⟩
    obtain ⟨-, -, read⟩ := ((cluster_organization apart there).found willing).mp around
    exact ⟨verb, organization, outer, same, there, read, permit⟩

theorem secret_rehearsed (scope : query.permission.scope = .secret)
    (evaluated : fixture.evaluate config.access query.caller query.permission now = .ok told) :
    ∃ space secret, fixture.address .secret = some (space, secret) ∧
      outcome (fixture.cluster config.labels).still config space secret query now =
        .ok told.decision := by
  obtain ⟨secret, project, grants, outer, present, stored, inside, read, -, direct⟩ :=
    Fixture.secret_outcome scope evaluated
  refine ⟨project.name, some secret.name, by rw [Fixture.address, inside, present]; rfl, ?_⟩
  have willing := cluster_willing fixture config.labels
  obtain ⟨object, own, unlabelled⟩ := (cluster_secret inside present).exists_found willing stored
  obtain ⟨home, around, -⟩ := (cluster_project inside).exists_found willing read
  have lies := unlabelled_inProject unlabelled config.labels.project project.name
  exact eq_ok_of_allowed direct
    (outcome_secret_found scope ⟨object, project.name, home, own, lies, around⟩)

end Cluster

namespace Fixture

/-- A check on a fixture has an outcome exactly if what it reads is there and readable. The outcome
has the caller's best role on the resource itself, which is enough where it carries the permission,
and the decision that the check comes to in the fixture's cluster. -/
theorem evaluate_rehearses (fixture : Fixture) (config : Resolved) (query : Query)
    (now : Instant) :
    ((∃ told, fixture.evaluate config.access query.caller query.permission now = .ok told) ↔
      fixture.Readable config.access.keys query.permission.scope) ∧
    ∀ told, fixture.evaluate config.access query.caller query.permission now = .ok told →
      (∃ target grants, fixture.resource? query.permission.scope = some target ∧
        target.Holds config.access.keys grants ∧
          told.directRole = query.caller.bestRole (grants.active now) ∧
            (told.directRole.grants query.permission = true → told.decision = .allowed)) ∧
      (fixture.NamesApart → ∃ space secret,
        fixture.address query.permission.scope = some (space, secret) ∧
          (fixture.cluster config.labels).outcome
            (clusterDecision config space secret query now) = .ok told.decision) := by
  refine ⟨exists_outcome_iff, fun told evaluated => ⟨direct_outcome evaluated, fun apart => ?_⟩⟩
  simp only [Cluster.outcome_still]
  cases scope : query.permission.scope with
  | organization => exact Cluster.organization_rehearsed apart scope evaluated
  | project => exact Cluster.project_rehearsed apart scope evaluated
  | secret => exact Cluster.secret_rehearsed scope evaluated

/-- A project without grants in an organization with an owner. -/
def acme : Fixture where
  organization := some ⟨"acme", .ofList [("warden.dev/user-grants", "[[\"ann\",\"owner\"]]")]⟩
  project := some ⟨"shop", .empty⟩

theorem evaluate_rehearses_acme :
    (acme.cluster {}).outcome (clusterDecision {} "shop" none ⟨{ email := "Ann" },
      .project .read, none⟩ 7) = .ok .allowed := by
  have evaluated : acme.evaluate {} { email := "Ann" } (.project .read) 7 =
      .ok ⟨.allowed, .unspecified⟩ := by
    decide +kernel
  have apart : acme.NamesApart := by
    rintro _ ⟨⟩
    refine ⟨by decide, ?_⟩
    rintro _ ⟨⟩
    decide
  obtain ⟨_, _, ⟨⟩, agreed⟩ := ((evaluate_rehearses acme {} ⟨{ email := "Ann" },
    .project .read, none⟩ 7).2 _ evaluated).2 apart
  exact agreed

end Fixture
end ScopedGrants
