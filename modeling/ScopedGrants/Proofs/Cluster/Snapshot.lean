import ScopedGrants.CommandLine.Run
import ScopedGrants.Proofs.Access.Check
import ScopedGrants.Proofs.Cluster.Program
import ScopedGrants.Proofs.Grant.Annotations

/-!
Checks on a cluster that stays as it is. What cannot be fetched or read is an error or, where an
organization's grants are asked for, counts as nothing, and a check is allowed by live records on
objects that were read, never for want of one.
-/

namespace ScopedGrants.Cluster

/-! ### Reading objects -/

/-- The object has the label, with a value that is not empty. -/
def Object.Links (key : String) (object : Object) (name : String) : Prop :=
  object.labels.bind (·.get? key) = some name ∧ name ≠ ""

/-- The project of a secret: the one that it links to, or else the namespace that it lies in. -/
def Object.InProject (key space : String) (object : Object) (name : String) : Prop :=
  object.Links key name ∨ (¬ ∃ other, object.Links key other) ∧ name = space

/-- The client brings the object, and the grants on it can be read. -/
def Found (client : Client Id) (keys : GrantKeys) (ref : Ref) (object : Object)
    (grants : ResourceGrants) : Prop :=
  client (.fetch ref) = .ok object ∧ grants.StoredIn keys object.annotationMap

/-- The client brings the secret and its project, and the grants on both can be read. -/
def FoundSecret (client : Client Id) (keys : GrantKeys) (labels : LabelKeys) (space name : String)
    (grants outer : ResourceGrants) : Prop :=
  ∃ object home around, Found client keys (.secret space name) object grants ∧
    object.InProject labels.project space home ∧ Found client keys (.space home) around outer

theorem label?_eq_some {object : Object} {key name : String} :
    object.label? key = some name ↔ object.Links key name := by
  simp [Object.label?, Object.Links, Option.filter_eq_some_iff]

theorem label?_getD {object : Object} {key space name : String} :
    (object.label? key).getD space = name ↔ object.InProject key space name := by
  simp only [Object.InProject, ← label?_eq_some]
  cases object.label? key <;> simp [eq_comm]

variable {α : Type} {client : Client Id} {keys : GrantKeys} {ref : Ref} {object : Object}
  {grants : ResourceGrants}

theorem Found.unique {other : Object} {others : ResourceGrants}
    (found : Found client keys ref object grants) (also : Found client keys ref other others) :
    grants = others := by
  obtain rfl := Except.ok.inj (found.1.symm.trans also.1)
  exact found.2.unique also.2

theorem grants_run : (Action.grants keys object).run.run client =
    (ResourceGrants.ofAnnotations keys object.annotationMap).mapError .malformed := rfl

theorem fetch_found (found : Found client keys ref object grants)
    (next : Object → ResourceGrants → Action α) :
    (do let object ← Action.fetch ref
        let grants ← Action.grants keys object
        next object grants).run.run client = (next object grants).run.run client := by
  obtain ⟨brought, stored⟩ := found
  have read : (Action.grants keys object).run.run client = .ok grants := by
    rw [grants_run, ResourceGrants.ofAnnotations_eq_ok.mpr stored]
    rfl
  have fetched : (Action.fetch ref).run.run client = .ok object := brought
  exact (Action.run_bind_ok fetched).trans (Action.run_bind_ok read)

theorem fetch_missing (missing : ¬ ∃ object grants, Found client keys ref object grants)
    (next : Object → ResourceGrants → Action α) :
    ∃ failure, (do
      let object ← Action.fetch ref
      let grants ← Action.grants keys object
      next object grants).run.run client = .error failure := by
  cases fetched : (Action.fetch ref).run.run client with
  | error failure => exact ⟨failure, Action.run_bind_error fetched⟩
  | ok object =>
    cases read : ResourceGrants.ofAnnotations keys object.annotationMap with
    | error error =>
      have failed : (Action.grants keys object).run.run client = .error (.malformed error) := by
        rw [grants_run, read]
        rfl
      exact ⟨_, (Action.run_bind_ok fetched).trans (Action.run_bind_error failed)⟩
    | ok grants =>
      have stored := ResourceGrants.ofAnnotations_eq_ok.mp read
      exact absurd ⟨object, grants, fetched, stored⟩ missing

/-! ### Loading resources -/

namespace Store

variable {store : Store} {caller : Caller} {permission : Permission} {now : Instant}

theorem loadProject_found {name : String}
    (found : Found client store.keys (.space name) object grants) :
    (store.loadProject name).run.run client =
      .ok ⟨name, object.label? store.labels.organization, grants⟩ :=
  fetch_found found _

theorem loadProject_missing {name : String}
    (missing : ¬ ∃ object grants, Found client store.keys (.space name) object grants) :
    ∃ failure, (store.loadProject name).run.run client = .error failure :=
  fetch_missing missing _

theorem loadSecret_found {space name : String} {outer : ResourceGrants}
    (found : FoundSecret client store.keys store.labels space name grants outer) :
    ∃ secret : Secret, (store.loadSecret space name).run.run client = Except.ok secret ∧
      secret.grants = grants ∧ secret.project.grants = outer := by
  obtain ⟨object, home, around, own, inside, project⟩ := found
  refine ⟨⟨name, grants, ⟨home, around.label? store.labels.organization, outer⟩⟩, ?_, rfl, rfl⟩
  refine (fetch_found own _).trans ?_
  rw [label?_getD.mpr inside]
  exact Action.run_bind_ok (loadProject_found project)

theorem loadSecret_missing {space name : String}
    (missing : ¬ ∃ grants outer,
      FoundSecret client store.keys store.labels space name grants outer) :
    ∃ failure, (store.loadSecret space name).run.run client = .error failure := by
  by_cases own : ∃ object grants, Found client store.keys (.secret space name) object grants
  · obtain ⟨object, grants, found⟩ := own
    have homeless : ¬ ∃ around outer, Found client store.keys
        (.space ((object.label? store.labels.project).getD space)) around outer :=
      fun ⟨around, outer, project⟩ =>
        missing ⟨grants, outer, object, _, around, found, label?_getD.mp rfl, project⟩
    obtain ⟨failure, failed⟩ := loadProject_missing homeless
    exact ⟨failure, (fetch_found found _).trans (Action.run_bind_error failed)⟩
  · exact fetch_missing own _

/-! ### Checking permissions -/

theorem organizationGrants_eq (name : String) :
    store.organizationGrants name = Action.fetch (.space name) >>= fun object =>
      Action.grants store.keys object >>= pure := by
  simp only [organizationGrants, bind_pure]

def known (store : Store) (client : Client Id) (now : Instant) (name : String) :
    Option ActiveGrants :=
  match (store.organizationGrants name).run.run client with
  | .ok grants => some (grants.active now)
  | .error _ => none

theorem known_eq_some {name : String} {active : ActiveGrants} :
    store.known client now name = some active ↔ ∃ object grants,
      Found client store.keys (.space name) object grants ∧ grants.active now = active := by
  rw [known, organizationGrants_eq]
  by_cases present : ∃ object grants, Found client store.keys (.space name) object grants
  · obtain ⟨object, grants, found⟩ := present
    rw [fetch_found found fun _ => pure]
    constructor
    · intro same
      exact ⟨object, grants, found, Option.some.inj same⟩
    · rintro ⟨other, others, also, rfl⟩
      rw [found.unique also]
      rfl
  · obtain ⟨failure, failed⟩ := fetch_missing present fun _ => pure
    rw [failed]
    constructor
    · intro impossible
      cases impossible
    · rintro ⟨object, grants, found, -⟩
      exact absurd ⟨object, grants, found⟩ present

/-- Every failure to look an organization up denies what would have hung on it. -/
theorem settle_allowed {check : Check} :
    (store.settle now check).run client = Decision.allowed ↔
      check.Allows (store.known client now) := by
  cases check with
  | decided decision => rfl
  | ask name resume =>
    cases answer : (store.organizationGrants name).run.run client with
    | error failure =>
      have silent : store.known client now name = none := by rw [known, answer]
      rw [settle, activeGrants, Program.run_bind, Program.run_bind, answer]
      show Decision.denied = Decision.allowed ↔ _
      simp [Check.Allows, silent]
    | ok grants =>
      have told : store.known client now name = some (grants.active now) := by rw [known, answer]
      rw [settle, activeGrants, Program.run_bind, Program.run_bind, answer]
      show resume (grants.active now) = Decision.allowed ↔ _
      simp [Check.Allows, told]

end Store

end ScopedGrants.Cluster
