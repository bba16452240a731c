import ScopedGrants.Proofs.Cluster.Alike
import ScopedGrants.Proofs.Cluster.Snapshot
import ScopedGrants.Proofs.Config.Validation

/-!
Saving grants on an object. It then holds exactly what was saved, whatever its annotations said
before, and nothing else about the cluster has changed. What is saved as it was loaded makes no
difference to anything that is loaded or decided from then on.
-/

namespace ScopedGrants

namespace Cluster

variable {α : Type} {keys : GrantKeys} {ref : Ref} {object : Object} {memory : Memory}

/-! ### One object with other grants -/

/-- The later state differs from the earlier one in nothing but the grants on an object. -/
structure Regranted (keys : GrantKeys) (ref : Ref) (before after : Memory) : Prop where
  object : ∃ old new, before.find? ref = some old ∧ after.find? ref = some new ∧
    new.name = old.name ∧ new.space = old.space ∧ new.labels = old.labels ∧
    ∀ key, key ≠ keys.user → key ≠ keys.group →
      new.annotationMap.get? key = old.annotationMap.get? key
  others : ∀ other, other ≠ ref → after.find? other = before.find? other
  refusal : after.refusal = before.refusal

theorem regranted_put (keys : GrantKeys) (found : memory.find? ref = some object)
    (grants : ResourceGrants) :
    Regranted keys ref memory
      (memory.called.put (object.annotate (grants.toAnnotations keys)) ref) where
  object := by
    refine ⟨object, _, found, (Memory.find?_put ..).trans (if_pos rfl), rfl, rfl, rfl, ?_⟩
    intro key other_user other_group
    rw [get?_annotate, ResourceGrants.get?_toAnnotations, if_neg other_group.symm,
      if_neg other_user.symm, Option.none_or]
  others other different := (Memory.find?_put ..).trans (if_neg different.symm)
  refusal := put_refusal _ _ ref

theorem alike_regranted (apart : keys.user ≠ keys.group) (found : memory.find? ref = some object)
    {grants : ResourceGrants} (stored : grants.StoredIn keys object.annotationMap) :
    Memory.Alike keys memory
      (memory.called.put (object.annotate (grants.toAnnotations keys)) ref) where
  refusal := (put_refusal memory.called _ ref).symm
  objects other := by
    rw [Memory.find?_put]
    split
    case isTrue same =>
      subst same
      rw [found]
      refine .some ⟨rfl, ?_⟩
      rw [ResourceGrants.ofAnnotations_eq_ok.mpr stored,
        ResourceGrants.ofAnnotations_eq_ok.mpr (storedIn_annotate apart object grants)]
    case isFalse =>
      show Option.Rel _ (memory.find? other) (memory.find? other)
      cases memory.find? other with
      | none => exact .none
      | some kept => exact .some ⟨rfl, rfl⟩

/-! ### Loads that succeed -/

theorem fetch_ok {client : Client Id} {next : Object → ResourceGrants → Action α} {value : α}
    (ran : (do
      let object ← Action.fetch ref
      let grants ← Action.grants keys object
      next object grants).run.run client = .ok value) :
    ∃ object grants, Found client keys ref object grants ∧
      (next object grants).run.run client = .ok value := by
  by_cases present : ∃ object grants, Found client keys ref object grants
  · obtain ⟨object, grants, found⟩ := present
    exact ⟨object, grants, found, (fetch_found found next).symm.trans ran⟩
  · obtain ⟨failure, failed⟩ := fetch_missing present next
    cases failed.symm.trans ran

namespace Store

variable (store : Store)

theorem loadProject_ok {client : Client Id} {name : String} {project : Project}
    (ran : (store.loadProject name).run.run client = .ok project) :
    ∃ object, Found client store.keys (.space name) object project.grants ∧
      project = ⟨name, object.label? store.labels.organization, project.grants⟩ := by
  obtain ⟨object, grants, found, same⟩ := fetch_ok ran
  cases same
  exact ⟨object, found, rfl⟩

theorem organizationGrants_ok {client : Client Id} {name : String} {grants : ResourceGrants}
    (ran : (store.organizationGrants name).run.run client = .ok grants) :
    ∃ object, Found client store.keys (.space name) object grants := by
  rw [organizationGrants_eq] at ran
  obtain ⟨object, held, found, same⟩ := fetch_ok ran
  cases same
  exact ⟨object, found⟩

theorem loadSecret_ok {client : Client Id} {space name : String} {secret : Secret}
    (ran : (store.loadSecret space name).run.run client = .ok secret) :
    ∃ object, Found client store.keys (.secret space name) object secret.grants := by
  obtain ⟨object, grants, found, same⟩ := fetch_ok ran
  refine ⟨object, ?_⟩
  cases loaded : (store.loadProject
      ((object.label? store.labels.project).getD space)).run.run client with
  | error failure => cases (Action.run_bind_error loaded).symm.trans same
  | ok project =>
    cases (Action.run_bind_ok loaded).symm.trans same
    exact found

/-! ### Saving -/

theorem outcome_save (willing : memory.refusal = none) (found : memory.find? ref = some object)
    (grants : ResourceGrants) : memory.outcome (store.save ref grants).run = .ok () :=
  congrArg Prod.fst
    (Memory.answer_found (.annotate ref (grants.toAnnotations store.keys)) willing found)

theorem after_save (willing : memory.refusal = none) (found : memory.find? ref = some object)
    (grants : ResourceGrants) :
    memory.after (store.save ref grants).run =
      memory.called.put (object.annotate (grants.toAnnotations store.keys)) ref :=
  congrArg Prod.snd
    (Memory.answer_found (.annotate ref (grants.toAnnotations store.keys)) willing found)

theorem found_after_save (apart : store.keys.user ≠ store.keys.group)
    (willing : memory.refusal = none) (found : memory.find? ref = some object)
    (grants : ResourceGrants) :
    Found (memory.after (store.save ref grants).run).still store.keys ref
      (object.annotate (grants.toAnnotations store.keys)) grants := by
  rw [store.after_save willing found]
  refine ⟨Memory.still_fetch_ok.mpr ⟨?_, ?_⟩, storedIn_annotate apart object grants⟩
  · exact (put_refusal memory.called _ ref).trans willing
  · exact (Memory.find?_put ..).trans (if_pos rfl)

theorem save_regranted (willing : memory.refusal = none) (found : memory.find? ref = some object)
    (grants : ResourceGrants) :
    Regranted store.keys ref memory (memory.after (store.save ref grants).run) := by
  rw [store.after_save willing found]
  exact regranted_put store.keys found grants

theorem loadProject_saved (apart : store.keys.user ≠ store.keys.group)
    (willing : memory.refusal = none) {name : String}
    (found : memory.find? (.space name) = some object) (grants : ResourceGrants) :
    (memory.after (store.save (.space name) grants).run).outcome (store.loadProject name).run =
      .ok ⟨name, object.label? store.labels.organization, grants⟩ := by
  rw [Memory.outcome_readOnly (store.loadProject_readOnly name)]
  exact fetch_found (store.found_after_save apart willing found grants) _

theorem organizationGrants_saved (apart : store.keys.user ≠ store.keys.group)
    (willing : memory.refusal = none) {name : String}
    (found : memory.find? (.space name) = some object) (grants : ResourceGrants) :
    (memory.after (store.save (.space name) grants).run).outcome
      (store.organizationGrants name).run = .ok grants := by
  rw [Memory.outcome_readOnly (store.organizationGrants_readOnly name), organizationGrants_eq]
  exact fetch_found (store.found_after_save apart willing found grants) _

/-- The project of a secret is loaded as before, as it is another object. -/
theorem loadSecret_saved (apart : store.keys.user ≠ store.keys.group)
    (willing : memory.refusal = none) {space name : String}
    (found : memory.find? (.secret space name) = some object) {project : Project}
    (loaded : memory.outcome
      (store.loadProject ((object.label? store.labels.project).getD space)).run = .ok project)
    (grants : ResourceGrants) :
    (memory.after (store.save (.secret space name) grants).run).outcome
      (store.loadSecret space name).run = .ok ⟨name, grants, project⟩ := by
  rw [Memory.outcome_readOnly (store.loadProject_readOnly _)] at loaded
  rw [Memory.outcome_readOnly (store.loadSecret_readOnly space name)]
  obtain ⟨around, ⟨brought, stored⟩, same⟩ := store.loadProject_ok loaded
  have regranted := store.save_regranted willing found grants
  have outer : Found (memory.after (store.save (.secret space name) grants).run).still store.keys
      (.space ((object.label? store.labels.project).getD space)) around project.grants := by
    refine ⟨Memory.still_fetch_ok.mpr ⟨regranted.refusal.trans willing, ?_⟩, stored⟩
    rw [regranted.others _ Ref.noConfusion]
    exact (Memory.still_fetch_ok.mp brought).2
  refine (fetch_found (store.found_after_save apart willing found grants) _).trans ?_
  rw [same]
  exact Action.run_bind_ok (loadProject_found outer)

def resave (ref : Ref) (load : Action α) (pick : α → ResourceGrants) : Action Unit := do
  store.save ref (pick (← load))

/-- The action succeeds, and whatever a store does brings the same after it as before. -/
def Unnoticed (memory : Memory) (action : Action Unit) : Prop :=
  memory.outcome action.run = .ok () ∧ ∀ α (program : Program α), store.Work program →
    (memory.after action.run).outcome program = memory.outcome program

theorem resave_unnoticed (apart : store.keys.user ≠ store.keys.group) {load : Action α}
    (readOnly : load.run.ReadOnly) {value : α} (loaded : memory.outcome load.run = .ok value)
    (pick : α → ResourceGrants) (found : Found memory.still store.keys ref object (pick value)) :
    store.Unnoticed memory (store.resave ref load pick) := by
  obtain ⟨brought, stored⟩ := found
  obtain ⟨willing, present⟩ := Memory.still_fetch_ok.mp brought
  obtain ⟨calls, left⟩ := memory.after_readOnly readOnly
  -- Loading only counts up, so the grants go back onto the object that they came from.
  have ready : (memory.after load.run).refusal = none := left ▸ willing
  have held : (memory.after load.run).find? ref = some object := left ▸ present
  have alike : Memory.Alike store.keys memory
      (memory.after (store.resave ref load pick).run) := by
    have regranted := alike_regranted apart held stored
    rw [resave, Memory.after_andThen loaded, store.after_save ready held]
    rw [left] at regranted ⊢
    exact ⟨regranted.refusal, regranted.objects⟩
  refine ⟨?_, fun α program work => ((work.steady apart) _ _ alike).1.symm⟩
  rw [resave, Memory.outcome_andThen loaded]
  exact store.outcome_save ready held _

/-- Saving is exact: it always succeeds, the next load finds what was saved, and nothing but the
grants has changed. What is saved as it was loaded makes no difference to anything a store does. -/
theorem save_exact :
    (∀ sources config, Config.resolve sources = .ok config →
      config.access.keys.user ≠ config.access.keys.group) ∧
    ∀ (store : Store) (memory : Memory), store.keys.user ≠ store.keys.group →
      memory.refusal = none →
      (∀ name object, memory.find? (.space name) = some object → ∀ grants,
        memory.outcome (store.save (.space name) grants).run = .ok () ∧
        let after := memory.after (store.save (.space name) grants).run
        Regranted store.keys (.space name) memory after ∧
        after.outcome (store.loadProject name).run =
          .ok ⟨name, object.label? store.labels.organization, grants⟩ ∧
        after.outcome (store.organizationGrants name).run = .ok grants) ∧
      (∀ space name object project, memory.find? (.secret space name) = some object →
        memory.outcome
          (store.loadProject ((object.label? store.labels.project).getD space)).run = .ok project →
        ∀ grants,
          memory.outcome (store.save (.secret space name) grants).run = .ok () ∧
          let after := memory.after (store.save (.secret space name) grants).run
          Regranted store.keys (.secret space name) memory after ∧
          after.outcome (store.loadSecret space name).run = .ok ⟨name, grants, project⟩) ∧
      (∀ name project, memory.outcome (store.loadProject name).run = .ok project →
        store.Unnoticed memory (store.resave (.space name) (store.loadProject name) (·.grants))) ∧
      (∀ name grants, memory.outcome (store.organizationGrants name).run = .ok grants →
        store.Unnoticed memory (store.resave (.space name) (store.organizationGrants name) id)) ∧
      (∀ space name secret, memory.outcome (store.loadSecret space name).run = .ok secret →
        store.Unnoticed memory
          (store.resave (.secret space name) (store.loadSecret space name) (·.grants))) := by
  refine ⟨fun sources config => Config.resolve_apart, fun store memory apart willing =>
    ⟨?_, ?_, ?_, ?_, ?_⟩⟩
  · intro name object found grants
    exact ⟨store.outcome_save willing found grants, store.save_regranted willing found grants,
      store.loadProject_saved apart willing found grants,
      store.organizationGrants_saved apart willing found grants⟩
  · intro space name object project found loaded grants
    exact ⟨store.outcome_save willing found grants, store.save_regranted willing found grants,
      store.loadSecret_saved apart willing found loaded grants⟩
  · intro name project loaded
    have readOnly := store.loadProject_readOnly name
    obtain ⟨object, found, -⟩ :=
      store.loadProject_ok ((Memory.outcome_readOnly readOnly memory).symm.trans loaded)
    exact store.resave_unnoticed apart readOnly loaded (·.grants) found
  · intro name grants loaded
    have readOnly := store.organizationGrants_readOnly name
    obtain ⟨object, found⟩ :=
      store.organizationGrants_ok ((Memory.outcome_readOnly readOnly memory).symm.trans loaded)
    exact store.resave_unnoticed apart readOnly loaded id found
  · intro space name secret loaded
    have readOnly := store.loadSecret_readOnly space name
    obtain ⟨object, found⟩ :=
      store.loadSecret_ok ((Memory.outcome_readOnly readOnly memory).symm.trans loaded)
    exact store.resave_unnoticed apart readOnly loaded (·.grants) found

/-- A namespace whose users cannot be read, with groups under the older key, and one that has
nothing but groups under the older key and a secret. -/
def cluttered : Memory where
  spaces := .ofList
    [("shop", { annotations := some (.ofList [("warden.dev/user-grants", "["),
        ("warden.dev/role-grants", Grants.write [{ principal := "crew", role := .owner }])]) }),
      ("site", { annotations := some (.ofList
        [("warden.dev/role-grants", Grants.write [{ principal := "crew", role := .owner }])]) })]
  secrets := .ofList [(("site", "key"), {})]

theorem save_exact_cluttered :
    (cluttered.after (save {} (.space "shop") ⟨[], []⟩).run).outcome (loadProject {} "shop").run =
      .ok ⟨"shop", none, ⟨[], []⟩⟩ ∧
    (cluttered.after (save {} (.secret "site" "key") ⟨[], []⟩).run).outcome
      (loadSecret {} "site" "key").run =
        .ok ⟨"key", ⟨[], []⟩, ⟨"site", none, ⟨[], [{ principal := "crew", role := .owner }]⟩⟩⟩ ∧
    Unnoticed {} cluttered (resave {} (.space "site") (loadProject {} "site") (·.grants)) := by
  obtain ⟨spaces, secrets, again, -⟩ := save_exact.2 {} cluttered (by decide) rfl
  have found : Found cluttered.still {} (.space "site")
      { annotations := some (.ofList
        [("warden.dev/role-grants", Grants.write [{ principal := "crew", role := .owner }])]) }
      ⟨[], [{ principal := "crew", role := .owner }]⟩ := ⟨rfl, rfl, Grants.read_write _ _⟩
  have loaded : cluttered.outcome (loadProject {} "site").run =
      .ok ⟨"site", none, ⟨[], [{ principal := "crew", role := .owner }]⟩⟩ := by
    rw [Memory.outcome_readOnly (loadProject_readOnly {} "site")]
    exact fetch_found found _
  exact ⟨(spaces "shop" _ rfl _).2.2.1, (secrets "site" "key" _ _ rfl loaded _).2.2,
    again "site" _ loaded⟩

end Store

end Cluster
end ScopedGrants
