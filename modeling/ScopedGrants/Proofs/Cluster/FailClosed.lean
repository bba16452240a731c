import ScopedGrants.Proofs.Cluster.Snapshot

/-!
A check on a cluster ends in the right one of error, denied and allowed. Objects that a check loads
must be there with grants that can be read. An organization's object need not be, but without it
nothing is allowed by it.
-/

namespace ScopedGrants.Cluster

open CommandLine Config

variable {client : Client Id} {caller : Caller} {permission : Permission} {now : Instant}

namespace Store

variable (store : Store) {object : Object} {grants : ResourceGrants}

theorem checkOrganization_allowed {name : String} :
    (store.checkOrganization caller name permission now).run client = Decision.allowed ↔
      permission.scope = .organization ∧ ∃ object grants,
        Found client store.keys (.space name) object grants ∧
          grants.Permit caller permission now := by
  rw [checkOrganization, settle_allowed, Check.organization_allows]
  refine and_congr_right fun _ => ?_
  simp only [known_eq_some]
  constructor
  · rintro ⟨active, ⟨object, grants, found, rfl⟩, permit⟩
    exact ⟨object, grants, found, active_permit.mp permit⟩
  · rintro ⟨object, grants, found, permit⟩
    exact ⟨_, ⟨object, grants, found, rfl⟩, active_permit.mpr permit⟩

theorem checkProject_found {cascade : Bool} {name : String}
    (found : Found client store.keys (.space name) object grants) :
    ∃ decision, (store.checkProject cascade caller name permission now).run.run client =
        Except.ok decision ∧
      (decision = .allowed ↔ permission.scope = .project ∧
        (grants.Permit caller permission now ∨ cascade = true ∧ ∃ verb parent organization outer,
          permission = .project verb ∧ object.Links store.labels.organization parent ∧
            Found client store.keys (.space parent) organization outer ∧
              outer.Permit caller (.organization verb) now)) := by
  refine ⟨(store.settle now (Check.project cascade caller
    ⟨name, object.label? store.labels.organization, grants⟩ permission now)).run client, ?_, ?_⟩
  · refine (Action.run_bind_ok (loadProject_found found)).trans ?_
    rw [ExceptT.run_lift, Program.run_map]
    rfl
  · rw [settle_allowed, Check.project_allows]
    refine and_congr_right fun _ => or_congr_right (and_congr_right fun _ => ?_)
    simp only [label?_eq_some, known_eq_some]
    constructor
    · rintro ⟨verb, parent, active, rfl, linked, ⟨organization, outer, around, rfl⟩, permit⟩
      exact ⟨verb, parent, organization, outer, rfl, linked, around, active_permit.mp permit⟩
    · rintro ⟨verb, parent, organization, outer, rfl, linked, around, permit⟩
      exact ⟨verb, parent, _, rfl, linked, ⟨organization, outer, around, rfl⟩,
        active_permit.mpr permit⟩

theorem checkProject_missing {cascade : Bool} {name : String}
    (missing : ¬ ∃ object grants, Found client store.keys (.space name) object grants) :
    ∃ failure, (store.checkProject cascade caller name permission now).run.run client =
      Except.error failure := by
  obtain ⟨failure, failed⟩ := loadProject_missing missing
  exact ⟨failure, Action.run_bind_error failed⟩

theorem checkSecret_found {space name : String} {outer : ResourceGrants}
    (found : FoundSecret client store.keys store.labels space name grants outer) :
    ∃ decision, (store.checkSecret caller space name permission now).run.run client =
        Except.ok decision ∧
      (decision = .allowed ↔ permission.scope = .secret ∧ (grants.Permit caller permission now ∨
        ∃ verb container, permission = .secret verb ∧ StandsIn container verb ∧
          outer.Permit caller (.project container) now)) := by
  obtain ⟨secret, loaded, rfl, rfl⟩ := loadSecret_found found
  exact ⟨Check.secret caller secret permission now, Action.run_bind_ok loaded,
    Check.secret_allowed⟩

theorem checkSecret_missing {space name : String}
    (missing : ¬ ∃ grants outer,
      FoundSecret client store.keys store.labels space name grants outer) :
    ∃ failure, (store.checkSecret caller space name permission now).run.run client =
      Except.error failure := by
  obtain ⟨failure, failed⟩ := loadSecret_missing missing
  exact ⟨failure, Action.run_bind_error failed⟩

end Store

def outcome (client : Client Id) (config : Resolved) (space : String) (secret : Option String)
    (query : Query) (now : Instant) : Except RunError Decision :=
  Id.run ((clusterDecision config space secret query now).run client)

variable {config : Resolved} {space : String} {secret : Option String} {query : Query}

/-! ### Organizations -/

theorem outcome_organization (scope : query.permission.scope = .organization) :
    ∃ decision, outcome client config space secret query now = .ok decision ∧
      (decision = .allowed ↔ ∃ object grants,
        Found client config.access.keys (.space space) object grants ∧
          grants.Permit query.caller query.permission now) := by
  refine ⟨Id.run ((Store.checkOrganization ⟨config.access.keys, config.labels⟩ query.caller space
    query.permission now).run client), ?_, ?_⟩
  · unfold outcome clusterDecision
    simp only [scope]
    exact Program.run_map client Except.ok _
  · refine (Store.checkOrganization_allowed _).trans ?_
    rw [scope]
    exact and_iff_right rfl

/-! ### Projects -/

theorem outcome_project (scope : query.permission.scope = .project) :
    outcome client config space secret query now = Except.mapError .cluster
      (Id.run ((Store.checkProject ⟨config.access.keys, config.labels⟩
        config.access.organizationCascade query.caller space query.permission
        now).run.run client)) := by
  unfold outcome clusterDecision
  simp only [scope]
  exact Program.run_map client (Except.mapError RunError.cluster) _

theorem outcome_project_found {object : Object} {grants : ResourceGrants}
    (scope : query.permission.scope = .project)
    (found : Found client config.access.keys (.space space) object grants) :
    ∃ decision, outcome client config space secret query now = .ok decision ∧
      (decision = .allowed ↔ grants.Permit query.caller query.permission now ∨
        config.access.organizationCascade = true ∧ ∃ verb parent organization outer,
          query.permission = .project verb ∧ object.Links config.labels.organization parent ∧
            Found client config.access.keys (.space parent) organization outer ∧
              outer.Permit query.caller (.organization verb) now) := by
  obtain ⟨decision, ran, allowed⟩ :=
    Store.checkProject_found ⟨config.access.keys, config.labels⟩ found
  rw [scope] at allowed
  rw [outcome_project scope, ran]
  exact ⟨decision, rfl, allowed.trans (and_iff_right rfl)⟩

theorem outcome_project_missing (scope : query.permission.scope = .project)
    (missing : ¬ ∃ object grants,
      Found client config.access.keys (.space space) object grants) :
    ∃ error, outcome client config space secret query now = .error error := by
  obtain ⟨failure, failed⟩ :=
    Store.checkProject_missing ⟨config.access.keys, config.labels⟩ missing
  rw [outcome_project scope, failed]
  exact ⟨.cluster failure, rfl⟩

/-! ### Secrets -/

theorem outcome_secret {name : String} (scope : query.permission.scope = .secret) :
    outcome client config space (some name) query now = Except.mapError .cluster
      (Id.run ((Store.checkSecret ⟨config.access.keys, config.labels⟩ query.caller space name
        query.permission now).run.run client)) := by
  unfold outcome clusterDecision
  simp only [scope]
  exact Program.run_map client (Except.mapError RunError.cluster) _

theorem outcome_secret_found {name : String} {grants outer : ResourceGrants}
    (scope : query.permission.scope = .secret)
    (found : FoundSecret client config.access.keys config.labels space name grants outer) :
    ∃ decision, outcome client config space (some name) query now = .ok decision ∧
      (decision = .allowed ↔ grants.Permit query.caller query.permission now ∨
        ∃ verb container, query.permission = .secret verb ∧ StandsIn container verb ∧
          outer.Permit query.caller (.project container) now) := by
  obtain ⟨decision, ran, allowed⟩ :=
    Store.checkSecret_found ⟨config.access.keys, config.labels⟩ found
  rw [scope] at allowed
  rw [outcome_secret scope, ran]
  exact ⟨decision, rfl, allowed.trans (and_iff_right rfl)⟩

theorem outcome_secret_missing (scope : query.permission.scope = .secret)
    (missing : ¬ ∃ name grants outer, secret = some name ∧
      FoundSecret client config.access.keys config.labels space name grants outer) :
    ∃ error, outcome client config space secret query now = .error error := by
  cases secret with
  | none =>
    unfold outcome clusterDecision
    simp only [scope]
    exact ⟨.needsSecret query.permission, rfl⟩
  | some name =>
    have unread : ¬ ∃ grants outer,
        FoundSecret client config.access.keys config.labels space name grants outer :=
      fun ⟨grants, outer, found⟩ => missing ⟨name, grants, outer, rfl, found⟩
    obtain ⟨failure, failed⟩ :=
      Store.checkSecret_missing ⟨config.access.keys, config.labels⟩ unread
    rw [outcome_secret scope, failed]
    exact ⟨.cluster failure, rfl⟩

/-! ### Every check -/

theorem exists_error_iff {ε α : Type} {result : Except ε α} {present : Prop}
    (succeeds : present → ∃ value, result = .ok value)
    (fails : ¬ present → ∃ error, result = .error error) :
    (∃ error, result = .error error) ↔ ¬ present := by
  refine ⟨?_, fails⟩
  rintro ⟨error, failed⟩ there
  obtain ⟨value, ran⟩ := succeeds there
  rw [ran] at failed
  cases failed

/-- A check on an organization never fails, and is allowed only by a live record that was read. A
check on a project fails exactly if the project cannot be read, and one on a secret if the secret or
its project cannot. Past that, what cannot be read of an organization only takes its say away. -/
theorem outcome_failsClosed (client : Client Id) (config : Resolved) (space : String)
    (secret : Option String) (query : Query) (now : Instant) :
    (query.permission.scope = .organization →
      ∃ decision, outcome client config space secret query now = .ok decision ∧
        (decision = .allowed ↔ ∃ object grants,
          Found client config.access.keys (.space space) object grants ∧
            grants.Permit query.caller query.permission now)) ∧
    (query.permission.scope = .project →
      ((∃ error, outcome client config space secret query now = .error error) ↔
        ¬ ∃ object grants, Found client config.access.keys (.space space) object grants) ∧
      ∀ object grants, Found client config.access.keys (.space space) object grants →
        ∃ decision, outcome client config space secret query now = .ok decision ∧
          (decision = .allowed ↔ grants.Permit query.caller query.permission now ∨
            config.access.organizationCascade = true ∧ ∃ verb parent organization outer,
              query.permission = .project verb ∧
                object.Links config.labels.organization parent ∧
                  Found client config.access.keys (.space parent) organization outer ∧
                    outer.Permit query.caller (.organization verb) now)) ∧
    (query.permission.scope = .secret →
      ((∃ error, outcome client config space secret query now = .error error) ↔
        ¬ ∃ name grants outer, secret = some name ∧
          FoundSecret client config.access.keys config.labels space name grants outer) ∧
      ∀ name grants outer, secret = some name →
        FoundSecret client config.access.keys config.labels space name grants outer →
          ∃ decision, outcome client config space secret query now = .ok decision ∧
            (decision = .allowed ↔ grants.Permit query.caller query.permission now ∨
              ∃ verb container, query.permission = .secret verb ∧ StandsIn container verb ∧
                outer.Permit query.caller (.project container) now)) := by
  refine ⟨outcome_organization, fun scope => ⟨?_, ?_⟩, fun scope => ⟨?_, ?_⟩⟩
  · refine exists_error_iff ?_ (outcome_project_missing scope)
    rintro ⟨object, grants, found⟩
    obtain ⟨decision, ran, -⟩ := outcome_project_found scope found
    exact ⟨decision, ran⟩
  · intro object grants found
    exact outcome_project_found scope found
  · refine exists_error_iff ?_ (outcome_secret_missing scope)
    rintro ⟨name, grants, outer, rfl, found⟩
    obtain ⟨decision, ran, -⟩ := outcome_secret_found scope found
    exact ⟨decision, ran⟩
  · rintro name grants outer rfl found
    exact outcome_secret_found scope found

/-- A cluster of one project without grants, which links to an organization that is gone. -/
def orphaned : Client Id
  | .fetch (.space "shop") =>
    .ok { labels := some (.ofList [("warden.dev/organization", "acme")]) }
  | .fetch ref | .annotate ref _ => .error ref.missing

theorem outcome_failsClosed_orphaned :
    outcome orphaned {} "shop" none ⟨{ email := "ann" }, .project .read, none⟩ 7 =
      .ok .denied := by
  obtain ⟨decision, ran, allowed⟩ := ((outcome_failsClosed orphaned {} "shop" none
    ⟨{ email := "ann" }, .project .read, none⟩ 7).2.1 rfl).2 _ {} ⟨rfl, rfl, rfl⟩
  rw [ran]
  cases decision with
  | denied => rfl
  | allowed =>
    rcases allowed.mp rfl with own | ⟨-, verb, parent, organization, outer, -, linked, found, -⟩
    · simp [ResourceGrants.Permit] at own
    · obtain rfl : "acme" = parent := Option.some.inj linked.1
      cases found.1

end ScopedGrants.Cluster
