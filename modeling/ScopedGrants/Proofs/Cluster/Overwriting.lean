import ScopedGrants.Proofs.Cluster.Interleaving
import ScopedGrants.Proofs.Cluster.Saving
import ScopedGrants.Proofs.Grant.Canonical

/-!
Two clients that edit one project at the same time. Each saves all the grants that it loaded, with
its own change, so that a client which loads before the other has saved undoes the other's change
when it saves later.
-/

namespace ScopedGrants

def ResourceGrants.editUsers (edit : Grants.Edit) (grants : ResourceGrants) : ResourceGrants :=
  { grants with users := edit.next grants.users }

def ResourceGrants.editGroups (edit : Grants.Edit) (grants : ResourceGrants) : ResourceGrants :=
  { grants with groups := edit.next grants.groups }

namespace Cluster

variable {store : Store} {memory : Memory} {project : Project}
  {change : ResourceGrants → ResourceGrants}

/-! ### One client -/

inductive Phase where
  | start
  | loaded (grants : ResourceGrants)
  | saved
deriving DecidableEq, Repr

namespace Phase

def rest (store : Store) (name : String) (change : ResourceGrants → ResourceGrants) :
    Phase → Action Unit
  | start => store.revise name change
  | loaded grants => store.save (.space name) (change grants)
  | saved => pure ()

/-- Where the next request takes the client, and the grants that are stored then. -/
def step (change : ResourceGrants → ResourceGrants) (stored : ResourceGrants) :
    Phase → Option (Phase × ResourceGrants)
  | start => some (loaded stored, stored)
  | loaded grants => some (saved, change grants)
  | saved => none

def toGo : Phase → Nat
  | start => 2
  | loaded _ => 1
  | saved => 0

theorem step_eq_none {phase : Phase} {stored : ResourceGrants} :
    phase.step change stored = none ↔ phase = saved := by
  cases phase <;> simp [step]

theorem toGo_step {phase : Phase} {stored : ResourceGrants} {reached : Phase × ResourceGrants}
    (stepped : phase.step change stored = some reached) : phase.toGo = reached.1.toGo + 1 := by
  cases phase <;> cases stepped <;> rfl

theorem toGo_eq_zero {phase : Phase} : phase.toGo = 0 ↔ phase = saved := by
  cases phase <;> simp [toGo]

end Phase

def Store.Shows (store : Store) (memory : Memory) (project : Project) : Prop :=
  memory.outcome (store.loadProject project.name).run = .ok project

theorem Store.shows_of_found (store : Store) {name : String} {object : Object}
    {grants : ResourceGrants} (willing : memory.refusal = none)
    (found : memory.find? (.space name) = some object)
    (readable : ResourceGrants.ofAnnotations store.keys object.annotationMap = .ok grants) :
    store.Shows memory ⟨name, object.label? store.labels.organization, grants⟩ := by
  have brought : Found memory.still store.keys (.space name) object grants :=
    ⟨Memory.still_fetch_ok.mpr ⟨willing, found⟩, ResourceGrants.ofAnnotations_eq_ok.mp readable⟩
  rw [Shows, Memory.outcome_readOnly (store.loadProject_readOnly name)]
  exact loadProject_found brought

theorem Store.Shows.found (shows : store.Shows memory project) :
    memory.refusal = none ∧ ∃ object, memory.find? (.space project.name) = some object ∧
      project.grants.StoredIn store.keys object.annotationMap ∧
      project.organization = object.label? store.labels.organization := by
  have readOnly := store.loadProject_readOnly project.name
  obtain ⟨object, ⟨brought, stored⟩, same⟩ :=
    store.loadProject_ok ((Memory.outcome_readOnly readOnly memory).symm.trans shows)
  obtain ⟨willing, present⟩ := Memory.still_fetch_ok.mp brought
  exact ⟨willing, object, present, stored, congrArg Project.organization same⟩

theorem Store.Shows.called (shows : store.Shows memory project) :
    store.Shows memory.called project := by
  have readOnly := store.loadProject_readOnly project.name
  rw [Store.Shows, Memory.outcome_readOnly readOnly] at shows ⊢
  rw [Memory.still_called]
  exact shows

/-- A client that is not done makes a request. It is then where it is said to be, and the project
is shown with the grants that it is said to have. -/
theorem Phase.step_rest (apart : store.keys.user ≠ store.keys.group)
    (shows : store.Shows memory project) {phase next : Phase} {stored : ResourceGrants}
    (stepped : phase.step change project.grants = some (next, stored)) :
    ∃ (request : Request) (resume : Except Failure request.Answer → Program (Except Failure Unit)),
      (phase.rest store project.name change).run = .call request resume ∧
      resume (memory.answer request).1 = (next.rest store project.name change).run ∧
      store.Shows (memory.answer request).2 { project with grants := stored } := by
  obtain ⟨willing, object, found, readable, label⟩ := shows.found
  cases phase with
  | start =>
    cases stepped
    refine ⟨.fetch (.space project.name), _, rfl, ?_, ?_⟩
    · have read : Action.grants store.keys object = pure project.grants := by
        rw [Action.grants, ResourceGrants.ofAnnotations_eq_ok.mpr readable]
        rfl
      rw [Memory.answer_found (.fetch (.space project.name)) willing found]
      show Program.bind _ (Action.grants store.keys object >>= fun grants => pure
        ({ name := project.name, organization := _, grants } : Project)).run = _
      rw [read]
      rfl
    · rw [Memory.answer_fetch]
      exact shows.called
  | loaded grants =>
    cases stepped
    refine ⟨.annotate (.space project.name) _, _, rfl, ?_, ?_⟩
    · exact congrArg Program.done (store.outcome_save willing found (change grants))
    · have loaded := store.loadProject_saved apart willing found (change grants)
      rw [← label] at loaded
      exact loaded
  | saved => cases stepped

/-! ### Two clients -/

structure Race where
  stored : ResourceGrants
  left : Phase := .start
  right : Phase := .start
deriving DecidableEq, Repr

/-- The grants that are stored when the turns are over, if both clients are done then. -/
def Race.finish (one other : ResourceGrants → ResourceGrants) :
    Race → List Turn → Option ResourceGrants
  | race, [] => if race.left = .saved ∧ race.right = .saved then some race.stored else none
  | race, .left :: turns => do
    let (next, stored) ← race.left.step one race.stored
    finish one other { race with stored, left := next } turns
  | race, .right :: turns => do
    let (next, stored) ← race.right.step other race.stored
    finish one other { race with stored, right := next } turns

structure Store.Settled (store : Store) (project : Project)
    (ended : Except Failure Unit × Except Failure Unit × Memory) (grants : ResourceGrants) :
    Prop where
  left : ended.1 = .ok ()
  right : ended.2.1 = .ok ()
  shows : store.Shows ended.2.2 { project with grants }

theorem Race.interleave_rest (apart : store.keys.user ≠ store.keys.group)
    (one other : ResourceGrants → ResourceGrants) (race : Race)
    (shows : store.Shows memory { project with grants := race.stored }) (turns : List Turn) :
    Option.Rel (store.Settled project)
      (memory.interleave (race.left.rest store project.name one).run
        (race.right.rest store project.name other).run turns)
      (race.finish one other turns) := by
  induction turns generalizing memory race with
  | nil =>
    obtain ⟨stored, left, right⟩ := race
    cases left <;> cases right <;> first | exact .none | exact .some ⟨rfl, rfl, shows⟩
  | cons turn turns ih =>
    obtain ⟨stored, left, right⟩ := race
    cases turn with
    | left =>
      cases stepped : left.step one stored with
      | none =>
        obtain rfl := Phase.step_eq_none.mp stepped
        exact .none
      | some reached =>
        obtain ⟨request, resume, asks, resumed, after⟩ := Phase.step_rest apart shows stepped
        have later := ih ⟨reached.2, reached.1, right⟩ after
        rw [finish, stepped, asks, Memory.interleave, resumed]
        exact later
    | right =>
      cases stepped : right.step other stored with
      | none =>
        obtain rfl := Phase.step_eq_none.mp stepped
        exact .none
      | some reached =>
        obtain ⟨request, resume, asks, resumed, after⟩ := Phase.step_rest apart shows stepped
        have later := ih ⟨reached.2, left, reached.1⟩ after
        rw [finish, stepped, asks, Memory.interleave, resumed]
        exact later

theorem Race.finish_isSome (one other : ResourceGrants → ResourceGrants) (race : Race)
    (turns : List Turn) :
    (race.finish one other turns).isSome ↔
      turns.count .left = race.left.toGo ∧ turns.count .right = race.right.toGo := by
  induction turns generalizing race with
  | nil =>
    have done : ∀ phase : Phase, 0 = phase.toGo ↔ phase = .saved :=
      fun phase => eq_comm.trans Phase.toGo_eq_zero
    rw [finish, List.count_nil, List.count_nil, done, done]
    split
    case isTrue ended => simp [ended]
    case isFalse early => simp [early]
  | cons turn turns ih =>
    obtain ⟨stored, left, right⟩ := race
    cases turn with
    | left =>
      cases stepped : left.step one stored with
      | none =>
        obtain rfl := Phase.step_eq_none.mp stepped
        simp [finish, stepped, Phase.toGo]
      | some reached =>
        have later := ih ⟨reached.2, reached.1, right⟩
        have fewer := Phase.toGo_step stepped
        rw [finish, stepped]
        refine later.trans ?_
        simp [fewer]
    | right =>
      cases stepped : right.step other stored with
      | none =>
        obtain rfl := Phase.step_eq_none.mp stepped
        simp [finish, stepped, Phase.toGo]
      | some reached =>
        have later := ih ⟨reached.2, left, reached.1⟩
        have fewer := Phase.toGo_step stepped
        rw [finish, stepped]
        refine later.trans ?_
        simp [fewer]

/-- What is stored when both clients are done. One that saved before the other loaded is heeded,
or else only the one that saved last. -/
def Race.final (one other : ResourceGrants → ResourceGrants) (stored : ResourceGrants)
    (turns : List Turn) : ResourceGrants :=
  if turns = [.left, .left, .right, .right] then other (one stored)
  else if turns = [.right, .right, .left, .left] then one (other stored)
  else if turns.getLast? = some .left then one stored
  else other stored

theorem Turn.length_eq (turns : List Turn) :
    turns.length = turns.count .left + turns.count .right := by
  induction turns with
  | nil => rfl
  | cons turn turns ih => cases turn <;> simp [ih] <;> omega

theorem Race.finish_start (one other : ResourceGrants → ResourceGrants) (stored : ResourceGrants)
    {turns : List Turn} (left : turns.count .left = 2) (right : turns.count .right = 2) :
    ({ stored : Race }).finish one other turns = some (final one other stored turns) := by
  have length := Turn.length_eq turns
  rw [left, right] at length
  -- Six ways to take two turns each are left.
  match turns, length with
  | [a, b, c, d], _ =>
    cases a <;> cases b <;> cases c <;> cases d <;> first | rfl | simp at left right

theorem Store.interleave_revise (store : Store) (apart : store.keys.user ≠ store.keys.group)
    (shows : store.Shows memory project) (one other : ResourceGrants → ResourceGrants)
    (turns : List Turn) :
    let run := memory.interleave (store.revise project.name one).run
      (store.revise project.name other).run turns
    (run.isSome ↔ turns.count .left = 2 ∧ turns.count .right = 2) ∧
      ∀ ended, run = some ended →
        store.Settled project ended (Race.final one other project.grants turns) := by
  intro run
  have race : Option.Rel (store.Settled project) run
      (Race.finish one other { stored := project.grants } turns) :=
    Race.interleave_rest apart one other { stored := project.grants } shows turns
  have needed := Race.finish_isSome one other { stored := project.grants } turns
  generalize run = result at race
  cases finished : Race.finish one other { stored := project.grants } turns with
  | none =>
    rw [finished] at race needed
    cases race
    exact ⟨needed, nofun⟩
  | some grants =>
    rw [finished] at race needed
    cases race with
    | some settled =>
      refine ⟨needed, fun ended same => ?_⟩
      obtain rfl := Option.some.inj same
      obtain ⟨left, right⟩ := needed.mp rfl
      have final := Race.finish_start one other project.grants left right
      rw [finished] at final
      exact Option.some.inj final ▸ settled

/-! ### Edits of different lists -/

namespace Store

/-- Both clients get done whenever each has its two turns. Both edits are stored if one client
saved before the other loaded. If not, the client that saves last undoes what the other did. -/
theorem interleave_edits :
    (∀ sources config, Config.resolve sources = .ok config →
      config.access.keys.user ≠ config.access.keys.group) ∧
    ∀ (store : Store) (memory : Memory) (name : String) (object : Object)
      (grants : ResourceGrants) (one other : Grants.Edit) (users groups : List Grant),
      store.keys.user ≠ store.keys.group → memory.refusal = none →
      memory.find? (.space name) = some object →
      ResourceGrants.ofAnnotations store.keys object.annotationMap = .ok grants →
      one.apply grants.users = .ok users → other.apply grants.groups = .ok groups →
      ∀ turns : List Turn,
        let run := memory.interleave (store.revise name (ResourceGrants.editUsers one)).run
          (store.revise name (ResourceGrants.editGroups other)).run turns
        (run.isSome ↔ turns.count .left = 2 ∧ turns.count .right = 2) ∧
        ∀ ended, run = some ended →
          store.Settled ⟨name, object.label? store.labels.organization, grants⟩ ended
            (if turns = [.left, .left, .right, .right] ∨ turns = [.right, .right, .left, .left] then
              ⟨users, groups⟩
            else if turns.getLast? = some .left then ⟨users, grants.groups⟩
            else ⟨grants.users, groups⟩) := by
  refine ⟨fun sources config => Config.resolve_apart, ?_⟩
  intro store memory name object grants one other users groups apart willing found readable edited
    grouped turns
  have shows := store.shows_of_found willing found readable
  have first : ∀ held : ResourceGrants, held.users = grants.users →
      held.editUsers one = ⟨users, held.groups⟩ := by
    intro held same
    rw [ResourceGrants.editUsers, Grants.Edit.next, same, edited]
  have second : ∀ held : ResourceGrants, held.groups = grants.groups →
      held.editGroups other = ⟨held.users, groups⟩ := by
    intro held same
    rw [ResourceGrants.editGroups, Grants.Edit.next, same, grouped]
  have run := store.interleave_revise apart shows (ResourceGrants.editUsers one)
    (ResourceGrants.editGroups other) turns
  rw [Race.final, first grants rfl, second grants rfl, first ⟨grants.users, groups⟩ rfl,
    second ⟨users, grants.groups⟩ rfl] at run
  simp only [ite_or]
  exact run

def ownedShop : Object where
  annotations := some (.ofList
    [("warden.dev/user-grants", Grants.write [{ principal := "ann", role := .owner }])])

def owned : Memory where
  spaces := .ofList [("shop", ownedShop)]

theorem owned_readable : ResourceGrants.ofAnnotations {} ownedShop.annotationMap =
    .ok ⟨[{ principal := "ann", role := .owner }], []⟩ :=
  ResourceGrants.ofAnnotations_eq_ok.mpr ⟨Grants.read_write _ _, rfl⟩

theorem interleave_edits_shop :
    ∃ after, owned.interleave
        (revise {} "shop" (ResourceGrants.editUsers (.revoke "ann"))).run
        (revise {} "shop" (ResourceGrants.editGroups
          (.upsert { principal := "crew", role := .editor }))).run
        [.left, .right, .right, .left] = some (.ok (), .ok (), after) ∧
      Shows {} after ⟨"shop", none, ⟨[], []⟩⟩ := by
  obtain ⟨completes, settles⟩ := interleave_edits.2 {} owned "shop" ownedShop _ (.revoke "ann")
    (.upsert { principal := "crew", role := .editor }) [] [{ principal := "crew", role := .editor }]
    (by decide) rfl rfl owned_readable (by decide) (by decide) [.left, .right, .right, .left]
  obtain ⟨⟨one, other, after⟩, ran⟩ := Option.isSome_iff_exists.mp (completes.mpr ⟨rfl, rfl⟩)
  obtain ⟨left, right, shows⟩ := settles _ ran
  cases left
  cases right
  exact ⟨after, ran, shows⟩

/-- A role is revoked, and that is saved before the other client saves. As it loaded the grants
before, it brings the role back. -/
theorem revocation_undone :
    let owner : Grant := { principal := "ann", role := .owner }
    let editor : Grant := { principal := "crew", role := .editor }
    owned.refusal = none ∧ Shows {} owned ⟨"shop", none, ⟨[owner], []⟩⟩ ∧
    (Grants.Edit.revoke "ann").apply [owner] = .ok [] ∧
    (Grants.Edit.upsert editor).apply [] = .ok [editor] ∧
    ∃ after, owned.interleave
        (revise {} "shop" (ResourceGrants.editUsers (.revoke "ann"))).run
        (revise {} "shop" (ResourceGrants.editGroups (.upsert editor))).run
        [.right, .left, .left, .right] = some (.ok (), .ok (), after) ∧
      Shows {} after ⟨"shop", none, ⟨[owner], [editor]⟩⟩ ∧
      ¬ Shows {} after ⟨"shop", none, ⟨[], [editor]⟩⟩ := by
  intro owner editor
  have found : owned.find? (.space "shop") = some ownedShop := rfl
  have shows : Shows {} owned ⟨"shop", none, ⟨[owner], []⟩⟩ :=
    shows_of_found {} rfl found owned_readable
  refine ⟨rfl, shows, by decide, by decide, ?_⟩
  obtain ⟨completes, settles⟩ := interleave_revise {} (by decide) shows
    (ResourceGrants.editUsers (.revoke "ann")) (ResourceGrants.editGroups (.upsert editor))
    [.right, .left, .left, .right]
  obtain ⟨⟨one, other, after⟩, ran⟩ := Option.isSome_iff_exists.mp (completes.mpr ⟨rfl, rfl⟩)
  obtain ⟨left, right, shows⟩ := settles _ ran
  cases left
  cases right
  have edited : Race.final (ResourceGrants.editUsers (.revoke "ann"))
      (ResourceGrants.editGroups (.upsert editor)) ⟨[owner], []⟩ [.right, .left, .left, .right] =
        ⟨[owner], [editor]⟩ := by decide
  rw [edited] at shows
  refine ⟨after, ran, shows, fun wished => ?_⟩
  have same := Except.ok.inj (shows.symm.trans wished)
  revert same
  decide

end Store
end Cluster
end ScopedGrants
