import ScopedGrants.Proofs.Cluster.Interleaving
import ScopedGrants.Proofs.Cluster.Snapshot

/-!
Whole runs of a cluster in memory: objects are set up, requests are made with and without a store,
and from some point on all of them are refused. A step that fails is counted and leaves every object
as it was.
-/

namespace ScopedGrants.Cluster

/-! ### What a store is asked to do -/

inductive Operation where
  | organizationGrants (name : String)
  | activeGrants (name : String) (now : Instant)
  | loadProject (name : String)
  | loadSecret (space name : String)
  | save (ref : Ref) (grants : ResourceGrants)

namespace Operation

abbrev Value : Operation → Type
  | organizationGrants _ => ResourceGrants
  | activeGrants .. => ActiveGrants
  | loadProject _ => Project
  | loadSecret .. => Secret
  | save .. => Unit

abbrev Error : Operation → Type
  | activeGrants .. => LookupError
  | organizationGrants _ | loadProject _ | loadSecret .. | save .. => Failure

def fault : (operation : Operation) → Failure → operation.Error
  | activeGrants .. => LookupError.ofFailure
  | organizationGrants _ | loadProject _ | loadSecret .. | save .. => id

def program (store : Store) :
    (operation : Operation) → Program (Except operation.Error operation.Value)
  | organizationGrants name => (store.organizationGrants name).run
  | activeGrants name now => store.activeGrants name now
  | loadProject name => (store.loadProject name).run
  | loadSecret space name => (store.loadSecret space name).run
  | save ref grants => (store.save ref grants).run

def opening (store : Store) : Operation → Request
  | organizationGrants name | activeGrants name _ | loadProject name => .fetch (.space name)
  | loadSecret space name => .fetch (.secret space name)
  | save ref grants => .annotate ref (grants.toAnnotations store.keys)

def Loads : Operation → Prop
  | save .. => False
  | organizationGrants _ | activeGrants .. | loadProject _ | loadSecret .. => True

variable (store : Store)

theorem program_eq (operation : Operation) :
    ∃ resume, operation.program store = .call (operation.opening store) resume ∧
      ∀ failure, resume (.error failure) = .done (.error (operation.fault failure)) := by
  cases operation <;> exact ⟨_, rfl, fun _ => rfl⟩

theorem loads_or_save (operation : Operation) :
    operation.Loads ∨ ∃ ref grants, operation = save ref grants := by
  cases operation with
  | save ref grants => exact .inr ⟨ref, grants, rfl⟩
  | _ => exact .inl trivial

theorem readOnly (operation : Operation) (loads : operation.Loads) :
    (operation.program store).ReadOnly := by
  cases operation with
  | organizationGrants name => exact store.organizationGrants_readOnly name
  | activeGrants name now => exact store.activeGrants_readOnly name now
  | loadProject name => exact store.loadProject_readOnly name
  | loadSecret space name => exact store.loadSecret_readOnly space name
  | save => exact loads.elim

end Operation

/-! ### Steps -/

inductive Step where
  | add (ref : Ref) (labels : SortedMap String String) (annotations : Annotations)
  | refuse (words : String)
  | call (request : Request)
  | operate (store : Store) (operation : Operation)

namespace Step

def next (memory : Memory) : Step → Memory
  | add ref labels annotations => memory.add ref labels annotations
  | refuse words => memory.refuse words
  | call request => (memory.answer request).2
  | operate store operation => memory.after (operation.program store)

def requests (memory : Memory) : Step → List Request
  | add .. | refuse _ => []
  | call request => [request]
  | operate store operation => memory.requests (operation.program store)

/-- A client call or an operation of a store brings an error. -/
def Fails (memory : Memory) : Step → Prop
  | add .. | refuse _ => False
  | call request => ∃ failure, (memory.answer request).1 = .error failure
  | operate store operation => ∃ error, memory.outcome (operation.program store) = .error error

def Loads : Step → Prop
  | call (.fetch _) => True
  | operate _ operation => operation.Loads
  | _ => False

def adds : Step → Bool
  | add .. => true
  | _ => false

end Step

namespace Memory

variable {α : Type} {memory other : Memory}

def objects (memory : Memory) : SortedMap String Object × SortedMap (String × String) Object :=
  (memory.spaces, memory.secrets)

def afterAll (memory : Memory) (steps : List Step) : Memory :=
  steps.foldl (fun memory step => step.next memory) memory

def requestsIn (memory : Memory) : List Step → List Request
  | [] => []
  | step :: rest => step.requests memory ++ (step.next memory).requestsIn rest

/-! ### One step -/

theorem answer_failed {request : Request} {failure : Failure}
    (failed : (memory.answer request).1 = .error failure) :
    (memory.answer request).2 = memory.called := by
  cases refusal : memory.refusal with
  | some words => rw [answer_refused refusal]
  | none =>
    cases found : memory.find? request.ref with
    | none => rw [answer_missing request refusal found]
    | some object =>
      rw [answer_found request refusal found] at failed
      cases failed

/-- A program is counted by its requests, and no object comes or goes by it. -/
theorem after_frame (memory : Memory) (program : Program α) :
    (memory.after program).refusal = memory.refusal ∧
      (memory.after program).calls = memory.calls + (memory.requests program).length ∧
      ∀ place, (memory.after program).find? place = none ↔ memory.find? place = none := by
  induction program generalizing memory with
  | done value => exact ⟨rfl, rfl, fun _ => Iff.rfl⟩
  | call request resume ih =>
    obtain ⟨refusal, calls, -⟩ := memory.after_answer request
    obtain ⟨refusal', calls', objects⟩ := ih (memory.answer request).1 (memory.answer request).2
    rw [after_call, requests, List.length_cons]
    refine ⟨refusal'.trans refusal, ?_, fun place => ?_⟩
    · rw [calls', calls]
      omega
    · exact (objects place).trans (find?_answer_eq_none request place)

/-- A step that fails or only reads is counted, and that is all. -/
theorem next_intact {step : Step} (harmless : step.Fails memory ∨ step.Loads) :
    ∃ calls, step.next memory = { memory with calls := calls } := by
  cases step with
  | add | refuse => exact harmless.elim False.elim False.elim
  | call request =>
    cases request with
    | fetch ref => exact ⟨_, congrArg Prod.snd (memory.answer_fetch ref)⟩
    | annotate ref annotations =>
      obtain ⟨failure, failed⟩ := harmless.resolve_right id
      exact ⟨_, answer_failed failed⟩
  | operate store operation =>
    rcases operation.loads_or_save with loads | ⟨ref, grants, rfl⟩
    · exact memory.after_readOnly (operation.readOnly store loads)
    · obtain ⟨failure, failed⟩ := harmless.resolve_right id
      have called : memory.after (store.save ref grants).run = memory.called := answer_failed failed
      exact ⟨_, called⟩

/-! ### Once everything is refused -/

theorem outcome_refused {words : String} (refused : memory.refusal = some words) (store : Store)
    (operation : Operation) :
    memory.outcome (operation.program store) =
      .error (operation.fault (.trouble (.refused words))) := by
  obtain ⟨resume, program, failed⟩ := operation.program_eq store
  rw [program, outcome_call, answer_refused refused, failed]
  rfl

theorem next_refused {words : String} (refused : memory.refusal = some words) {step : Step}
    (acts : step.adds = false) : (step.next memory).objects = memory.objects := by
  have intact : step.Fails memory → (step.next memory).objects = memory.objects := by
    intro fails
    obtain ⟨calls, left⟩ := next_intact (.inl fails)
    rw [left]
    rfl
  cases step with
  | add => cases acts
  | refuse => rfl
  | call request => exact intact ⟨_, congrArg Prod.fst (answer_refused refused request)⟩
  | operate store operation => exact intact ⟨_, outcome_refused refused store operation⟩

theorem refusal_next (memory : Memory) (step : Step) :
    (step.next memory).refusal = match step with
      | .refuse words => some words
      | _ => memory.refusal := by
  cases step with
  | add ref labels annotations => exact put_refusal memory _ ref
  | refuse => rfl
  | call request => exact (memory.after_answer request).1
  | operate store operation => exact (memory.after_frame (operation.program store)).1

theorem objects_add (same : memory.objects = other.objects) (ref : Ref)
    (labels : SortedMap String String) (annotations : Annotations) :
    (memory.add ref labels annotations).objects = (other.add ref labels annotations).objects := by
  obtain ⟨spaces, secrets⟩ := Prod.mk.inj same
  cases ref with
  | space name => simp [add, put, objects, spaces, secrets]
  | secret space name => simp [add, put, objects, spaces, secrets]

theorem find?_next_eq_none (memory : Memory) (step : Step) (place : Ref) :
    (step.next memory).find? place = none ↔ memory.find? place = none ∧
      ∀ labels annotations, step ≠ .add place labels annotations := by
  cases step with
  | add ref labels annotations =>
    show (memory.put _ ref).find? place = none ↔ _
    rw [find?_put]
    by_cases same : ref = place
    · simp [same]
    · simp [same]
  | refuse words => exact (and_iff_left nofun).symm
  | call request => exact (find?_answer_eq_none request place).trans (and_iff_left nofun).symm
  | operate store operation =>
    exact ((memory.after_frame _).2.2 place).trans (and_iff_left nofun).symm

/-! ### Runs -/

theorem afterAll_append (memory : Memory) (before after : List Step) :
    memory.afterAll (before ++ after) = (memory.afterAll before).afterAll after :=
  List.foldl_append

theorem calls_afterAll (memory : Memory) (steps : List Step) :
    (memory.afterAll steps).calls = memory.calls + (memory.requestsIn steps).length := by
  induction steps generalizing memory with
  | nil => rfl
  | cons step steps ih =>
    have counted : (step.next memory).calls = memory.calls + (step.requests memory).length := by
      cases step with
      | add ref => cases ref <;> rfl
      | refuse => rfl
      | call request => exact (memory.after_answer request).2.1
      | operate store operation => exact (memory.after_frame (operation.program store)).2.1
    rw [requestsIn, List.length_append, afterAll, List.foldl_cons]
    have rest := ih (step.next memory)
    rw [afterAll] at rest
    omega

theorem find?_afterAll_eq_none (memory : Memory) (steps : List Step) (place : Ref) :
    (memory.afterAll steps).find? place = none ↔ memory.find? place = none ∧
      ∀ labels annotations, .add place labels annotations ∉ steps := by
  induction steps generalizing memory with
  | nil => exact (and_iff_left fun _ _ => List.not_mem_nil).symm
  | cons step steps ih =>
    rw [afterAll, List.foldl_cons]
    refine (ih (step.next memory)).trans ?_
    rw [find?_next_eq_none, and_assoc]
    refine and_congr_right fun _ => ?_
    simp only [List.mem_cons, not_or, forall_and, ne_eq, eq_comm]

theorem refusal_afterAll {steps : List Step} (willing : ∀ words, .refuse words ∉ steps) :
    (memory.afterAll steps).refusal = memory.refusal := by
  induction steps generalizing memory with
  | nil => rfl
  | cons step steps ih =>
    have first : (step.next memory).refusal = memory.refusal := by
      rw [refusal_next]
      cases step with
      | refuse words => exact absurd List.mem_cons_self (willing words)
      | _ => rfl
    rw [afterAll, List.foldl_cons]
    refine Eq.trans (ih fun words member => ?_) first
    exact willing words (List.mem_cons_of_mem step member)

theorem objects_afterAll_refused (refused : memory.refusal.isSome)
    (same : memory.objects = other.objects) (steps : List Step) :
    (memory.afterAll steps).objects = (other.afterAll (steps.filter Step.adds)).objects := by
  induction steps generalizing memory other with
  | nil => exact same
  | cons step steps ih =>
    have still_refused : (step.next memory).refusal.isSome := by
      rw [refusal_next]
      cases step with
      | refuse words => rfl
      | _ => exact refused
    rw [afterAll, List.foldl_cons]
    cases acts : step.adds with
    | false =>
      rw [List.filter_cons_of_neg (by simp [acts])]
      obtain ⟨words, refusal⟩ := Option.isSome_iff_exists.mp refused
      exact ih still_refused ((next_refused refusal acts).trans same)
    | true =>
      rw [List.filter_cons_of_pos acts]
      cases step with
      | add ref labels annotations =>
        exact ih still_refused (objects_add same ref labels annotations)
      | _ => cases acts

/-! ### How many client calls there are -/

theorem requests_bind {β : Type} (memory : Memory) (program : Program α)
    (next : α → Program β) :
    memory.requests (program >>= next) = memory.requests program ++
      (memory.after program).requests (next (memory.outcome program)) := by
  induction program generalizing memory with
  | done value => rfl
  | call request resume ih =>
    rw [after_call, outcome_call, requests, List.cons_append, ← ih]
    rfl

section

variable {keys : GrantKeys} {ref : Ref} {object : Object} {grants : ResourceGrants}

theorem requests_found (found : Found memory.still keys ref object grants)
    (next : Object → ResourceGrants → Action α) :
    memory.requests (do
      let object ← Action.fetch ref
      let grants ← Action.grants keys object
      next object grants).run = .fetch ref :: memory.called.requests (next object grants).run := by
  obtain ⟨brought, stored⟩ := found
  have read : Action.grants keys object = pure grants := by
    rw [Action.grants, ResourceGrants.ofAnnotations_eq_ok.mpr stored]
    rfl
  show .fetch ref :: (memory.answer (.fetch ref)).2.requests
    (ExceptT.bindCont (fun object => Action.grants keys object >>= next object)
      (memory.answer (.fetch ref)).1) = _
  rw [answer_fetch, brought]
  show _ :: memory.called.requests (Action.grants keys object >>= next object).run = _
  rw [read, pure_bind]

theorem requests_missing (missing : ¬ ∃ object grants, Found memory.still keys ref object grants)
    (next : Object → ResourceGrants → Action α) :
    memory.requests (do
      let object ← Action.fetch ref
      let grants ← Action.grants keys object
      next object grants).run = [.fetch ref] := by
  show .fetch ref :: (memory.answer (.fetch ref)).2.requests
    (ExceptT.bindCont (fun object => Action.grants keys object >>= next object)
      (memory.answer (.fetch ref)).1) = _
  rw [answer_fetch]
  cases brought : memory.still (.fetch ref) with
  | error failure => rfl
  | ok object =>
    cases read : ResourceGrants.ofAnnotations keys object.annotationMap with
    | error error =>
      have failed : Action.grants keys object = throw (.malformed error) := by
        rw [Action.grants, read]
        rfl
      show _ :: memory.called.requests (Action.grants keys object >>= next object).run = _
      rw [failed]
      rfl
    | ok grants =>
      exact absurd ⟨object, grants, brought, ResourceGrants.ofAnnotations_eq_ok.mp read⟩ missing

theorem requests_single (next : Object → ResourceGrants → α) :
    memory.requests (do
      let object ← Action.fetch ref
      let grants ← Action.grants keys object
      return next object grants : Action α).run = [.fetch ref] := by
  by_cases present : ∃ object grants, Found memory.still keys ref object grants
  · obtain ⟨object, grants, found⟩ := present
    exact requests_found found _
  · exact requests_missing present _

end

variable {store : Store}

theorem requests_organizationGrants (name : String) :
    memory.requests (store.organizationGrants name).run = [.fetch (.space name)] := by
  rw [Store.organizationGrants_eq]
  exact requests_single fun _ grants => grants

theorem requests_loadProject (name : String) :
    memory.requests (store.loadProject name).run = [.fetch (.space name)] :=
  requests_single _

theorem requests_activeGrants (name : String) (now : Instant) :
    memory.requests (store.activeGrants name now) = [.fetch (.space name)] := by
  rw [Store.activeGrants, requests_bind, requests_organizationGrants]
  cases memory.outcome (store.organizationGrants name).run <;> rfl

theorem requests_operation {operation : Operation}
    (other : ∀ space name, operation ≠ .loadSecret space name) :
    memory.requests (operation.program store) = [operation.opening store] := by
  cases operation with
  | organizationGrants name => exact requests_organizationGrants name
  | activeGrants name now => exact requests_activeGrants name now
  | loadProject name => exact requests_loadProject name
  | loadSecret space name => exact absurd rfl (other space name)
  | save ref grants => rfl

theorem requests_loadSecret {space name : String} {object : Object} {grants : ResourceGrants}
    (found : Found memory.still store.keys (.secret space name) object grants) :
    memory.requests (store.loadSecret space name).run = [.fetch (.secret space name),
      .fetch (.space ((object.label? store.labels.project).getD space))] := by
  refine (requests_found found _).trans ?_
  show _ :: memory.called.requests ((store.loadProject _).run >>= ExceptT.bindCont _) = _
  rw [requests_bind, requests_loadProject]
  cases memory.called.outcome (store.loadProject
    ((object.label? store.labels.project).getD space)).run <;> rfl

theorem calls_after {program : Program α} {count : Nat}
    (made : (memory.requests program).length = count) :
    (memory.after program).calls = memory.calls + count := by
  rw [(memory.after_frame program).2.1, made]

end Memory

/-- Whatever has been done with a fresh memory, a client call or an operation of a store that brings
an error is counted and does nothing else, and so is all that only reads. From the first refusal on
objects are only ever set up, and everything else fails with the words of the latest. No object is
there that was not set up. The count is that of the client calls: one for each operation, and one
more for a secret that is there with grants that can be read. -/
theorem run_intact (steps : List Step) :
    let memory := Memory.afterAll {} steps
    (∀ step : Step, step.Fails memory ∨ step.Loads →
      ∃ calls, step.next memory = { memory with calls := calls }) ∧
    (∀ before words after, steps = before ++ .refuse words :: after →
      memory.objects = (Memory.afterAll {} (before ++ after.filter Step.adds)).objects ∧
      ((∀ others, .refuse others ∉ after) →
        (∀ request, (memory.answer request).1 = .error (.trouble (.refused words))) ∧
        ∀ (store : Store) (operation : Operation), memory.outcome (operation.program store) =
          .error (operation.fault (.trouble (.refused words))))) ∧
    (∀ ref, memory.find? ref = none ↔ ∀ labels annotations, .add ref labels annotations ∉ steps) ∧
    memory.calls = (Memory.requestsIn {} steps).length ∧
    ∀ store : Store,
      (∀ operation : Operation, (∀ space name, operation ≠ .loadSecret space name) →
        (memory.after (operation.program store)).calls = memory.calls + 1) ∧
      (∀ space name, (¬ ∃ object grants,
          Found memory.still store.keys (.secret space name) object grants) →
        (memory.after (store.loadSecret space name).run).calls = memory.calls + 1) ∧
      ∀ space name object grants,
        Found memory.still store.keys (.secret space name) object grants →
        (memory.after (store.loadSecret space name).run).calls = memory.calls + 2 := by
  intro memory
  refine ⟨fun step => Memory.next_intact, ?_, ?_, ?_, ?_⟩
  · rintro before words after rfl
    have again : memory = ((Memory.afterAll {} before).refuse words).afterAll after :=
      Memory.afterAll_append {} before (.refuse words :: after)
    refine ⟨?_, fun latest => ?_⟩
    · have refused : ((Memory.afterAll {} before).refuse words).refusal.isSome = true := rfl
      have same : ((Memory.afterAll {} before).refuse words).objects =
        (Memory.afterAll {} before).objects := rfl
      rw [again, Memory.afterAll_append]
      exact Memory.objects_afterAll_refused refused same after
    · have refused : memory.refusal = some words := by
        rw [again, Memory.refusal_afterAll latest]
        rfl
      exact ⟨fun request => congrArg Prod.fst (Memory.answer_refused refused request),
        fun store operation => Memory.outcome_refused refused store operation⟩
  · intro ref
    have empty : Memory.find? {} ref = none := by cases ref <;> rfl
    exact (Memory.find?_afterAll_eq_none {} steps ref).trans (and_iff_right empty)
  · exact (Memory.calls_afterAll {} steps).trans (Nat.zero_add _)
  · intro store
    refine ⟨fun operation other => ?_, fun space name missing => ?_, ?_⟩
    · exact Memory.calls_after (congrArg List.length (Memory.requests_operation other))
    · exact Memory.calls_after (congrArg List.length (Memory.requests_missing missing _))
    · intro space name object grants found
      exact Memory.calls_after (congrArg List.length (Memory.requests_loadSecret found))

/-- Ann is made the owner of a secret. Then the cluster goes down, and she stays its owner. -/
theorem run_intact_down :
    let key : Ref := .secret "site" "key"
    let owned : ResourceGrants := ⟨[{ principal := "ann", role := .owner }], []⟩
    let up : List Step := [.add (.space "site") .empty .empty, .add key .empty .empty,
      .operate {} (.save key owned)]
    let down : List Step := up ++ [.refuse "down", .operate {} (.save key ⟨[], []⟩)]
    (Memory.afterAll {} down).objects = (Memory.afterAll {} up).objects ∧
    (∃ calls, (Step.operate {} (.save key ⟨[], []⟩)).next (Memory.afterAll {} down) =
      { Memory.afterAll {} down with calls := calls }) ∧
    ((Memory.afterAll {} up).after (Store.loadSecret {} "site" "key").run).calls = 3 ∧
    ((Memory.afterAll {} down).after (Store.loadSecret {} "site" "key").run).calls = 3 ∧
    ((Memory.afterAll {} down).after (Store.loadProject {} "site").run).calls = 3 := by
  intro key owned up down
  obtain ⟨-, -, -, -, counted⟩ := run_intact up
  obtain ⟨intact, refused, -, -, counts⟩ := run_intact down
  obtain ⟨same, answers⟩ := refused up "down" [.operate {} (.save key ⟨[], []⟩)] rfl
  obtain ⟨-, fails⟩ := answers (by simp)
  refine ⟨same, intact _ (.inl ⟨_, fails {} (.save key ⟨[], []⟩)⟩), ?_, ?_, ?_⟩
  · have read : ((Memory.afterAll {} up).find? key).map (fun object =>
        ResourceGrants.ofAnnotations {} object.annotationMap) = some (.ok owned) := by
      decide +kernel
    obtain ⟨object, found, readable⟩ := Option.map_eq_some_iff.mp read
    have stored := ResourceGrants.ofAnnotations_eq_ok.mp readable
    have brought := Memory.still_fetch_ok.mpr ⟨rfl, found⟩
    exact (counted {}).2.2 "site" "key" object owned ⟨brought, stored⟩
  · have missing : ¬ ∃ object grants,
        Found (Memory.afterAll {} down).still {} key object grants := by
      rintro ⟨object, grants, brought, -⟩
      obtain ⟨willing, -⟩ := Memory.still_fetch_ok.mp brought
      cases willing
    exact (counts {}).2.1 "site" "key" missing
  · exact (counts {}).1 (.loadProject "site") nofun

end ScopedGrants.Cluster
