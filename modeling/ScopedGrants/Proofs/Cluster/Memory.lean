import ScopedGrants.Cluster.Memory
import ScopedGrants.Cluster.Store
import ScopedGrants.Proofs.Cluster.Program
import ScopedGrants.Proofs.SortedMap

/-!
Running programs against a cluster in memory. A program that only fetches leaves every object as it
is, and brings what it would bring from a cluster that cannot change.
-/

namespace ScopedGrants.Cluster

variable {α β : Type}

theorem put_refusal (memory : Memory) (object : Object) (ref : Ref) :
    (memory.put object ref).refusal = memory.refusal := by
  cases ref <;> rfl

namespace Memory

theorem find?_put (memory : Memory) (object : Object) (ref other : Ref) :
    (memory.put object ref).find? other =
      if ref = other then some object else memory.find? other := by
  cases ref <;> cases other <;> simp [find?, put, SortedMap.get?_insert]

def outcome (memory : Memory) (program : Program α) : α :=
  ((program.run client).run memory).1

def after (memory : Memory) (program : Program α) : Memory :=
  ((program.run client).run memory).2

/-- The client of the memory as it is now, whatever is asked of it. -/
def still (memory : Memory) : Client Id := fun request => (memory.answer request).1

theorem outcome_bind (memory : Memory) (program : Program α) (next : α → Program β) :
    memory.outcome (program >>= next) =
      (memory.after program).outcome (next (memory.outcome program)) := by
  rw [outcome, Program.run_bind]
  rfl

theorem after_bind (memory : Memory) (program : Program α) (next : α → Program β) :
    memory.after (program >>= next) =
      (memory.after program).after (next (memory.outcome program)) := by
  rw [after, Program.run_bind]
  rfl

theorem outcome_andThen {memory : Memory} {action : Action α} {value : α}
    (ran : memory.outcome action.run = .ok value) (next : α → Action β) :
    memory.outcome (action >>= next).run = (memory.after action.run).outcome (next value).run := by
  show memory.outcome (action.run >>= ExceptT.bindCont next) = _
  rw [outcome_bind, ran]
  rfl

theorem after_andThen {memory : Memory} {action : Action α} {value : α}
    (ran : memory.outcome action.run = .ok value) (next : α → Action β) :
    memory.after (action >>= next).run = (memory.after action.run).after (next value).run := by
  show memory.after (action.run >>= ExceptT.bindCont next) = _
  rw [after_bind, ran]
  rfl

def called (memory : Memory) : Memory := { memory with calls := memory.calls + 1 }

theorem answer_eq (memory : Memory) (request : Request) :
    memory.answer request =
      match memory.refusal with
      | some words => (.error (.trouble (.refused words)), memory.called)
      | none =>
        match memory.find? request.ref with
        | none => (.error request.ref.missing, memory.called)
        | some object => (.ok (memory.called.serve object request).1,
            (memory.called.serve object request).2) := rfl

theorem answer_refused {memory : Memory} {words : String} (refused : memory.refusal = some words)
    (request : Request) :
    memory.answer request = (.error (.trouble (.refused words)), memory.called) := by
  rw [answer_eq, refused]

theorem answer_missing {memory : Memory} (request : Request) (willing : memory.refusal = none)
    (missing : memory.find? request.ref = none) :
    memory.answer request = (.error request.ref.missing, memory.called) := by
  rw [answer_eq, willing, missing]

theorem answer_found {memory : Memory} (request : Request) {object : Object}
    (willing : memory.refusal = none) (found : memory.find? request.ref = some object) :
    memory.answer request = (.ok (memory.called.serve object request).1,
      (memory.called.serve object request).2) := by
  rw [answer_eq, willing, found]

theorem answer_fetch (memory : Memory) (ref : Ref) :
    memory.answer (.fetch ref) = (memory.still (.fetch ref), memory.called) := by
  cases refusal : memory.refusal with
  | some words => rw [still, answer_refused refusal]
  | none =>
    cases found : memory.find? ref with
    | none => rw [still, answer_missing (.fetch ref) refusal found]
    | some object =>
      rw [still, answer_found (.fetch ref) refusal found]
      rfl

theorem still_called (memory : Memory) : memory.called.still = memory.still := by
  funext request
  cases refusal : memory.refusal with
  | some words =>
    have refused : memory.called.refusal = some words := refusal
    rw [still, still, answer_refused refusal, answer_refused refused]
  | none =>
    have willing : memory.called.refusal = none := refusal
    cases found : memory.find? request.ref with
    | none =>
      have missing : memory.called.find? request.ref = none := found
      rw [still, still, answer_missing _ refusal found, answer_missing _ willing missing]
    | some object =>
      have present : memory.called.find? request.ref = some object := found
      rw [still, still, answer_found _ refusal found, answer_found _ willing present]
      cases request <;> rfl

theorem still_fetch_ok {memory : Memory} {ref : Ref} {object : Object} :
    memory.still (.fetch ref) = .ok object ↔
      memory.refusal = none ∧ memory.find? ref = some object := by
  cases refusal : memory.refusal with
  | some words => simp [still, answer_refused refusal]
  | none =>
    cases found : memory.find? ref with
    | none => simp [still, answer_missing (.fetch ref) refusal found]
    | some present =>
      rw [still, answer_found (.fetch ref) refusal found]
      show (Except.ok present : Except Failure Object) = .ok object ↔ _
      simp

end Memory

/-! ### Programs that only fetch -/

inductive Program.ReadOnly : Program α → Prop
  | done (value : α) : ReadOnly (.done value)
  | fetch (ref : Ref) (resume : Except Failure Object → Program α)
      (rest : ∀ answer, ReadOnly (resume answer)) : ReadOnly (.call (.fetch ref) resume)

theorem Program.ReadOnly.bind {program : Program α} {next : α → Program β}
    (first : program.ReadOnly) (rest : ∀ value, (next value).ReadOnly) :
    (program >>= next).ReadOnly := by
  induction first with
  | done value => exact rest value
  | fetch ref resume _ ih => exact .fetch ref _ ih

theorem Program.ReadOnly.map {program : Program α} (readOnly : program.ReadOnly) (f : α → β) :
    (f <$> program).ReadOnly := readOnly.bind fun value => .done (f value)

theorem Action.readOnly_bind {action : Action α} {next : α → Action β}
    (first : action.run.ReadOnly) (rest : ∀ value, (next value).run.ReadOnly) :
    (action >>= next).run.ReadOnly := by
  refine Program.ReadOnly.bind first fun result => ?_
  cases result with
  | ok value => exact rest value
  | error failure => exact .done _

theorem Memory.run_readOnly {program : Program α} (readOnly : program.ReadOnly)
    (memory : Memory) :
    ∃ calls, (program.run client).run memory =
      (program.run memory.still, { memory with calls := calls }) := by
  -- A fetch leaves the answers to all later requests as they are.
  induction readOnly generalizing memory with
  | done value => exact ⟨memory.calls, rfl⟩
  | fetch ref resume _ ih =>
    obtain ⟨calls, ran⟩ := ih (memory.still (.fetch ref)) memory.called
    refine ⟨calls, ?_⟩
    show ((resume (memory.answer (.fetch ref)).1).run client).run (memory.answer (.fetch ref)).2 = _
    rw [answer_fetch, ran, still_called]
    rfl

theorem Memory.outcome_readOnly {program : Program α} (readOnly : program.ReadOnly)
    (memory : Memory) : memory.outcome program = program.run memory.still := by
  obtain ⟨calls, ran⟩ := memory.run_readOnly readOnly
  rw [outcome, ran]

theorem Memory.after_readOnly {program : Program α} (readOnly : program.ReadOnly)
    (memory : Memory) : ∃ calls, memory.after program = { memory with calls := calls } := by
  obtain ⟨calls, ran⟩ := memory.run_readOnly readOnly
  exact ⟨calls, by rw [after, ran]⟩

/-! ### Loading and checking -/

theorem Action.fetch_readOnly (ref : Ref) : (Action.fetch ref).run.ReadOnly :=
  .fetch ref _ fun answer => .done answer

theorem Action.grants_readOnly (keys : GrantKeys) (object : Object) :
    (Action.grants keys object).run.ReadOnly := .done _

namespace Store

variable (store : Store)

theorem organizationGrants_readOnly (name : String) :
    (store.organizationGrants name).run.ReadOnly :=
  Action.readOnly_bind (Action.fetch_readOnly _) fun object => Action.grants_readOnly _ object

theorem loadProject_readOnly (name : String) : (store.loadProject name).run.ReadOnly :=
  Action.readOnly_bind (Action.fetch_readOnly _) fun object =>
    Action.readOnly_bind (Action.grants_readOnly _ object) fun _ => .done _

theorem loadSecret_readOnly (space name : String) : (store.loadSecret space name).run.ReadOnly :=
  Action.readOnly_bind (Action.fetch_readOnly _) fun object =>
    Action.readOnly_bind (Action.grants_readOnly _ object) fun _ =>
      Action.readOnly_bind (store.loadProject_readOnly _) fun _ => .done _

theorem activeGrants_readOnly (name : String) (now : Instant) :
    (store.activeGrants name now).ReadOnly := by
  refine (store.organizationGrants_readOnly name).bind fun result => ?_
  cases result <;> exact .done _

theorem settle_readOnly (now : Instant) (check : Check) : (store.settle now check).ReadOnly := by
  cases check with
  | decided decision => exact .done decision
  | ask organization resume =>
    refine (store.activeGrants_readOnly organization now).bind fun result => ?_
    cases result <;> exact .done _

theorem checkOrganization_readOnly (caller : Caller) (name : String) (permission : Permission)
    (now : Instant) : (store.checkOrganization caller name permission now).ReadOnly :=
  store.settle_readOnly now _

theorem checkProject_readOnly (cascade : Bool) (caller : Caller) (name : String)
    (permission : Permission) (now : Instant) :
    (store.checkProject cascade caller name permission now).run.ReadOnly :=
  Action.readOnly_bind (store.loadProject_readOnly name) fun _ =>
    (store.settle_readOnly now _).map Except.ok

theorem checkSecret_readOnly (caller : Caller) (space name : String) (permission : Permission)
    (now : Instant) : (store.checkSecret caller space name permission now).run.ReadOnly :=
  Action.readOnly_bind (store.loadSecret_readOnly space name) fun _ => .done _

end Store

end ScopedGrants.Cluster
