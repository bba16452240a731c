import ScopedGrants.Proofs.Cluster.Memory
import ScopedGrants.Proofs.Grant.Annotations
import ScopedGrants.Proofs.Grant.Codec

/-!
States of a cluster that no store tells apart: the same objects are there, link alike and hold the
same grants, whatever else their annotations say and however the grants are spelled. A program made
of what stores do brings the same from either state.
-/

namespace ScopedGrants.Cluster

variable {α β : Type} {keys : GrantKeys} {left right : Memory}

/-! ### The annotations of an object -/

theorem get?_annotate (object : Object) (annotations : Annotations) (key : String) :
    (object.annotate annotations).annotationMap.get? key =
      (annotations.get? key).or (object.annotationMap.get? key) :=
  SortedMap.get?_merge object.annotationMap annotations key

theorem storedIn_annotate {keys : GrantKeys} (apart : keys.user ≠ keys.group) (object : Object)
    (grants : ResourceGrants) :
    grants.StoredIn keys (object.annotate (grants.toAnnotations keys)).annotationMap := by
  refine ⟨?_, ?_⟩
  · rw [get?_annotate, ResourceGrants.get?_toAnnotations, if_neg (Ne.symm apart), if_pos rfl,
      Option.some_or]
    exact Grants.read_write _ _
  · rw [ResourceGrants.groupText, get?_annotate, ResourceGrants.get?_toAnnotations, if_pos rfl,
      Option.some_or, Option.some_or]
    exact Grants.read_write _ _

/-! ### States that no store tells apart -/

/-- The objects link alike and hold the same grants, or grants that are unreadable alike. -/
structure Object.Alike (keys : GrantKeys) (left right : Object) : Prop where
  labels : left.labels = right.labels
  grants : ResourceGrants.ofAnnotations keys left.annotationMap =
    ResourceGrants.ofAnnotations keys right.annotationMap

structure Memory.Alike (keys : GrantKeys) (left right : Memory) : Prop where
  refusal : left.refusal = right.refusal
  objects : ∀ ref, Option.Rel (Object.Alike keys) (left.find? ref) (right.find? ref)

theorem Memory.Alike.called (alike : Memory.Alike keys left right) :
    Memory.Alike keys left.called right.called := ⟨alike.refusal, alike.objects⟩

theorem Memory.Alike.answer (alike : Memory.Alike keys left right) (request : Request) :
    (∃ failure, left.answer request = (.error failure, left.called) ∧
      right.answer request = (.error failure, right.called)) ∨
    ∃ held same, Object.Alike keys held same ∧
      left.find? request.ref = some held ∧ right.find? request.ref = some same ∧
      left.refusal = none ∧ right.refusal = none := by
  cases refusal : left.refusal with
  | some words =>
    have refused := alike.refusal.symm.trans refusal
    exact Or.inl ⟨_, Memory.answer_refused refusal _, Memory.answer_refused refused _⟩
  | none =>
    have willing := alike.refusal.symm.trans refusal
    have objects := alike.objects request.ref
    cases held : left.find? request.ref with
    | none =>
      cases same : right.find? request.ref with
      | none => exact Or.inl ⟨_, Memory.answer_missing _ refusal held,
          Memory.answer_missing _ willing same⟩
      | some other =>
        rw [held, same] at objects
        cases objects
    | some object =>
      cases same : right.find? request.ref with
      | none =>
        rw [held, same] at objects
        cases objects
      | some other =>
        rw [held, same] at objects
        cases objects with
        | some shared => exact Or.inr ⟨object, other, shared, rfl, rfl, rfl, willing⟩

theorem alike_annotate (apart : keys.user ≠ keys.group) {held same : Object}
    (labels : held.labels = same.labels) (grants : ResourceGrants) :
    Object.Alike keys (held.annotate (grants.toAnnotations keys))
      (same.annotate (grants.toAnnotations keys)) where
  labels := labels
  grants := by
    rw [ResourceGrants.ofAnnotations_eq_ok.mpr (storedIn_annotate apart held grants),
      ResourceGrants.ofAnnotations_eq_ok.mpr (storedIn_annotate apart same grants)]

theorem alike_put {held same : Object} (alike : Memory.Alike keys left right)
    (shared : Object.Alike keys held same) (ref : Ref) :
    Memory.Alike keys (left.put held ref) (right.put same ref) where
  refusal := by rw [put_refusal, put_refusal, alike.refusal]
  objects other := by
    rw [Memory.find?_put, Memory.find?_put]
    split
    · exact .some shared
    · exact alike.objects other

/-! ### Programs that make no difference between such states -/

/-- From states that are alike the program brings the same, and leaves states that are alike. -/
def Steady (keys : GrantKeys) (program : Program α) : Prop :=
  ∀ left right, Memory.Alike keys left right →
    left.outcome program = right.outcome program ∧
      Memory.Alike keys (left.after program) (right.after program)

theorem steady_pure (value : α) : Steady keys (pure value : Program α) :=
  fun _ _ alike => ⟨rfl, alike⟩

theorem Steady.bind {program : Program α} {next : α → Program β} (first : Steady keys program)
    (rest : ∀ value, Steady keys (next value)) : Steady keys (program >>= next) := by
  intro left right alike
  obtain ⟨same, between⟩ := first left right alike
  rw [Memory.outcome_bind, Memory.outcome_bind, Memory.after_bind, Memory.after_bind, same]
  exact rest _ _ _ between

theorem Steady.andThen {action : Action α} {next : α → Action β} (first : Steady keys action.run)
    (rest : ∀ value, Steady keys (next value).run) : Steady keys (action >>= next).run := by
  refine first.bind fun result => ?_
  cases result with
  | ok value => exact rest value
  | error failure => exact steady_pure _

theorem steady_fetch (ref : Ref) {next : Object → Action α}
    (blind : ∀ held same, Object.Alike keys held same → next held = next same)
    (rest : ∀ object, Steady keys (next object).run) :
    Steady keys (Action.fetch ref >>= next).run := by
  intro left right alike
  have ran : ∀ memory : Memory, memory.outcome (Action.fetch ref >>= next).run =
        (memory.answer (.fetch ref)).2.outcome
          (ExceptT.bindCont next (memory.answer (.fetch ref)).1) ∧
      memory.after (Action.fetch ref >>= next).run =
        (memory.answer (.fetch ref)).2.after
          (ExceptT.bindCont next (memory.answer (.fetch ref)).1) :=
    fun memory => ⟨memory.outcome_bind _ _, memory.after_bind _ _⟩
  rw [(ran left).1, (ran left).2, (ran right).1, (ran right).2]
  rcases alike.answer (.fetch ref) with
    ⟨failure, one, other⟩ | ⟨held, same, shared, one, other, willing, ready⟩
  · rw [one, other]
    exact ⟨rfl, alike.called⟩
  · rw [Memory.answer_found (.fetch ref) willing one, Memory.answer_found (.fetch ref) ready other]
    -- The two objects are followed by one and the same action.
    have followed := rest held left.called right.called alike.called
    show left.called.outcome (next held).run = right.called.outcome (next same).run ∧
      Memory.Alike keys (left.called.after (next held).run) (right.called.after (next same).run)
    rw [← blind held same shared]
    exact followed

/-! ### What a store does -/

section

variable {store : Store}

theorem grants_alike {held same : Object} (alike : Object.Alike keys held same) :
    Action.grants keys held = Action.grants keys same := by
  rw [Action.grants, Action.grants, alike.grants]

theorem label?_alike {held same : Object} (alike : Object.Alike keys held same) :
    held.label? = same.label? := by
  funext key
  rw [Object.label?, Object.label?, alike.labels]

theorem steady_grants (object : Object) : Steady keys (Action.grants keys object).run :=
  steady_pure _

theorem steady_organizationGrants (name : String) :
    Steady store.keys (store.organizationGrants name).run :=
  steady_fetch _ (fun _ _ alike => grants_alike alike) steady_grants

theorem steady_loadProject (name : String) : Steady store.keys (store.loadProject name).run := by
  refine steady_fetch _ (fun held same alike => ?_) fun object => ?_
  · rw [grants_alike alike, label?_alike alike]
  · exact (steady_grants object).andThen fun _ => steady_pure _

theorem steady_loadSecret (space name : String) :
    Steady store.keys (store.loadSecret space name).run := by
  refine steady_fetch _ (fun held same alike => ?_) fun object => ?_
  · rw [grants_alike alike, label?_alike alike]
  · exact (steady_grants object).andThen fun _ =>
      (steady_loadProject _).andThen fun _ => steady_pure _

theorem steady_settle (now : Instant) (check : Check) :
    Steady store.keys (store.settle now check) := by
  cases check with
  | decided decision => exact steady_pure decision
  | ask organization resume =>
    have looked : Steady store.keys (store.activeGrants organization now) := by
      refine (steady_organizationGrants organization).bind fun result => ?_
      cases result <;> exact steady_pure _
    refine looked.bind fun result => ?_
    cases result <;> exact steady_pure _

theorem steady_save (apart : store.keys.user ≠ store.keys.group) (ref : Ref)
    (grants : ResourceGrants) : Steady store.keys (store.save ref grants).run := by
  intro left right alike
  let request := Request.annotate ref (grants.toAnnotations store.keys)
  have ran : ∀ memory : Memory, memory.outcome (store.save ref grants).run =
        (memory.answer request).1 ∧
      memory.after (store.save ref grants).run = (memory.answer request).2 :=
    fun memory => ⟨rfl, rfl⟩
  rw [(ran left).1, (ran left).2, (ran right).1, (ran right).2]
  rcases alike.answer request with
    ⟨failure, one, other⟩ | ⟨held, same, shared, one, other, willing, ready⟩
  · rw [one, other]
    exact ⟨rfl, alike.called⟩
  · rw [Memory.answer_found request willing one, Memory.answer_found request ready other]
    exact ⟨rfl, alike_put alike.called (alike_annotate apart shared.labels grants) ref⟩

end

inductive Store.Work (store : Store) : {α : Type} → Program α → Prop
  | done {α : Type} (value : α) : store.Work (pure value : Program α)
  | bind {α β : Type} {program : Program α} {next : α → Program β} (first : store.Work program)
      (rest : ∀ value, store.Work (next value)) : store.Work (program >>= next)
  | organizationGrants (name : String) : store.Work (store.organizationGrants name).run
  | loadProject (name : String) : store.Work (store.loadProject name).run
  | loadSecret (space name : String) : store.Work (store.loadSecret space name).run
  | save (ref : Ref) (grants : ResourceGrants) : store.Work (store.save ref grants).run
  | checkOrganization (caller : Caller) (name : String) (permission : Permission) (now : Instant) :
      store.Work (store.checkOrganization caller name permission now)
  | checkProject (cascade : Bool) (caller : Caller) (name : String) (permission : Permission)
      (now : Instant) : store.Work (store.checkProject cascade caller name permission now).run
  | checkSecret (caller : Caller) (space name : String) (permission : Permission)
      (now : Instant) : store.Work (store.checkSecret caller space name permission now).run

theorem Store.Work.steady {store : Store} (apart : store.keys.user ≠ store.keys.group)
    {program : Program α} (work : store.Work program) : Steady store.keys program := by
  induction work with
  | done value => exact steady_pure value
  | bind _ _ first rest => exact first.bind rest
  | organizationGrants name => exact steady_organizationGrants name
  | loadProject name => exact steady_loadProject name
  | loadSecret space name => exact steady_loadSecret space name
  | save ref grants => exact steady_save apart ref grants
  | checkOrganization caller name permission now => exact steady_settle now _
  | checkProject cascade caller name permission now =>
    refine (steady_loadProject name).andThen fun project => ?_
    rw [ExceptT.run_lift, map_eq_pure_bind]
    exact (steady_settle now _).bind fun _ => steady_pure _
  | checkSecret caller space name permission now =>
    exact (steady_loadSecret space name).andThen fun _ => steady_pure _

end ScopedGrants.Cluster
