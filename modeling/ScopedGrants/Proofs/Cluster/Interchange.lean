import ScopedGrants.Proofs.Cluster.Alike
import ScopedGrants.Proofs.Cluster.Server

/-!
The client of an endpoint and that of a memory in each other's place. If the server behind the
endpoint keeps the manifests of the objects in the memory, both bring the same, request by request,
and the server goes on keeping the manifests of the objects in the memory.
-/

namespace ScopedGrants.Cluster

open Json Endpoint

variable {table : Table} {memory : Memory} {send : Message → StateM Table Reply}

/-! ### The same objects in both -/

/-- The object with empty labels and annotations where it has none. -/
def Object.filled (object : Object) : Object :=
  { object with labels := some (object.labels.getD .empty),
                annotations := some object.annotationMap }

structure Depicts (kind : Kind) (tree : Tree) (object : Object) : Prop where
  grammatical : tree.Grammatical
  decoded : ∃ found, Manifest.decode kind tree = .ok found ∧ found.filled = object.filled

structure Mirrors (table : Table) (memory : Memory) : Prop where
  willing : memory.refusal = none
  objects : ∀ ref, Option.Rel (Depicts ref.kind) (table ref) (memory.find? ref)

/-- What a request brings, as far as it can be seen. -/
def Request.shown : (request : Request) → Except Failure request.Answer →
    Except Failure (Option Object)
  | fetch _, answer => answer.map fun object => some object.filled
  | annotate .., answer => answer.map fun _ => none

def results {m : Type → Type} [Monad m] (client : Client m) (requests : List Request) :
    m (List (Except Failure (Option Object))) :=
  requests.mapM fun request => request.shown <$> client request

theorem results_cons {σ : Type} (client : Client (StateM σ)) (request : Request)
    (requests : List Request) (state : σ) :
    (results client (request :: requests)).run state =
      let first := (client request).run state
      let rest := (results client requests).run first.2
      (request.shown first.1 :: rest.1, rest.2) := by
  rw [results, List.mapM_cons]
  rfl

theorem annotate_filled {object other : Object} (same : object.filled = other.filled)
    (annotations : Annotations) :
    (object.annotate annotations).filled = (other.annotate annotations).filled := by
  obtain ⟨name, space, labels, kept⟩ := object
  obtain ⟨name', space', labels', kept'⟩ := other
  simp only [Object.filled, Object.annotationMap, Object.mk.injEq, Option.some.injEq] at same
  obtain ⟨rfl, rfl, labelled, annotated⟩ := same
  simp [Object.filled, Object.annotate, Object.annotationMap, labelled, annotated]

theorem Depicts.patched {kind : Kind} {tree : Tree} {object : Object}
    (depicts : Depicts kind tree object) (annotations : Annotations) :
    Depicts kind ((patchOf annotations).applyTo tree) (object.annotate annotations) where
  grammatical :=
    Tree.applyTo_grammatical _ tree (patchOf_grammatical annotations) depicts.grammatical
  decoded := by
    obtain ⟨found, decoded, same⟩ := depicts.decoded
    exact ⟨_, Manifest.decode_patched annotations decoded, annotate_filled same annotations⟩

/-! ### What requests leave alone -/

def Request.Names (ref : Ref) (key : String) : Request → Prop
  | fetch _ => False
  | annotate other annotations => other = ref ∧ annotations.get? key ≠ none

def Table.object? (table : Table) (ref : Ref) : Option Object :=
  (table ref).bind fun tree => (Manifest.decode ref.kind tree).toOption

/-- No object is created, and those that there are keep everything but the annotations that the
requests give. -/
structure Kept (requests : List Request) (before after : Table) : Prop where
  missing : ∀ ref, before ref = none → after ref = none
  objects : ∀ ref object, Table.object? before ref = some object →
    ∃ next, Table.object? after ref = some next ∧ next.name = object.name ∧
      next.space = object.space ∧ next.labels = object.labels ∧
      ∀ key, (∀ request ∈ requests, ¬ request.Names ref key) →
        next.annotationMap.get? key = object.annotationMap.get? key

theorem Kept.refl (requests : List Request) (table : Table) : Kept requests table table where
  missing _ := id
  objects _ object found := ⟨object, found, rfl, rfl, rfl, fun _ _ => rfl⟩

theorem Kept.cons {request : Request} {requests : List Request} {before middle after : Table}
    (first : Kept [request] before middle) (rest : Kept requests middle after) :
    Kept (request :: requests) before after where
  missing ref absent := rest.missing ref (first.missing ref absent)
  objects ref object found := by
    obtain ⟨next, there, name, space, labels, annotations⟩ := first.objects ref object found
    obtain ⟨last, left, name', space', labels', annotations'⟩ := rest.objects ref next there
    refine ⟨last, left, name'.trans name, space'.trans space, labels'.trans labels, ?_⟩
    intro key unnamed
    obtain ⟨here, later⟩ := List.forall_mem_cons.mp unnamed
    exact (annotations' key later).trans (annotations key (List.forall_mem_singleton.mpr here))

theorem kept_patched {ref : Ref} {tree : Tree} {object : Object} (kept : table ref = some tree)
    (depicts : Depicts ref.kind tree object) (annotations : Annotations) :
    Kept [.annotate ref annotations] table
      (Function.update table ref (some ((patchOf annotations).applyTo tree))) where
  missing other absent := by
    have different : other ≠ ref := by
      rintro rfl
      cases kept.symm.trans absent
    rw [Function.update_of_ne different, absent]
  objects other found there := by
    by_cases same : other = ref
    · subst same
      obtain ⟨read, decoded, -⟩ := depicts.decoded
      have shown : Table.object? table other = some read := by
        rw [Table.object?, kept]
        show (Manifest.decode other.kind tree).toOption = _
        rw [decoded]
        rfl
      obtain rfl := Option.some.inj (shown.symm.trans there)
      refine ⟨read.annotate annotations, ?_, rfl, rfl, rfl, ?_⟩
      · rw [Table.object?, Function.update_self]
        show (Manifest.decode other.kind _).toOption = _
        rw [Manifest.decode_patched annotations decoded]
        rfl
      · intro key unnamed
        have absent : annotations.get? key = none := by
          by_contra given
          exact unnamed _ (List.mem_singleton_self _) ⟨rfl, given⟩
        rw [get?_annotate, absent, Option.none_or]
    · refine ⟨found, ?_, rfl, rfl, rfl, fun _ _ => rfl⟩
      rw [Table.object?, Function.update_of_ne same]
      exact there

/-! ### One request after the other -/

structure Agree (request : Request) (table : Table) (memory : Memory)
    (sent : Except Failure request.Answer × Table)
    (answered : Except Failure request.Answer × Memory) : Prop where
  shown : request.shown sent.1 = request.shown answered.1
  mirrors : Mirrors sent.2 answered.2
  kept : Kept [request] table sent.2

theorem Mirrors.called (mirrors : Mirrors table memory) : Mirrors table memory.called :=
  ⟨mirrors.willing, mirrors.objects⟩

theorem Mirrors.put (mirrors : Mirrors table memory) {ref : Ref} {tree : Tree} {object : Object}
    (depicts : Depicts ref.kind tree object) :
    Mirrors (Function.update table ref (some tree)) (memory.put object ref) where
  willing := (put_refusal memory object ref).trans mirrors.willing
  objects other := by
    rw [Memory.find?_put]
    by_cases same : ref = other
    · subst same
      rw [Function.update_self, if_pos rfl]
      exact .some depicts
    · rw [Function.update_of_ne (Ne.symm same), if_neg same]
      exact mirrors.objects other

theorem Mirrors.step (serves : Serves send) (mirrors : Mirrors table memory) {request : Request}
    (sendable : Sendable request) :
    Agree request table memory ((client send request).run table) (memory.answer request) := by
  have objects := mirrors.objects request.ref
  cases kept : table request.ref with
  | none =>
    cases found : memory.find? request.ref with
    | some object =>
      rw [kept, found] at objects
      cases objects
    | none =>
      rw [client_missing serves sendable kept, Memory.answer_missing request mirrors.willing found]
      refine ⟨?_, mirrors.called, Kept.refl _ table⟩
      cases request <;> rfl
  | some tree =>
    cases found : memory.find? request.ref with
    | none =>
      rw [kept, found] at objects
      cases objects
    | some object =>
      rw [kept, found] at objects
      obtain ⟨depicts⟩ := objects
      obtain ⟨read, decoded, same⟩ := depicts.decoded
      rw [Memory.answer_found request mirrors.willing found]
      cases request with
      | fetch ref =>
        rw [client_fetch serves sendable kept depicts.grammatical decoded]
        have shown : (Except.ok (some read.filled) : Except Failure (Option Object)) =
            .ok (some object.filled) := by rw [same]
        exact ⟨shown, mirrors.called, Kept.refl _ table⟩
      | annotate ref annotations =>
        rw [client_annotate serves sendable kept depicts.grammatical decoded]
        exact ⟨rfl, mirrors.called.put (depicts.patched annotations),
          kept_patched kept depicts annotations⟩

/-- Whatever requests are made, the two clients bring the same, one by one, and what the server and
the memory hold is the same in the end. The server creates no object, and changes none but for the
annotations that it is given. A request whose address is too long is not sent at all. -/
theorem results_interchange (serves : Serves send) (mirrors : Mirrors table memory)
    (requests : List Request) :
    ((∀ request ∈ requests, Sendable request) →
      let sent := (results (client send) requests).run table
      let answered := (results Memory.client requests).run memory
      sent.1 = answered.1 ∧ Mirrors sent.2 answered.2 ∧ Kept requests table sent.2) ∧
    ∀ request, addressLimit < (requestAddress request).utf8ByteSize →
      (client send request).run table = (.error (.trouble .unaddressable), table) := by
  refine ⟨?_, fun request long => client_unaddressable send long table⟩
  intro sendable
  induction requests generalizing table memory with
  | nil => exact ⟨rfl, mirrors, Kept.refl [] table⟩
  | cons request requests ih =>
    obtain ⟨first, rest⟩ := List.forall_mem_cons.mp sendable
    obtain ⟨shown, between, here⟩ := mirrors.step serves first
    obtain ⟨same, last, later⟩ := ih between rest
    rw [results_cons, results_cons]
    exact ⟨congrArg₂ List.cons shown same, last, here.cons later⟩

def labelled (name : String) : Table :=
  Function.update (fun _ => none) (.space name)
    (some (.ofMembers [("kind", .ofText "Namespace"), ("spec", .null),
      ("metadata", .ofMembers [("labels", .ofMembers [("team", .ofText "blue")])])]))

def remembered (name : String) : Memory :=
  ({} : Memory).put { labels := some (.ofList [("team", "blue")]) } (.space name)

theorem labelled_mirrors (name : String) : Mirrors (labelled name) (remembered name) := by
  have empty : Mirrors (fun _ => none) {} := ⟨rfl, fun ref => by cases ref <;> exact .none⟩
  refine empty.put ⟨Tree.ofMembers_grammatical ?_, _, rfl, rfl⟩
  simp only [List.forall_mem_cons]
  exact ⟨Tree.ofText_grammatical _, List.forall_mem_singleton.mpr trivial,
    Tree.ofMembers_grammatical (List.forall_mem_singleton.mpr
      (Tree.ofMembers_grammatical (List.forall_mem_singleton.mpr (Tree.ofText_grammatical _)))),
    List.forall_mem_nil _⟩

theorem results_interchange_shop :
    let blue : SortedMap String String := .ofList [("team", "blue")]
    let requests : List Request := [.fetch (.space "shop"),
      .annotate (.space "shop") (.ofList [("a", "1")]), .fetch (.space "shop"),
      .annotate (.secret "shop" "key") .empty]
    ((results (client serve) requests).run (labelled "shop")).1 =
      [.ok (some { labels := some blue, annotations := some .empty }), .ok none,
        .ok (some { labels := some blue, annotations := some (.ofList [("a", "1")]) }),
        .error (.secretNotFound "shop" "key")] := by
  intro blue requests
  obtain ⟨same, -, -⟩ :=
    (results_interchange serve_serves (labelled_mirrors "shop") requests).1 (by decide)
  rw [same]
  rfl

theorem replicate_utf8ByteSize (n : Nat) :
    (String.ofList (List.replicate n 'a')).utf8ByteSize = n := by
  induction n with
  | zero => rfl
  | succ n ih =>
    rw [List.replicate_succ, ← List.singleton_append, String.ofList_append,
      String.utf8ByteSize_append, ih]
    exact Nat.add_comm 1 n

theorem remembered_fetch (name : String) :
    ((results Memory.client [.fetch (.space name)]).run (remembered name)).1 =
      [.ok (some { labels := some (.ofList [("team", "blue")]), annotations := some .empty })] := by
  have found : (remembered name).find? (.space name) =
      some { labels := some (.ofList [("team", "blue")]) } :=
    (Memory.find?_put ..).trans (if_pos rfl)
  rw [results_cons]
  have answered := Memory.answer_found (.fetch (.space name)) rfl found
  exact congrArg (fun answered => [Request.shown (.fetch (.space name)) answered.1]) answered

/-- The name of a namespace may be so long that nothing can be sent for it. The memory has no such
bound. -/
theorem long_name_unaddressable :
    let name := String.ofList (List.replicate 65600 'a')
    Serves serve ∧ Named (.space name) ∧ Mirrors (labelled name) (remembered name) ∧
      ((results (client serve) [.fetch (.space name)]).run (labelled name)).1 =
        [.error (.trouble .unaddressable)] ∧
      ((results Memory.client [.fetch (.space name)]).run (remembered name)).1 =
        [.ok (some { labels := some (.ofList [("team", "blue")]),
                     annotations := some .empty })] := by
  intro name
  have size : name.utf8ByteSize = 65600 := replicate_utf8ByteSize 65600
  have plain : name.toList.all isPlain := by
    rw [String.toList_ofList, List.all_eq_true]
    intro c member
    rw [List.eq_of_mem_replicate member]
    decide
  have long : addressLimit < (requestAddress (.fetch (.space name))).utf8ByteSize := by
    show 65534 < ("/api/v1/namespaces/" ++ name).utf8ByteSize
    rw [String.utf8ByteSize_append, size]
    exact Nat.lt_add_left _ (by decide)
  have named : IsName name := by
    refine ⟨fun empty => ?_, plain⟩
    rw [empty] at size
    cases size
  refine ⟨serve_serves, named, labelled_mirrors name, ?_, remembered_fetch name⟩
  rw [results_cons, client_unaddressable serve long]
  rfl

end ScopedGrants.Cluster
