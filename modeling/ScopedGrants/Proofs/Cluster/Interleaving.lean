import ScopedGrants.Proofs.Cluster.Memory

/-!
Two programs at work on one memory, their requests in any order. If neither changes an object that
the other is about, each brings what it brings by itself, and the memory ends up as if one had run
after the other.
-/

namespace ScopedGrants.Cluster

variable {α β : Type} {memory : Memory}

/-! ### One request -/

namespace Request

def Marks (place : Ref) : Request → Prop
  | fetch _ => False
  | annotate ref _ => ref = place

/-- What a request that is answered makes of the object in a place. -/
def edit (place : Ref) : Request → Option Object → Option Object
  | fetch _, object => object
  | annotate ref annotations, object =>
    if ref = place then object.map (·.annotate annotations) else object

/-- Neither request changes an object that the other is about. -/
structure Apart (memory : Memory) (one other : Request) : Prop where
  left : one.Marks other.ref → memory.find? other.ref = none
  right : other.Marks one.ref → memory.find? one.ref = none

instance (place : Ref) : (request : Request) → Decidable (request.Marks place)
  | fetch _ => inferInstanceAs (Decidable False)
  | annotate ref _ => inferInstanceAs (Decidable (ref = place))

instance (one other : Request) : Decidable (one.Apart memory other) :=
  decidable_of_iff ((one.Marks other.ref → memory.find? other.ref = none) ∧
      (other.Marks one.ref → memory.find? one.ref = none))
    ⟨fun apart => ⟨apart.1, apart.2⟩, fun apart => ⟨apart.left, apart.right⟩⟩

theorem Apart.symm {one other : Request} (apart : one.Apart memory other) :
    other.Apart memory one := ⟨apart.right, apart.left⟩

theorem edit_none (request : Request) (place : Ref) : request.edit place none = none := by
  cases request with
  | fetch ref => rfl
  | annotate ref annotations =>
    rw [edit]
    split <;> rfl

theorem edit_elsewhere {request : Request} {place : Ref} (elsewhere : ¬ request.Marks place)
    (object : Option Object) : request.edit place object = object := by
  cases request with
  | fetch ref => rfl
  | annotate ref annotations => exact if_neg elsewhere

theorem edit_eq_none {request : Request} {place : Ref} {object : Option Object} :
    request.edit place object = none ↔ object = none := by
  cases request with
  | fetch ref => rfl
  | annotate ref annotations =>
    rw [edit]
    split
    · exact Option.map_eq_none_iff
    · rfl

theorem ref_eq_of_marks {request : Request} {place : Ref} (marks : request.Marks place) :
    request.ref = place := by
  cases request with
  | fetch ref => exact marks.elim
  | annotate ref annotations => exact marks

theorem edit_comm {one other : Request} (apart : one.Apart memory other) (place : Ref) :
    one.edit place (other.edit place (memory.find? place)) =
      other.edit place (one.edit place (memory.find? place)) := by
  cases found : memory.find? place with
  | none => rw [edit_none, edit_none, edit_none]
  | some object =>
    cases one with
    | fetch ref => rfl
    | annotate ref annotations =>
      by_cases here : ref = place
      · have elsewhere : ¬ other.Marks place := by
          intro marks
          have missing := apart.right (here ▸ marks)
          rw [Request.ref, here, found] at missing
          cases missing
        rw [edit_elsewhere elsewhere, edit_elsewhere elsewhere]
      · have elsewhere : ¬ (annotate ref annotations).Marks place := here
        rw [edit_elsewhere elsewhere, edit_elsewhere elsewhere]

end Request

namespace Memory

theorem ext_find? {other : Memory} (refusal : memory.refusal = other.refusal)
    (calls : memory.calls = other.calls) (same : ∀ ref, memory.find? ref = other.find? ref) :
    memory = other := by
  obtain ⟨spaces, secrets, words, count⟩ := memory
  obtain ⟨spaces', secrets', words', count'⟩ := other
  obtain rfl : words = words' := refusal
  obtain rfl : count = count' := calls
  obtain rfl : spaces = spaces' := SortedMap.ext_get? fun name => same (.space name)
  obtain rfl : secrets = secrets' :=
    SortedMap.ext_get? fun names => same (.secret names.1 names.2)
  rfl

/-- All that a request does: it is counted, and makes of each object what it is to. -/
theorem after_answer (memory : Memory) (request : Request) :
    (memory.answer request).2.refusal = memory.refusal ∧
      (memory.answer request).2.calls = memory.calls + 1 ∧
      ∀ place, (memory.answer request).2.find? place =
        if memory.refusal = none then request.edit place (memory.find? place)
        else memory.find? place := by
  cases refusal : memory.refusal with
  | some words =>
    rw [answer_refused refusal]
    exact ⟨refusal, rfl, fun place => rfl⟩
  | none =>
    cases found : memory.find? request.ref with
    | none =>
      rw [answer_missing request refusal found]
      refine ⟨refusal, rfl, fun place => ?_⟩
      rw [if_pos rfl]
      by_cases marks : request.Marks place
      · obtain rfl := Request.ref_eq_of_marks marks
        rw [found, Request.edit_none]
        exact found
      · exact (Request.edit_elsewhere marks _).symm
    | some object =>
      rw [answer_found request refusal found]
      cases request with
      | fetch ref => exact ⟨refusal, rfl, fun place => rfl⟩
      | annotate ref annotations =>
        refine ⟨(put_refusal _ _ _).trans refusal, ?_, fun place => ?_⟩
        · cases ref <;> rfl
        · rw [if_pos rfl, Request.edit]
          refine (find?_put _ _ _ _).trans ?_
          split
          case isTrue same =>
            subst same
            exact (congrArg (Option.map (·.annotate annotations)) found).symm
          case isFalse => rfl

theorem answer_congr {other : Memory} (refusal : memory.refusal = other.refusal)
    {request : Request} (same : memory.find? request.ref = other.find? request.ref) :
    (memory.answer request).1 = (other.answer request).1 := by
  cases words : memory.refusal with
  | some refused =>
    have also := refusal.symm.trans words
    rw [answer_refused words, answer_refused also]
  | none =>
    have willing := refusal.symm.trans words
    cases found : memory.find? request.ref with
    | none =>
      have missing := same.symm.trans found
      rw [answer_missing request words found, answer_missing request willing missing]
    | some object =>
      have present := same.symm.trans found
      rw [answer_found request words found, answer_found request willing present]
      cases request <;> rfl

theorem find?_answer_eq_none (request : Request) (place : Ref) :
    (memory.answer request).2.find? place = none ↔ memory.find? place = none := by
  rw [(memory.after_answer request).2.2 place]
  split
  · exact Request.edit_eq_none
  · rfl

theorem apart_answer {one other : Request} (request : Request) :
    one.Apart (memory.answer request).2 other ↔ one.Apart memory other := by
  constructor
  · rintro ⟨left, right⟩
    exact ⟨fun marks => (find?_answer_eq_none request _).mp (left marks),
      fun marks => (find?_answer_eq_none request _).mp (right marks)⟩
  · rintro ⟨left, right⟩
    exact ⟨fun marks => (find?_answer_eq_none request _).mpr (left marks),
      fun marks => (find?_answer_eq_none request _).mpr (right marks)⟩

theorem answer_comm {one other : Request} (apart : one.Apart memory other) :
    ((memory.answer one).2.answer other).1 = (memory.answer other).1 ∧
      ((memory.answer one).2.answer other).2 = ((memory.answer other).2.answer one).2 := by
  obtain ⟨refusal, calls, objects⟩ := memory.after_answer one
  obtain ⟨refusal', calls', objects'⟩ := memory.after_answer other
  obtain ⟨last, count, held⟩ := (memory.answer one).2.after_answer other
  obtain ⟨last', count', held'⟩ := (memory.answer other).2.after_answer one
  constructor
  · apply answer_congr refusal
    rw [objects]
    split
    · by_cases marks : one.Marks other.ref
      · rw [apart.left marks, Request.edit_none]
      · exact Request.edit_elsewhere marks _
    · rfl
  · apply ext_find?
    · rw [last, last', refusal, refusal']
    · rw [count, count', calls, calls']
    · intro place
      rw [held, held', objects, objects', refusal, refusal']
      split
      · exact (Request.edit_comm apart place).symm
      · rfl

end Memory

/-! ### Whole programs -/

namespace Memory

def requests (memory : Memory) : Program α → List Request
  | .done _ => []
  | .call request resume =>
    request :: (memory.answer request).2.requests (resume (memory.answer request).1)

/-- No request of the one program changes an object that one of the other is about. -/
def Apart (memory : Memory) (left : Program α) (right : Program β) : Prop :=
  ∀ one ∈ memory.requests left, ∀ other ∈ memory.requests right, one.Apart memory other

instance (left : Program α) (right : Program β) : Decidable (memory.Apart left right) :=
  inferInstanceAs (Decidable (∀ one ∈ memory.requests left, ∀ other ∈ memory.requests right, _))

theorem outcome_call (memory : Memory) (request : Request)
    (resume : Except Failure request.Answer → Program α) :
    memory.outcome (.call request resume) =
      (memory.answer request).2.outcome (resume (memory.answer request).1) := rfl

theorem after_call (memory : Memory) (request : Request)
    (resume : Except Failure request.Answer → Program α) :
    memory.after (.call request resume) =
      (memory.answer request).2.after (resume (memory.answer request).1) := rfl

theorem request_past {request : Request} {program : Program α}
    (apart : ∀ other ∈ memory.requests program, request.Apart memory other) :
    (memory.answer request).2.requests program = memory.requests program ∧
      (memory.answer request).2.outcome program = memory.outcome program ∧
      ((memory.after program).answer request).1 = (memory.answer request).1 ∧
      ((memory.after program).answer request).2 = (memory.answer request).2.after program := by
  induction program generalizing memory with
  | done value => exact ⟨rfl, rfl, rfl, rfl⟩
  | call other resume ih =>
    have first : request.Apart memory other := apart other List.mem_cons_self
    obtain ⟨same, left⟩ := answer_comm first
    obtain ⟨brought, -⟩ := answer_comm first.symm
    have rest : ∀ later ∈ (memory.answer other).2.requests (resume (memory.answer other).1),
        request.Apart (memory.answer other).2 later :=
      fun later member => (apart_answer other).mpr (apart later (List.mem_cons_of_mem _ member))
    obtain ⟨requests, outcome, answer, after⟩ := ih (memory.answer other).1 rest
    refine ⟨?_, ?_, ?_, ?_⟩
    · rw [Memory.requests, Memory.requests, same, left, requests]
    · rw [outcome_call, outcome_call, same, left, outcome]
    · rw [after_call, answer, brought]
    · rw [after_call, after_call, same, left, after]

theorem apart_rest_left {request : Request} {resume : Except Failure request.Answer → Program α}
    {right : Program β} (apart : memory.Apart (.call request resume) right) :
    (memory.answer request).2.Apart (resume (memory.answer request).1) right := by
  have past := request_past (apart request List.mem_cons_self)
  intro one member other member'
  rw [past.1] at member'
  exact (apart_answer request).mpr (apart one (List.mem_cons_of_mem _ member) other member')

theorem Apart.symm {left : Program α} {right : Program β} (apart : memory.Apart left right) :
    memory.Apart right left :=
  fun one member other member' => (apart other member' one member).symm

theorem after_comm {left : Program α} {right : Program β} (apart : memory.Apart left right) :
    (memory.after left).after right = (memory.after right).after left := by
  induction right generalizing memory with
  | done value => rfl
  | call request resume ih =>
    have past := request_past (apart.symm request List.mem_cons_self)
    obtain ⟨-, -, brought, left_behind⟩ := past
    have rest := (apart_rest_left apart.symm).symm
    rw [after_call, after_call, brought, left_behind, ih _ rest]

end Memory

/-! ### Taking turns -/

inductive Turn where
  | left
  | right
deriving DecidableEq, Repr

namespace Memory

/-- The programs carried out with their requests in the order of the turns: what both bring, and
what they leave. There have to be as many turns as requests. -/
def interleave (memory : Memory) (left : Program α) (right : Program β) :
    List Turn → Option (α × β × Memory)
  | [] =>
    match left, right with
    | .done one, .done other => some (one, other, memory)
    | _, _ => none
  | .left :: turns =>
    match left with
    | .done _ => none
    | .call request resume =>
      (memory.answer request).2.interleave (resume (memory.answer request).1) right turns
  | .right :: turns =>
    match right with
    | .done _ => none
    | .call request resume =>
      (memory.answer request).2.interleave left (resume (memory.answer request).1) turns

/-- As many turns for each as it makes requests by itself. -/
def Fits (memory : Memory) (left : Program α) (right : Program β) (turns : List Turn) : Prop :=
  turns.count .left = (memory.requests left).length ∧
    turns.count .right = (memory.requests right).length

instance (left : Program α) (right : Program β) (turns : List Turn) :
    Decidable (memory.Fits left right turns) := inferInstanceAs (Decidable (_ ∧ _))

/-- Programs that keep apart do not notice one another, whoever's turn it is. Each brings what it
brings by itself, and what they leave is what they leave one after the other, in either order. -/
theorem interleave_apart (left : Program α) (right : Program β) (turns : List Turn)
    (apart : memory.Apart left right) :
    memory.interleave left right turns =
        (if memory.Fits left right turns then
          some (memory.outcome left, memory.outcome right, (memory.after left).after right)
        else none) ∧
      (memory.after left).after right = (memory.after right).after left := by
  refine ⟨?_, after_comm apart⟩
  induction turns generalizing memory left right with
  | nil =>
    cases left with
    | call request resume => exact (if_neg fun fits => nomatch fits.1).symm
    | done one =>
      cases right with
      | call request resume => exact (if_neg fun fits => nomatch fits.2).symm
      | done other => exact (if_pos ⟨rfl, rfl⟩).symm
  | cons turn turns ih =>
    cases turn with
    | left =>
      cases left with
      | done one => exact (if_neg fun fits => by simp [Fits, requests] at fits).symm
      | call request resume =>
        obtain ⟨same, outcome, -, -⟩ := request_past (apart request List.mem_cons_self)
        have fits : (memory.answer request).2.Fits (resume (memory.answer request).1) right turns ↔
            memory.Fits (.call request resume) right (.left :: turns) := by
          simp [Fits, same, requests]
        rw [interleave, ih _ right (apart_rest_left apart), outcome, after_call, outcome_call]
        simp only [fits]
    | right =>
      cases right with
      | done other => exact (if_neg fun fits => by simp [Fits, requests] at fits).symm
      | call request resume =>
        obtain ⟨same, outcome, brought, past⟩ :=
          request_past (apart.symm request List.mem_cons_self)
        have fits : (memory.answer request).2.Fits left (resume (memory.answer request).1) turns ↔
            memory.Fits left (.call request resume) (.right :: turns) := by
          simp [Fits, same, requests]
        rw [interleave, ih left _ (apart_rest_left apart.symm).symm, outcome, after_call,
          outcome_call, brought, past]
        simp only [fits]

end Memory

def Store.revise (store : Store) (name : String) (change : ResourceGrants → ResourceGrants) :
    Action Unit := do
  let project ← store.loadProject name
  store.save (.space name) (change project.grants)

def Memory.unannotated : Memory where
  spaces := .ofList [("shop", {}), ("site", {})]
  secrets := .ofList [(("site", "key"), {})]

/-- One looks at a project and edits another, while a secret of the first is given its grants. -/
theorem Memory.interleave_apart_shop :
    let left := (do
      let grants ← Store.organizationGrants {} "site"
      Store.revise {} "shop" fun _ =>
        { grants with users := [{ principal := "ann", role := .viewer }] }).run
    let right := (do
      let secret ← Store.loadSecret {} "site" "key"
      Store.save {} (.secret "site" "key") secret.project.grants).run
    unannotated.interleave left right [.right, .left, .left, .right, .left, .right] =
      some (.ok (), .ok (), (unannotated.after right).after left) := by
  intro left right
  have apart : unannotated.Apart left right := by decide +kernel
  obtain ⟨run, order⟩ :=
    interleave_apart left right [.right, .left, .left, .right, .left, .right] apart
  rw [run, order]
  rfl

end ScopedGrants.Cluster
