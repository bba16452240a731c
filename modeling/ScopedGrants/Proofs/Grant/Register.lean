import ScopedGrants.Proofs.Grant.Deduplicate
import ScopedGrants.Proofs.SortedMap

/-!
Deduplication as one pass. The pass keeps a list of grants, and beside it an index of the places at
which the principals' grants stand in the list. The index and the list stay in step, so that no
place is ever looked up in vain, and the list comes out as `deduplicate` has it: the first grant of
the highest role for each principal, in the order in which the principals first come up.
-/

namespace ScopedGrants.Grants

/-- The grants kept so far, and the place of each principal's grant among them. -/
structure Register where
  kept : List Grant := []
  places : SortedMap String Nat := .empty

namespace Register

/-- Takes one grant in. There is no result if the place of its principal is none in the list. -/
def take (register : Register) (grant : Grant) : Option Register :=
  if grant.principal = "" then some register
  else
    match register.places.get? grant.principal with
    | none => some
      { kept := register.kept ++ [grant]
        places := register.places.insert grant.principal register.kept.length }
    | some place => do
      let holder ← register.kept[place]?
      let kept := if holder.role < grant.role then register.kept.set place grant else register.kept
      return { register with kept }

def ofGrants (grants : List Grant) : Option Register := grants.foldlM take {}

/-- The index has exactly the principals of the list, each where its grant stands. -/
def Indexed (register : Register) : Prop :=
  ∀ principal, register.places.get? principal =
    (register.kept.map (·.principal)).findIdx? (· = principal)

variable {register : Register} {grants kept : List Grant} {grant holder : Grant} {place : Nat}

/-! ### One grant -/

theorem Indexed.holds {principal : String} (indexed : register.Indexed)
    (found : register.places.get? principal = some place) :
    ∃ holder, register.kept[place]? = some holder ∧ holder.principal = principal := by
  rw [indexed principal] at found
  obtain ⟨inside, same, -⟩ := List.findIdx?_eq_some_iff_getElem.mp found
  rw [List.length_map] at inside
  rw [List.getElem_map] at same
  exact ⟨register.kept[place], List.getElem?_eq_getElem inside, of_decide_eq_true same⟩

theorem absorb_known
    (found : (kept.map (·.principal)).findIdx? (· = grant.principal) = some place) :
    ∃ holder, kept[place]? = some holder ∧
      absorb grant kept = if holder.role < grant.role then kept.set place grant else kept := by
  induction kept generalizing place with
  | nil => cases found
  | cons first rest ih =>
    rw [List.map_cons, List.findIdx?_cons] at found
    by_cases same : first.principal = grant.principal
    · rw [if_pos (decide_eq_true same)] at found
      obtain rfl := Option.some.inj found
      refine ⟨first, rfl, ?_⟩
      rw [absorb, if_pos same]
      split <;> rfl
    · rw [if_neg (by simpa using same)] at found
      obtain ⟨later, known, rfl⟩ := Option.map_eq_some_iff.mp found
      obtain ⟨holder, held, absorbed⟩ := ih known
      refine ⟨holder, held, ?_⟩
      rw [absorb, if_neg same, absorbed]
      split <;> rfl

theorem take_nobody (nobody : grant.principal = "") : register.take grant = some register := by
  rw [take, if_pos nobody]

theorem take_new (somebody : grant.principal ≠ "")
    (absent : register.places.get? grant.principal = none) :
    register.take grant = some
      { kept := register.kept ++ [grant]
        places := register.places.insert grant.principal register.kept.length } := by
  rw [take, if_neg somebody, absent]

theorem take_known (somebody : grant.principal ≠ "")
    (found : register.places.get? grant.principal = some place)
    (held : register.kept[place]? = some holder) :
    register.take grant = some
      { kept := if holder.role < grant.role then register.kept.set place grant else register.kept
        places := register.places } := by
  rw [take, if_neg somebody, found]
  simp only [held, bind, Option.bind, pure]

theorem take_indexed (indexed : register.Indexed) (somebody : grant.principal ≠ "") :
    ∃ next, register.take grant = some next ∧ next.Indexed ∧
      next.kept = absorb grant register.kept := by
  have order := absorb_principals grant register.kept
  cases stored : register.places.get? grant.principal with
  | none =>
    have absent := List.findIdx?_eq_none_iff.mp ((indexed grant.principal).symm.trans stored)
    have new : ∀ other ∈ register.kept, other.principal ≠ grant.principal := by
      intro other member
      exact of_decide_eq_false (absent other.principal (List.mem_map_of_mem member))
    refine ⟨_, take_new somebody stored, ?_, (absorb_new new).symm⟩
    -- The grant stands behind all others, so that whoever was found before is found there still.
    intro principal
    rw [SortedMap.get?_insert, List.map_append, List.findIdx?_append, ← indexed principal]
    by_cases same : grant.principal = principal
    · subst same
      simp [stored]
    · simp [same]
  | some place =>
    have found := (indexed grant.principal).symm.trans stored
    obtain ⟨holder, held, absorbed⟩ := absorb_known found
    obtain ⟨same_holder, present, same⟩ := indexed.holds stored
    have known : grant.principal ∈ register.kept.map (·.principal) :=
      List.mem_map.mpr ⟨same_holder, List.mem_of_getElem? present, same⟩
    rw [if_pos known, absorbed] at order
    refine ⟨_, take_known somebody stored held, ?_, absorbed.symm⟩
    -- Grants are changed only for one to the same principal, so that no place moves.
    intro principal
    rw [order]
    exact indexed principal

/-! ### The pass -/

theorem foldlM_take (indexed : register.Indexed) :
    ∃ next, grants.foldlM take register = some next ∧ next.Indexed ∧
      next.kept = grants.foldl
        (fun kept grant => if grant.principal = "" then kept else absorb grant kept)
        register.kept := by
  induction grants generalizing register with
  | nil => exact ⟨register, rfl, indexed, rfl⟩
  | cons grant rest ih =>
    rw [List.foldlM_cons, List.foldl_cons]
    by_cases nobody : grant.principal = ""
    · rw [take_nobody nobody, if_pos nobody]
      exact ih indexed
    · obtain ⟨next, taken, indexed, kept⟩ := take_indexed indexed nobody
      rw [taken, if_neg nobody, ← kept]
      exact ih indexed

/-- The pass comes to its end, and with what `deduplicate` keeps. -/
theorem ofGrants_eq (grants : List Grant) :
    ∃ register, ofGrants grants = some register ∧ register.Indexed ∧
      register.kept = deduplicate grants := by
  have start : Indexed {} := fun _ => rfl
  exact foldlM_take start

end Register

/-! ### What the pass keeps -/

theorem eraseDups_append_singleton {α : Type} [BEq α] [LawfulBEq α] (values : List α) (value : α) :
    (values ++ [value]).eraseDups =
      if value ∈ values then values.eraseDups else values.eraseDups ++ [value] := by
  rw [List.eraseDups_append, List.cons_removeAll]
  by_cases known : value ∈ values
  · simp [known]
  · simp [known, List.eraseDups_cons]

theorem deduplicate_principals (grants : List Grant) :
    (deduplicate grants).map (·.principal) =
      ((grants.map (·.principal)).filter (· ≠ "")).eraseDups := by
  induction grants using List.reverseRecOn with
  | nil => rfl
  | append_singleton grants latest ih =>
    rw [List.map_append, List.filter_append]
    by_cases nobody : latest.principal = ""
    · rw [deduplicate_append_nobody grants nobody, ih]
      simp [nobody]
    · have last : ([latest].map (·.principal)).filter (· ≠ "") = [latest.principal] := by
        simp [nobody]
      rw [deduplicate_append grants nobody, absorb_principals, ih, last,
        eraseDups_append_singleton]
      simp only [List.mem_eraseDups]

/-- Each principal keeps the first of its highest grants as it stands, in the order in which the
principals first come up, and the pass that finds it looks up no place that is not there. -/
theorem deduplicate_first_highest (grants : List Grant) :
    (deduplicate grants).map (·.principal) =
      ((grants.map (·.principal)).filter (· ≠ "")).eraseDups ∧
    (∀ grant, grant ∈ deduplicate grants ↔ grant.principal ≠ "" ∧ Leads grants grant) ∧
    ∃ register, Register.ofGrants grants = some register ∧ register.kept = deduplicate grants ∧
      ∀ principal place, register.places.get? principal = some place →
        ∃ holder, register.kept[place]? = some holder ∧ holder.principal = principal := by
  obtain ⟨register, passed, indexed, kept⟩ := Register.ofGrants_eq grants
  refine ⟨deduplicate_principals grants, fun grant => mem_deduplicate, register, passed, kept, ?_⟩
  intro principal place found
  exact indexed.holds found

end ScopedGrants.Grants
