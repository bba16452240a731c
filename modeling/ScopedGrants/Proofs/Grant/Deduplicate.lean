import Mathlib.Data.List.Induction
import Mathlib.Data.List.Nodup
import ScopedGrants.Grant.Edit
import ScopedGrants.Proofs.Role

/-!
What deduplication keeps. For each principal it keeps the first of the grants that no other one to
that principal outranks, and nothing else.
-/

namespace ScopedGrants.Grants

/-! ### The grants that lead a list -/

/-- The grant stands in the list, above those to its principal before it and no lower than those
after it. -/
def Leads (grants : List Grant) (grant : Grant) : Prop :=
  ∃ before after, grants = before ++ grant :: after ∧
    (∀ other ∈ before, other.principal = grant.principal → other.role < grant.role) ∧
    ∀ other ∈ after, other.principal = grant.principal → other.role ≤ grant.role

variable {grants kept : List Grant} {grant latest : Grant}

theorem Leads.mem (leads : Leads grants grant) : grant ∈ grants := by
  obtain ⟨before, after, rfl, -, -⟩ := leads
  exact List.mem_append_right _ List.mem_cons_self

theorem Leads.outranks (leads : Leads grants grant) {other : Grant} (member : other ∈ grants)
    (same : other.principal = grant.principal) : other.role ≤ grant.role := by
  obtain ⟨before, after, rfl, lower, upper⟩ := leads
  rcases List.mem_append.mp member with earlier | later
  · exact le_of_lt (lower other earlier same)
  · rcases List.mem_cons.mp later with rfl | later
    · exact le_refl other.role
    · exact upper other later same

theorem Leads.filter {keep : Grant → Bool} (leads : Leads grants grant) (kept : keep grant) :
    Leads (grants.filter keep) grant := by
  obtain ⟨before, after, rfl, lower, upper⟩ := leads
  refine ⟨before.filter keep, after.filter keep, by simp [kept], fun other member => ?_,
    fun other member => ?_⟩
  · exact lower other (List.mem_filter.mp member).1
  · exact upper other (List.mem_filter.mp member).1

/-- One more grant leads if all before it are lower, and ends the lead of those that are. -/
theorem leads_append :
    Leads (grants ++ [latest]) grant ↔
      (Leads grants grant ∧ (latest.principal = grant.principal → latest.role ≤ grant.role)) ∨
        (grant = latest ∧
          ∀ other ∈ grants, other.principal = latest.principal → other.role < latest.role) := by
  constructor
  · rintro ⟨before, after, split, lower, upper⟩
    rcases List.eq_nil_or_concat after with rfl | ⟨middle, last, rfl⟩
    · obtain ⟨rfl, ended⟩ := List.append_inj' split rfl
      obtain ⟨rfl, -⟩ := List.cons.inj ended
      exact Or.inr ⟨rfl, lower⟩
    · rw [List.concat_eq_append, ← List.cons_append, ← List.append_assoc] at split
      obtain ⟨rfl, ended⟩ := List.append_inj' split rfl
      obtain ⟨rfl, -⟩ := List.cons.inj ended
      rw [List.concat_eq_append] at upper
      refine Or.inl ⟨⟨before, middle, rfl, lower, fun other member => ?_⟩, ?_⟩
      · exact upper other (List.mem_append_left _ member)
      · exact upper latest (List.mem_append_right _ (List.mem_singleton.mpr rfl))
  · rintro (⟨⟨before, after, rfl, lower, upper⟩, last⟩ | ⟨rfl, lower⟩)
    · refine ⟨before, after ++ [latest], by simp, lower, fun other member => ?_⟩
      rcases List.mem_append.mp member with earlier | equal
      · exact upper other earlier
      · exact List.mem_singleton.mp equal ▸ last
    · exact ⟨grants, [], rfl, lower, fun other member => absurd member List.not_mem_nil⟩

theorem exists_leads (member : grant ∈ grants) :
    ∃ leader, Leads grants leader ∧ leader.principal = grant.principal := by
  induction grants using List.reverseRecOn generalizing grant with
  | nil => exact absurd member List.not_mem_nil
  | append_singleton grants latest ih =>
    by_cases known : ∃ other ∈ grants, other.principal = grant.principal
    · obtain ⟨other, present, same⟩ := known
      obtain ⟨leader, leads, led⟩ := ih present
      by_cases challenged : latest.principal = leader.principal ∧ leader.role < latest.role
      · obtain ⟨shared, higher⟩ := challenged
        refine ⟨latest, leads_append.mpr (Or.inr ⟨rfl, fun rival found equal => ?_⟩),
          shared.trans (led.trans same)⟩
        exact lt_of_le_of_lt (leads.outranks found (equal.trans shared)) higher
      · refine ⟨leader, leads_append.mpr (Or.inl ⟨leads, fun shared => ?_⟩), led.trans same⟩
        exact not_lt.mp fun higher => challenged ⟨shared, higher⟩
    · have new : grant = latest := by
        rcases List.mem_append.mp member with earlier | last
        · exact absurd ⟨grant, earlier, rfl⟩ known
        · exact List.mem_singleton.mp last
      subst new
      refine ⟨grant, leads_append.mpr (Or.inr ⟨rfl, fun other found same => ?_⟩), rfl⟩
      exact absurd ⟨other, found, same⟩ known

/-! ### Taking in one grant -/

/-- A principal that is new comes last, and one that is not stays in its place. -/
theorem absorb_principals (grant : Grant) (kept : List Grant) :
    (absorb grant kept).map (·.principal) =
      if grant.principal ∈ kept.map (·.principal) then kept.map (·.principal)
      else kept.map (·.principal) ++ [grant.principal] := by
  induction kept with
  | nil => rfl
  | cons first rest ih =>
    unfold absorb
    by_cases same : first.principal = grant.principal
    · rw [if_pos same]
      split <;> simp [same]
    · rw [if_neg same, List.map_cons, ih, List.map_cons]
      by_cases known : grant.principal ∈ rest.map (·.principal)
      · rw [if_pos known, if_pos (List.mem_cons_of_mem _ known)]
      · have new : grant.principal ∉ first.principal :: rest.map (·.principal) := fun member =>
          (List.mem_cons.mp member).elim (fun equal => same equal.symm) known
        rw [if_neg known, if_neg new, List.cons_append]

theorem absorb_distinct (distinct : (kept.map (·.principal)).Nodup) :
    ((absorb grant kept).map (·.principal)).Nodup := by
  rw [absorb_principals]
  split
  · exact distinct
  · rename_i new
    refine List.nodup_append.mpr ⟨distinct, List.nodup_singleton _, ?_⟩
    intro principal known other last
    obtain rfl := List.mem_singleton.mp last
    exact fun same => new (same ▸ known)

theorem mem_absorb (distinct : (kept.map (·.principal)).Nodup) :
    grant ∈ absorb latest kept ↔
      (grant ∈ kept ∧ (latest.principal = grant.principal → latest.role ≤ grant.role)) ∨
        (grant = latest ∧
          ∀ other ∈ kept, other.principal = latest.principal → other.role < latest.role) := by
  induction kept with
  | nil => simp [absorb]
  | cons first rest ih =>
    rw [List.map_cons, List.nodup_cons] at distinct
    obtain ⟨new, distinct⟩ := distinct
    have apart : ∀ other ∈ rest, other.principal ≠ first.principal := fun other member same =>
      new (List.mem_map.mpr ⟨other, member, same⟩)
    unfold absorb
    by_cases same : first.principal = latest.principal
    · rw [if_pos same]
      have higher := lt_or_ge first.role latest.role
      grind
    · rw [if_neg same, List.mem_cons, ih distinct]
      grind

theorem absorb_new (new : ∀ other ∈ kept, other.principal ≠ grant.principal) :
    absorb grant kept = kept ++ [grant] := by
  induction kept with
  | nil => rfl
  | cons first rest ih =>
    have different := new first List.mem_cons_self
    have later := ih fun other member => new other (List.mem_cons_of_mem _ member)
    rw [absorb, if_neg different, later, List.cons_append]

theorem filter_absorb {keep : Grant → Bool}
    (fair : ∀ one other : Grant, one.principal = other.principal → keep one = keep other) :
    (absorb grant kept).filter keep =
      if keep grant then absorb grant (kept.filter keep) else kept.filter keep := by
  induction kept with
  | nil => rw [absorb, List.filter_nil, List.filter_cons, List.filter_nil, absorb]
  | cons first rest ih =>
    by_cases same : first.principal = grant.principal
    · -- Whichever of the two stays here, it is to the same principal.
      have led : keep (if first.role < grant.role then grant else first) = keep grant := by
        split
        · rfl
        · exact fair first grant same
      rw [absorb, if_pos same, List.filter_cons, List.filter_cons, led, fair first grant same]
      split
      · rw [absorb, if_pos same]
      · rfl
    · rw [absorb, if_neg same, List.filter_cons, List.filter_cons, ih]
      by_cases taken : keep grant = true
      · rw [if_pos taken, if_pos taken]
        split
        · rw [absorb, if_neg same]
        · rfl
      · rw [if_neg taken, if_neg taken]

/-! ### Taking in a list -/

/-- The second list is what remains of the first with one grant per principal. -/
structure Keeps (grants kept : List Grant) : Prop where
  distinct : (kept.map (·.principal)).Nodup
  leads : ∀ grant, grant ∈ kept ↔ grant.principal ≠ "" ∧ Leads grants grant

theorem keeps_nobody (keeps : Keeps grants kept) (nobody : latest.principal = "") :
    Keeps (grants ++ [latest]) kept where
  distinct := keeps.distinct
  leads grant := by
    rw [keeps.leads, leads_append]
    constructor
    · rintro ⟨named, leads⟩
      exact ⟨named, Or.inl ⟨leads, fun same => absurd (same ▸ nobody) named⟩⟩
    · rintro ⟨named, ⟨leads, -⟩ | ⟨rfl, -⟩⟩
      · exact ⟨named, leads⟩
      · exact absurd nobody named

theorem keeps_absorb (keeps : Keeps grants kept) (named : latest.principal ≠ "") :
    Keeps (grants ++ [latest]) (absorb latest kept) where
  distinct := absorb_distinct keeps.distinct
  leads grant := by
    -- The latest grant is above those to its principal exactly if it is above the one kept.
    have above : (∀ other ∈ kept, other.principal = latest.principal → other.role < latest.role) ↔
        ∀ other ∈ grants, other.principal = latest.principal → other.role < latest.role := by
      constructor
      · intro lower other member same
        obtain ⟨leader, leads, led⟩ := exists_leads member
        have present : leader ∈ kept := (keeps.leads leader).mpr ⟨led.trans same ▸ named, leads⟩
        exact lt_of_le_of_lt (leads.outranks member led.symm)
          (lower leader present (led.trans same))
      · intro lower other member
        exact lower other ((keeps.leads other).mp member).2.mem
    rw [mem_absorb keeps.distinct, keeps.leads, leads_append, above]
    constructor
    · rintro (⟨⟨others, leads⟩, last⟩ | ⟨rfl, lower⟩)
      · exact ⟨others, Or.inl ⟨leads, last⟩⟩
      · exact ⟨named, Or.inr ⟨rfl, lower⟩⟩
    · rintro ⟨others, ⟨leads, last⟩ | latest⟩
      · exact Or.inl ⟨⟨others, leads⟩, last⟩
      · exact Or.inr latest

theorem foldl_keeps {rest : List Grant} (keeps : Keeps grants kept) :
    Keeps (grants ++ rest) (rest.foldl
      (fun kept grant => if grant.principal = "" then kept else absorb grant kept) kept) := by
  induction rest generalizing grants kept with
  | nil => simpa using keeps
  | cons grant rest ih =>
    rw [List.foldl_cons, List.append_cons]
    split
    · rename_i nobody
      exact ih (keeps_nobody keeps nobody)
    · rename_i named
      exact ih (keeps_absorb keeps named)

theorem deduplicate_keeps (grants : List Grant) : Keeps grants (deduplicate grants) :=
  have none : Keeps [] [] := ⟨List.nodup_nil, by simp [Leads]⟩
  foldl_keeps none

theorem deduplicate_append (grants : List Grant) (named : grant.principal ≠ "") :
    deduplicate (grants ++ [grant]) = absorb grant (deduplicate grants) := by
  rw [deduplicate, List.foldl_append, List.foldl_cons, List.foldl_nil, if_neg named]
  rfl

theorem deduplicate_append_nobody (grants : List Grant) (nobody : grant.principal = "") :
    deduplicate (grants ++ [grant]) = deduplicate grants := by
  rw [deduplicate, List.foldl_append, List.foldl_cons, List.foldl_nil, if_pos nobody]
  rfl

theorem filter_deduplicate {keep : Grant → Bool} (grants : List Grant)
    (fair : ∀ one other : Grant, one.principal = other.principal → keep one = keep other) :
    (deduplicate grants).filter keep = deduplicate (grants.filter keep) := by
  induction grants using List.reverseRecOn with
  | nil => rfl
  | append_singleton grants latest ih =>
    rw [List.filter_append, List.filter_cons, List.filter_nil]
    by_cases nobody : latest.principal = ""
    · rw [deduplicate_append_nobody grants nobody, ih]
      split
      · rw [deduplicate_append_nobody _ nobody]
      · rw [List.append_nil]
    · rw [deduplicate_append grants nobody, filter_absorb fair, ih]
      split
      · rw [deduplicate_append _ nobody]
      · rw [List.append_nil]

/-! ### What remains -/

/-- One grant per principal, the one that leads. -/
theorem mem_deduplicate :
    grant ∈ deduplicate grants ↔ grant.principal ≠ "" ∧ Leads grants grant :=
  (deduplicate_keeps grants).leads grant

theorem deduplicate_distinct (grants : List Grant) :
    ((deduplicate grants).map (·.principal)).Nodup := (deduplicate_keeps grants).distinct

/-- No grant to somebody is dropped but for one to the same principal that ranks no lower. -/
theorem deduplicate_upholds (member : grant ∈ grants) (named : grant.principal ≠ "") :
    ∃ holder ∈ deduplicate grants,
      holder.principal = grant.principal ∧ grant.role ≤ holder.role := by
  obtain ⟨leader, leads, led⟩ := exists_leads member
  exact ⟨leader, mem_deduplicate.mpr ⟨led ▸ named, leads⟩, led, leads.outranks member led.symm⟩

theorem leads_of_distinct (distinct : (grants.map (·.principal)).Nodup) :
    Leads grants grant ↔ grant ∈ grants := by
  refine ⟨Leads.mem, fun member => ?_⟩
  obtain ⟨leader, leads, led⟩ := exists_leads member
  exact List.inj_on_of_nodup_map distinct leads.mem member led ▸ leads

end ScopedGrants.Grants
