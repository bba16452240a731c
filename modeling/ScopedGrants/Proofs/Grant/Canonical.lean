import ScopedGrants.Proofs.Grant.Edit

/-!
Lists in good order. Deduplicating brings every list into it and leaves those alone that are in it
already, and no edit takes a list out of it.
-/

namespace ScopedGrants.Grants

/-- Nobody holds a grant, and no principal holds two. -/
structure Canonical (grants : List Grant) : Prop where
  named : ∀ grant ∈ grants, grant.principal ≠ ""
  distinct : (grants.map (·.principal)).Nodup

variable {grants edited kept : List Grant} {grant : Grant}

theorem deduplicate_canonical (grants : List Grant) : Canonical (deduplicate grants) where
  named _ member := (mem_deduplicate.mp member).1
  distinct := deduplicate_distinct grants

theorem Canonical.filter (canonical : Canonical grants) (keep : Grant → Bool) :
    Canonical (grants.filter keep) where
  named grant member := canonical.named grant (List.mem_filter.mp member).1
  distinct := by
    have part : (grants.filter keep).Sublist grants := List.filter_sublist
    exact canonical.distinct.sublist (part.map _)

/-! ### Lists that are in order -/

theorem Canonical.deduplicate (canonical : Canonical grants) : deduplicate grants = grants := by
  induction grants using List.reverseRecOn with
  | nil => rfl
  | append_singleton earlier last ih =>
    have named : last.principal ≠ "" := canonical.named last (by simp)
    have distinct := canonical.distinct
    rw [List.map_append, List.nodup_append] at distinct
    obtain ⟨apart, -, new⟩ := distinct
    have settled := ih ⟨fun other member => canonical.named other (by simp [member]), apart⟩
    rw [deduplicate_append earlier named, settled]
    apply absorb_new
    intro other member
    exact new other.principal (List.mem_map_of_mem member) last.principal (by simp)

/-! ### Edits -/

theorem upsert_rejected (blank : Text.blank grant.principal = true) :
    upsert grants grant = .error .blankPrincipal := by
  simp [upsert, accepted, blank, bind, Except.bind]

theorem set_rejected (blank : Text.blank grant.principal = true) :
    set grants grant = .error .blankPrincipal := by
  simp [set, accepted, blank, bind, Except.bind]

theorem edited_eq_ok {place : Grant → List Grant} :
    (do return deduplicate (place (← accepted grant))) = Except.ok edited ↔
      Text.blank grant.principal = false ∧ edited = deduplicate (place grant) := by
  rw [accepted]
  cases Text.blank grant.principal with
  | true => simp [bind, Except.bind]
  | false => simp [bind, Except.bind, pure, Except.pure, eq_comm]

theorem edited_canonical {place : Grant → List Grant}
    (ran : (do return deduplicate (place (← accepted grant))) = Except.ok edited) :
    Canonical edited := by
  obtain ⟨-, rfl⟩ := edited_eq_ok.mp ran
  exact deduplicate_canonical (place grant)

theorem Canonical.upsert (canonical : Canonical grants)
    (named : Text.blank grant.principal = false) :
    upsert grants grant = .ok (absorb grant grants) := by
  rw [upsert_eq named, deduplicate_append grants (ne_nobody named), canonical.deduplicate]

theorem Canonical.set (canonical : Canonical grants)
    (named : Text.blank grant.principal = false) :
    set grants grant = .ok (grants.filter (·.principal ≠ grant.principal) ++ [grant]) := by
  have spared := canonical.filter (·.principal ≠ grant.principal)
  rw [set_eq named, deduplicate_append _ (ne_nobody named), spared.deduplicate]
  congr 1
  apply absorb_new
  intro other member
  simpa using (List.mem_filter.mp member).2

/-- The list after an edit. One whose grant is turned away leaves the list as it was. -/
def Edit.next (edit : Edit) (grants : List Grant) : List Grant :=
  match edit.apply grants with
  | .ok edited => edited
  | .error _ => grants

def run (grants : List Grant) : List Edit → List Grant
  | [] => grants
  | edit :: rest => run (edit.next grants) rest

end ScopedGrants.Grants
