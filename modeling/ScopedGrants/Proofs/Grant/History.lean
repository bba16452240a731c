import ScopedGrants.Proofs.Grant.Canonical

/-!
Where the grants of an edited list come from. Every one of them was there at first or was submitted
as it stands, and no edit that went through since then was aimed at it.
-/

namespace ScopedGrants.Grants

namespace Edit

def grant? : Edit → Option Grant
  | upsert grant | set grant => some grant
  | deduplicate | revoke _ | prune _ => none

def goesThrough (edit : Edit) : Bool := edit.grant?.all fun grant => ! Text.blank grant.principal

/-- The edit is to leave no such grant of those that it finds. -/
def Targets (grant : Grant) : Edit → Prop
  | revoke principal => Principal.Same grant.principal principal
  | prune now => ∃ expiry, grant.expires = some expiry ∧ expiry ≤ now
  | set other => other.principal = grant.principal
  | deduplicate | upsert _ => False

end Edit

def submitted (edits : List Edit) : List Grant := edits.filterMap Edit.grant?

/-- The grant was in the list or was submitted by an edit, and none since then is aimed at it, as
far as edits count. -/
def Origin (counts : Edit → Bool) (grants : List Grant) (edits : List Edit) (grant : Grant) :
    Prop :=
  (grant ∈ grants ∧ ∀ edit ∈ edits, counts edit → ¬ edit.Targets grant) ∨
    ∃ before edit after, edits = before ++ edit :: after ∧ edit.grant? = some grant ∧
      counts edit ∧ ∀ later ∈ after, counts later → ¬ later.Targets grant

variable {grants edited : List Grant} {grant : Grant} {edit : Edit} {edits : List Edit}

/-! ### One edit -/

theorem apply_ok_iff (edit : Edit) (grants : List Grant) :
    (∃ edited, edit.apply grants = .ok edited) ↔ edit.goesThrough := by
  cases edit with
  | upsert grant =>
    simp only [Edit.apply, upsert, edited_eq_ok, exists_and_left, exists_eq, and_true]
    simp [Edit.goesThrough, Edit.grant?]
  | set grant =>
    simp only [Edit.apply, set, edited_eq_ok, exists_and_left, exists_eq, and_true]
    simp [Edit.goesThrough, Edit.grant?]
  | deduplicate => simp [Edit.apply, Edit.goesThrough, Edit.grant?]
  | revoke principal => simp [Edit.apply, Edit.goesThrough, Edit.grant?]
  | prune now => simp [Edit.apply, Edit.goesThrough, Edit.grant?]

theorem mem_of_deduplicate (member : grant ∈ deduplicate grants) : grant ∈ grants :=
  (mem_deduplicate.mp member).2.mem

theorem mem_of_stored {kept : List Grant} {latest : Grant}
    (member : grant ∈ deduplicate (kept ++ [latest])) : grant ∈ kept ∨ latest = grant := by
  rcases List.mem_append.mp (mem_of_deduplicate member) with earlier | last
  · exact Or.inl earlier
  · exact Or.inr (List.mem_singleton.mp last).symm

theorem mem_of_apply (ran : edit.apply grants = .ok edited) (member : grant ∈ edited) :
    (grant ∈ grants ∧ ¬ edit.Targets grant) ∨ edit.grant? = some grant := by
  cases edit with
  | deduplicate =>
    cases ran
    exact Or.inl ⟨mem_of_deduplicate member, id⟩
  | upsert latest =>
    obtain ⟨-, rfl⟩ := edited_eq_ok.mp ran
    rcases mem_of_stored member with earlier | rfl
    · exact Or.inl ⟨earlier, id⟩
    · exact Or.inr rfl
  | set latest =>
    obtain ⟨-, rfl⟩ := edited_eq_ok.mp ran
    rcases mem_of_stored member with earlier | rfl
    · obtain ⟨present, different⟩ := List.mem_filter.mp earlier
      refine Or.inl ⟨present, fun same => ?_⟩
      exact absurd same.symm (by simpa using different)
    · exact Or.inr rfl
  | revoke principal =>
    cases ran
    obtain ⟨present, spared⟩ := List.mem_filter.mp member
    exact Or.inl ⟨present, by simpa [Edit.Targets] using spared⟩
  | prune now =>
    cases ran
    obtain ⟨present, spared⟩ := List.mem_filter.mp member
    refine Or.inl ⟨present, ?_⟩
    rintro ⟨expiry, bound, past⟩
    simp [Grant.expiredAt, bound, past] at spared

theorem mem_of_next (member : grant ∈ edit.next grants) :
    (grant ∈ grants ∧ (edit.goesThrough → ¬ edit.Targets grant)) ∨
      edit.grant? = some grant ∧ edit.goesThrough := by
  unfold Edit.next at member
  split at member
  case h_1 ran =>
    have through := (apply_ok_iff edit grants).mp ⟨_, ran⟩
    rcases mem_of_apply ran member with ⟨earlier, missed⟩ | stored
    · exact Or.inl ⟨earlier, fun _ => missed⟩
    · exact Or.inr ⟨stored, through⟩
  case h_2 failed =>
    refine Or.inl ⟨member, fun through => ?_⟩
    obtain ⟨edited, ran⟩ := (apply_ok_iff edit grants).mpr through
    cases failed.symm.trans ran

/-! ### Many edits -/

theorem run_origin (member : grant ∈ run grants edits) :
    Origin Edit.goesThrough grants edits grant := by
  -- The first edit either leaves the grant that the rest find or is its origin itself.
  induction edits generalizing grants with
  | nil => exact Or.inl ⟨member, by simp⟩
  | cons edit rest ih =>
    rcases ih member with ⟨there, spared⟩ | ⟨before, other, after, rfl, stored, through, spared⟩
    · rcases mem_of_next there with ⟨earlier, missed⟩ | ⟨stored, through⟩
      · exact Or.inl ⟨earlier, List.forall_mem_cons.mpr ⟨missed, spared⟩⟩
      · exact Or.inr ⟨[], edit, rest, rfl, stored, through, spared⟩
    · exact Or.inr ⟨edit :: before, other, after, rfl, stored, through, spared⟩

theorem run_append (grants : List Grant) (before after : List Edit) :
    run grants (before ++ after) = run (run grants before) after := by
  induction before generalizing grants with
  | nil => rfl
  | cons edit rest ih => exact ih (edit.next grants)

theorem run_revoked {principal : String} {before after : List Edit}
    (idle : ∀ edit ∈ after, edit.goesThrough → ∀ grant, edit.grant? = some grant →
      ¬ Principal.Same grant.principal principal)
    (member : grant ∈ run grants (before ++ .revoke principal :: after)) :
    ¬ Principal.Same grant.principal principal := by
  rw [run_append] at member
  -- What the revocation left cannot be the principal's, and no later origin is.
  have origin : Origin Edit.goesThrough (run grants before) (.revoke principal :: after) grant :=
    run_origin member
  rcases origin with ⟨-, spared⟩ | ⟨early, edit, late, split, stored, through, -⟩
  · exact spared _ List.mem_cons_self rfl
  · have known : edit ∈ .revoke principal :: after := by simp [split]
    rcases List.mem_cons.mp known with rfl | later
    · cases stored
    · exact idle edit later through grant stored

theorem mem_submitted (member : grant ∈ run grants edits) : grant ∈ grants ++ submitted edits := by
  apply List.mem_append.mpr
  rcases run_origin member with ⟨there, -⟩ | ⟨before, edit, after, rfl, stored, -⟩
  · exact Or.inl there
  · exact Or.inr (List.mem_filterMap.mpr ⟨edit, by simp, stored⟩)

end ScopedGrants.Grants
