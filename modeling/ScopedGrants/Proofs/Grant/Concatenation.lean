import ScopedGrants.Proofs.Grant.Canonical

/-!
Deduplicating lists that are put together. A part may be deduplicated on its own first, and the
grants of a part may be added one at a time: the grants that remain, their windows and their order
are those of one pass over everything.
-/

namespace ScopedGrants.Grants

variable {grants kept rest : List Grant} {grant first other : Grant}

/-! ### Two grants in either order -/

/-- Of two grants to one principal only the higher needs to be taken in, the first on equal
terms. -/
theorem absorb_absorb (same : first.principal = grant.principal) (kept : List Grant) :
    absorb grant (absorb first kept) =
      absorb (if first.role < grant.role then grant else first) kept := by
  have led : (if first.role < grant.role then grant else first).principal = grant.principal := by
    split
    · rfl
    · exact same
  induction kept with
  | nil => rw [absorb, absorb, absorb, if_pos same]
  | cons held rest ih =>
    rw [absorb, absorb, led, ← same]
    by_cases known : held.principal = first.principal
    · -- Three grants to one principal: the two in hand compare as they do with what is held.
      have order := lt_trichotomy first.role grant.role
      rw [if_pos known, if_pos known, absorb]
      grind
    · rw [if_neg known, if_neg known, absorb, ← same, if_neg known, ih]

/-- A principal that has its place keeps it, whoever else is taken in before. -/
theorem absorb_comm (known : grant.principal ∈ kept.map (·.principal))
    (apart : other.principal ≠ grant.principal) :
    absorb grant (absorb other kept) = absorb other (absorb grant kept) := by
  induction kept with
  | nil => exact absurd known List.not_mem_nil
  | cons held rest ih =>
    by_cases same : held.principal = grant.principal
    · have different : held.principal ≠ other.principal := fun equal =>
        apart (equal.symm.trans same)
      have winner : (if held.role < grant.role then grant else held).principal ≠
          other.principal := by
        split
        · exact apart.symm
        · exact different
      rw [absorb, if_neg different, absorb, if_pos same, absorb, if_pos same, absorb,
        if_neg winner]
    · have later : grant.principal ∈ rest.map (·.principal) :=
        (List.mem_cons.mp known).resolve_left fun equal => same equal.symm
      by_cases shared : held.principal = other.principal
      · have winner : (if held.role < other.role then other else held).principal ≠
            grant.principal := by
          split
          · exact apart
          · exact same
        rw [absorb, if_pos shared, absorb, if_neg winner, absorb, if_neg same, absorb,
          if_pos shared]
      · rw [absorb, if_neg shared, absorb, if_neg same, absorb, if_neg same, absorb,
          if_neg shared, ih later]

/-! ### A whole list -/

def absorbAll (kept grants : List Grant) : List Grant :=
  grants.foldl (fun kept grant => if grant.principal = "" then kept else absorb grant kept) kept

theorem absorbAll_cons (named : grant.principal ≠ "") :
    absorbAll kept (grant :: rest) = absorbAll (absorb grant kept) rest := by
  rw [absorbAll, List.foldl_cons, if_neg named]
  rfl

theorem absorbAll_append (kept earlier later : List Grant) :
    absorbAll kept (earlier ++ later) = absorbAll (absorbAll kept earlier) later :=
  List.foldl_append

theorem deduplicate_append_list (earlier later : List Grant) :
    deduplicate (earlier ++ later) = absorbAll (deduplicate earlier) later :=
  absorbAll_append [] earlier later

theorem absorbAll_absorb_other (known : grant.principal ∈ kept.map (·.principal))
    (named : ∀ other ∈ rest, other.principal ≠ "")
    (apart : ∀ other ∈ rest, other.principal ≠ grant.principal) :
    absorbAll (absorb grant kept) rest = absorb grant (absorbAll kept rest) := by
  induction rest generalizing kept with
  | nil => rfl
  | cons next rest ih =>
    have taken : grant.principal ∈ (absorb next kept).map (·.principal) := by
      rw [absorb_principals]
      split
      · exact known
      · exact List.mem_append_left _ known
    rw [List.forall_mem_cons] at named apart
    rw [absorbAll_cons named.1, absorbAll_cons named.1, ← absorb_comm known apart.1,
      ih taken named.2 apart.2]

/-- Into a list in good order a grant may be taken before the list itself is taken in, or after. -/
theorem absorbAll_absorb (canonical : Canonical grants) (named : grant.principal ≠ "") :
    absorbAll kept (absorb grant grants) = absorb grant (absorbAll kept grants) := by
  induction grants generalizing kept with
  | nil => exact absorbAll_cons named
  | cons first rest ih =>
    obtain ⟨somebody, others⟩ := List.forall_mem_cons.mp canonical.named
    have distinct := canonical.distinct
    rw [List.map_cons, List.nodup_cons] at distinct
    obtain ⟨new, distinct⟩ := distinct
    rw [absorb]
    by_cases same : first.principal = grant.principal
    · have winner : (if first.role < grant.role then grant else first).principal ≠ "" := by
        split
        · exact named
        · exact somebody
      have known : grant.principal ∈ (absorb first kept).map (·.principal) := by
        rw [absorb_principals, ← same]
        split
        · assumption
        · exact List.mem_append_right _ (List.mem_singleton.mpr rfl)
      have apart : ∀ other ∈ rest, other.principal ≠ grant.principal := fun other member equal =>
        new (List.mem_map.mpr ⟨other, member, equal.trans same.symm⟩)
      rw [if_pos same, absorbAll_cons winner, absorbAll_cons somebody, ← absorb_absorb same,
        absorbAll_absorb_other known others apart]
    · rw [if_neg same, absorbAll_cons somebody, absorbAll_cons somebody, ih ⟨others, distinct⟩]

theorem absorbAll_deduplicate (kept grants : List Grant) :
    absorbAll kept (deduplicate grants) = absorbAll kept grants := by
  induction grants using List.reverseRecOn with
  | nil => rfl
  | append_singleton grants latest ih =>
    by_cases nobody : latest.principal = ""
    · rw [deduplicate_append_nobody grants nobody, ih, absorbAll_append, absorbAll, absorbAll,
        List.foldl_cons, List.foldl_nil, if_pos nobody]
    · rw [deduplicate_append grants nobody, absorbAll_absorb (deduplicate_canonical grants) nobody,
        ih, absorbAll_append, absorbAll_cons nobody]
      rfl

/-! ### One grant at a time -/

theorem foldlM_upsert (canonical : Canonical kept)
    (named : ∀ grant ∈ grants, Text.blank grant.principal = false) :
    grants.foldlM upsert kept = .ok (absorbAll kept grants) := by
  induction grants generalizing kept with
  | nil => rfl
  | cons grant rest ih =>
    rw [List.forall_mem_cons] at named
    have added := canonical.upsert named.1
    rw [List.foldlM_cons, added, absorbAll_cons (ne_nobody named.1)]
    exact ih (edited_canonical added) named.2

/-- Both parts of a list may be deduplicated first, or the first one alone. Adding grants one at a
time, none of them to a blank principal, never fails and comes to adding all of them at once. -/
theorem deduplicate_concatenation :
    (∀ earlier later : List Grant,
      deduplicate (earlier ++ later) = deduplicate (deduplicate earlier ++ deduplicate later) ∧
      deduplicate (deduplicate earlier ++ deduplicate later) =
        deduplicate (deduplicate earlier ++ later)) ∧
    ∀ stored grants : List Grant, grants ≠ [] →
      (∀ grant ∈ grants, Text.blank grant.principal = false) →
      grants.foldlM upsert stored = .ok (deduplicate (stored ++ grants)) := by
  refine ⟨fun earlier later => ?_, fun stored grants some named => ?_⟩
  · have settled := (deduplicate_canonical earlier).deduplicate
    constructor
    · rw [deduplicate_append_list, deduplicate_append_list, settled, absorbAll_deduplicate]
    · rw [deduplicate_append_list, deduplicate_append_list, absorbAll_deduplicate]
  · -- The first grant puts the list in order, whatever it was.
    obtain ⟨first, rest, rfl⟩ := List.exists_cons_of_ne_nil some
    rw [List.forall_mem_cons] at named
    have ordered := deduplicate_canonical (stored ++ [first])
    rw [List.foldlM_cons, upsert_eq named.1, List.append_cons stored first rest,
      deduplicate_append_list (stored ++ [first]) rest]
    exact foldlM_upsert ordered named.2

/-- Ann stands twice in what is stored and comes up again, first as high as she stands and then
higher. -/
theorem deduplicate_concatenation_ann :
    [(⟨"ann", .editor, some 3, none⟩ : Grant), ⟨"bob", .viewer, none, none⟩,
        ⟨"ann", .owner, none, some 9⟩].foldlM upsert
      [⟨"ann", .viewer, none, none⟩, ⟨"", .owner, none, none⟩, ⟨"ann", .editor, none, some 5⟩] =
    .ok [⟨"ann", .owner, none, some 9⟩, ⟨"bob", .viewer, none, none⟩] :=
  deduplicate_concatenation.2 _ _ (by decide) (by decide)

end ScopedGrants.Grants
