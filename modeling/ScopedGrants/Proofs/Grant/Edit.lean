import ScopedGrants.Proofs.Grant.Live

/-!
What adding a grant to a list does to the roles that can be used. The edited list holds one grant
per principal, the one that leads, so that a principal keeps its role only while that one can be
used: a lapsed grant that leads takes the place of a lower one that could still be used.
-/

namespace ScopedGrants.Grants

/-- How high the role is that a list gives to exactly the principal at an instant. -/
def levelAt (grants : List Grant) (principal : String) (now : Instant) : Nat :=
  ((liveRoles grants now).get? principal).elim 0 Role.level

def contribution (grant : Grant) (now : Instant) : Nat :=
  if grant.activeAt now then grant.role.level else 0

variable {grants edited : List Grant} {grant leader : Grant}

theorem upsert_eq (named : Text.blank grant.principal = false) :
    upsert grants grant = .ok (deduplicate (grants ++ [grant])) := by
  simp [upsert, accepted, named, bind, Except.bind, pure, Except.pure]

theorem set_eq (named : Text.blank grant.principal = false) :
    set grants grant =
      .ok (deduplicate (grants.filter (·.principal ≠ grant.principal) ++ [grant])) := by
  simp [set, accepted, named, bind, Except.bind, pure, Except.pure]

theorem ne_nobody (named : Text.blank grant.principal = false) : grant.principal ≠ "" := by
  intro nobody
  rw [nobody] at named
  cases named

/-! ### The principal of the grant -/

theorem levelAt_of_leads {now : Instant} (leads : Leads grants leader) (live : leader.Live now) :
    levelAt grants leader.principal now = leader.role.level := by
  rw [levelAt, get?_liveRoles leads live, Option.elim_some]

theorem levelAt_le (now : Instant) (bound : ∀ other ∈ grants, other.principal = grant.principal →
    other.role ≤ grant.role) : levelAt grants grant.principal now ≤ grant.role.level := by
  rw [levelAt]
  cases found : (liveRoles grants now).get? grant.principal with
  | none => exact Nat.zero_le _
  | some role =>
    obtain ⟨other, present, -, same, rfl⟩ := liveRoles_origin (RoleMap.get?_eq_some.mp found)
    exact bound other present same

theorem contribution_le (now : Instant) (lower : grant.role ≤ leader.role) :
    contribution grant now ≤ leader.role.level := by
  rw [contribution]
  split
  · exact lower
  · exact Nat.zero_le _

theorem max_contribution {now : Instant} (leads : Leads (grants ++ [grant]) leader)
    (same : leader.principal = grant.principal) (live : leader.Live now) :
    max (levelAt grants grant.principal now) (contribution grant now) = leader.role.level := by
  have added : grant.role ≤ leader.role :=
    leads.outranks (List.mem_append_right _ (List.mem_singleton.mpr rfl)) same.symm
  rcases leads_append.mp leads with ⟨stored, -⟩ | ⟨rfl, lower⟩
  · have before := levelAt_of_leads stored live
    rw [same] at before
    rw [before]
    exact Nat.max_eq_left (contribution_le now added)
  · have before : levelAt grants leader.principal now ≤ leader.role.level :=
      levelAt_le now fun other member equal => le_of_lt (lower other member equal)
    rw [contribution, if_pos live.2]
    exact Nat.max_eq_right before

/-- Adding a grant adds to what its principal can use while the grant that then leads can be used,
and leaves the principal with nothing while that one cannot. -/
theorem upsert_level (grants : List Grant) (grant : Grant) (now : Instant)
    (named : Text.blank grant.principal = false) :
    ∃ edited leader, upsert grants grant = .ok edited ∧
      Leads (grants ++ [grant]) leader ∧ leader.principal = grant.principal ∧
      levelAt edited grant.principal now =
        if leader.activeAt now then
          max (levelAt grants grant.principal now) (contribution grant now)
        else 0 := by
  have member : grant ∈ grants ++ [grant] := List.mem_append_right _ (List.mem_singleton.mpr rfl)
  obtain ⟨leader, leads, same⟩ := exists_leads member
  have somebody : leader.principal ≠ "" := same ▸ ne_nobody named
  have counted := get?_liveRoles_deduplicate now leads somebody
  refine ⟨_, leader, upsert_eq named, leads, same, ?_⟩
  rw [levelAt, ← same, counted, same]
  split
  case isTrue active => exact (max_contribution leads same ⟨somebody, active⟩).symm
  case isFalse => rfl

/-- An owner who has lapsed is stored in the place of a viewer who has not. -/
theorem upsert_masks_viewer :
    ¬ ∃ edited, upsert [⟨"ann", .viewer, none, none⟩] ⟨"ann", .owner, none, some 5⟩ = .ok edited ∧
      levelAt edited "ann" 7 =
        max (levelAt [⟨"ann", .viewer, none, none⟩] "ann" 7)
          (contribution ⟨"ann", .owner, none, some 5⟩ 7) := by
  rintro ⟨edited, ran, level⟩
  have stored : [⟨"ann", .owner, none, some 5⟩] = edited := Except.ok.inj ran
  subst stored
  exact absurd level (by decide)

/-- A viewer who is stored with a lower and a lapsed grant. -/
theorem upsert_level_viewer :
    Text.blank "ann" = false ∧
      ∃ edited leader, upsert [⟨"ann", .editor, some 2, some 9⟩, ⟨"ann", .editor, none, some 5⟩]
          ⟨"ann", .viewer, none, none⟩ = .ok edited ∧
        Leads ([⟨"ann", .editor, some 2, some 9⟩, ⟨"ann", .editor, none, some 5⟩] ++
          [⟨"ann", .viewer, none, none⟩]) leader ∧ leader.principal = "ann" ∧
        levelAt edited "ann" 7 = if leader.activeAt 7 then max 2 1 else 0 :=
  ⟨by decide, upsert_level _ ⟨"ann", .viewer, none, none⟩ 7 (by decide)⟩

/-! ### Everybody else -/

theorem get?_liveRoles_edited (now : Instant) (before : Leads grants leader)
    (after : Leads edited leader) :
    (liveRoles (deduplicate edited) now).get? leader.principal =
      if leader.activeAt now then (liveRoles grants now).get? leader.principal else none := by
  by_cases nobody : leader.principal = ""
  · simp [nobody, RoleMap.get?_nobody]
  · rw [get?_liveRoles_deduplicate now after nobody]
    split
    case isTrue active => exact (get?_liveRoles before ⟨nobody, active⟩).symm
    case isFalse => rfl

/-- Neither edit changes what another principal can use while the grant that leads among those to
it can be used. While that one cannot, either edit takes from it whatever lower role it had. -/
theorem edit_others (grants : List Grant) (grant : Grant) (other : String) (now : Instant)
    (named : Text.blank grant.principal = false) (different : other ≠ grant.principal)
    (stored : ∃ held ∈ grants, held.principal = other) :
    ∃ raised placed leader, upsert grants grant = .ok raised ∧ set grants grant = .ok placed ∧
      Leads grants leader ∧ leader.principal = other ∧
      ((liveRoles raised now).get? other =
        if leader.activeAt now then (liveRoles grants now).get? other else none) ∧
      (liveRoles placed now).get? other =
        if leader.activeAt now then (liveRoles grants now).get? other else none := by
  obtain ⟨held, member, rfl⟩ := stored
  obtain ⟨leader, leads, same⟩ := exists_leads member
  rw [← same] at different ⊢
  have apart : grant.principal = leader.principal → grant.role ≤ leader.role := fun equal =>
    absurd equal.symm different
  have raised : Leads (grants ++ [grant]) leader := leads_append.mpr (Or.inl ⟨leads, apart⟩)
  have spared : Leads (grants.filter (·.principal ≠ grant.principal)) leader :=
    leads.filter (decide_eq_true different)
  have placed := leads_append.mpr (Or.inl ⟨spared, apart⟩)
  exact ⟨_, _, leader, upsert_eq named, set_eq named, leads, rfl,
    get?_liveRoles_edited now leads raised, get?_liveRoles_edited now leads placed⟩

/-- A viewer is taken out for an owner who has lapsed when somebody else is given a role. -/
theorem edit_masks_viewer :
    ¬ ∃ edited, upsert [⟨"bob", .owner, none, some 5⟩, ⟨"bob", .viewer, none, none⟩]
        ⟨"ann", .viewer, none, none⟩ = .ok edited ∧
      (liveRoles edited 7).get? "bob" =
        (liveRoles [⟨"bob", .owner, none, some 5⟩, ⟨"bob", .viewer, none, none⟩] 7).get? "bob" := by
  rintro ⟨edited, ran, kept⟩
  have stored : [⟨"bob", .owner, none, some 5⟩, ⟨"ann", .viewer, none, none⟩] = edited :=
    Except.ok.inj ran
  subst stored
  exact absurd kept (by decide)

theorem edit_others_bob :
    Text.blank "ann" = false ∧ "bob" ≠ "ann" ∧
      ∃ raised placed leader,
        upsert [⟨"bob", .owner, none, some 9⟩, ⟨"bob", .viewer, none, none⟩]
          ⟨"ann", .viewer, none, none⟩ = .ok raised ∧
        set [⟨"bob", .owner, none, some 9⟩, ⟨"bob", .viewer, none, none⟩]
          ⟨"ann", .viewer, none, none⟩ = .ok placed ∧
        Leads [⟨"bob", .owner, none, some 9⟩, ⟨"bob", .viewer, none, none⟩] leader ∧
        leader.principal = "bob" ∧
        ((liveRoles raised 7).get? "bob" =
          if leader.activeAt 7 then some .owner else none) ∧
        (liveRoles placed 7).get? "bob" = if leader.activeAt 7 then some .owner else none :=
  ⟨by decide, by decide, edit_others _ ⟨"ann", .viewer, none, none⟩ "bob" 7 (by decide)
    (by decide) ⟨_, List.mem_cons_self, rfl⟩⟩

end ScopedGrants.Grants
