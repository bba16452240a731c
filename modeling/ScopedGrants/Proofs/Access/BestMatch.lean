import Mathlib.Order.Bounds.Basic
import ScopedGrants.Proofs.Access.Authorizer

/-!
A decision by the highest level. Of all entries that a caller counts as only the highest level is
kept, users and groups apart, and only the role at that level is asked. That comes to the same as
asking the role of every entry, for whatever maps.
-/

namespace ScopedGrants

namespace Caller

/-- The roles of the entries that the caller counts as. The email is looked for among the users and
nowhere else, and the groups among the groups. -/
def matched (caller : Caller) (active : ActiveGrants) : Set Role :=
  {role | (∃ entry ∈ active.users.naming caller.email, entry.2 = role) ∨
    ∃ group ∈ caller.groups, ∃ entry ∈ active.groups.naming group, entry.2 = role}

variable {caller : Caller} {active others : ActiveGrants} {role : Role}

theorem mem_roles : role ∈ caller.roles active ↔ role ∈ caller.matched active := by
  rw [roles, List.mem_append, List.mem_flatMap, RoleMap.mem_matching]
  simp only [RoleMap.mem_matching]
  rfl

theorem bestRole_greatest (nonempty : (caller.matched active).Nonempty) :
    IsGreatest (caller.matched active) (caller.bestRole active) := by
  rw [bestRole_eq]
  obtain ⟨role, matched⟩ := nonempty
  have member := mem_roles.mpr matched
  refine ⟨mem_roles.mp (Role.highest_mem (List.ne_nil_of_mem member)), ?_⟩
  intro lower matched
  exact Role.le_highest (mem_roles.mpr matched)

theorem bestRole_unmatched (unmatched : caller.matched active = ∅) :
    caller.bestRole active = .unspecified := by
  have empty : caller.roles active = [] := by
    apply List.eq_nil_iff_forall_not_mem.mpr
    intro role member
    have matched := mem_roles.mp member
    rw [unmatched] at matched
    exact matched
  rw [bestRole_eq, empty]
  rfl

theorem bestRole_congr (same : caller.matched others = caller.matched active) :
    caller.bestRole others = caller.bestRole active := by
  rcases (caller.matched active).eq_empty_or_nonempty with unmatched | nonempty
  · rw [bestRole_unmatched unmatched, bestRole_unmatched (same.trans unmatched)]
  · have greatest := bestRole_greatest (same ▸ nonempty)
    rw [same] at greatest
    exact greatest.unique (bestRole_greatest nonempty)

theorem matched_congr (users : others.users.naming caller.email = active.users.naming caller.email)
    (groups : ∀ group ∈ caller.groups, others.groups.naming group = active.groups.naming group) :
    caller.matched others = caller.matched active := by
  unfold matched
  rw [users]
  ext role
  refine or_congr_right (exists_congr fun group => and_congr_right fun belongs => ?_)
  rw [groups group belongs]

/-- Asking the role at the highest level is asking the role of every entry that the caller counts
as. The best role is the highest of those, and no other entry has a say in it. -/
theorem decide_by_level (caller : Caller) (active : ActiveGrants) (permission : Permission) :
    (caller.decide active permission =
        .ofBool ((Role.all.filter (·.level = caller.level active)).any (·.grants permission)) ∧
      caller.bestRole active = .ofLevel (caller.level active)) ∧
    (caller.decide active permission = .allowed ↔ active.Permit caller permission) ∧
    (caller.decide active permission = .allowed ↔
      (caller.bestRole active).grants permission = true) ∧
    ((caller.matched active).Nonempty →
      IsGreatest (caller.matched active) (caller.bestRole active)) ∧
    (caller.matched active = ∅ → caller.bestRole active = .unspecified) ∧
    ∀ others : ActiveGrants,
      others.users.naming caller.email = active.users.naming caller.email →
      (∀ group ∈ caller.groups, others.groups.naming group = active.groups.naming group) →
        caller.bestRole others = caller.bestRole active ∧
        caller.decide others permission = caller.decide active permission := by
  refine ⟨⟨rfl, rfl⟩, decide_allowed, decide_bestRole, bestRole_greatest, bestRole_unmatched, ?_⟩
  intro others users groups
  have best := bestRole_congr (matched_congr users groups)
  refine ⟨best, ?_⟩
  rw [decide_eq, decide_eq, best]

/-- Owners are the group that has the caller's email for its name and the user whose email is the
name of the caller's group. Neither counts. -/
theorem decide_by_level_crossed :
    IsGreatest (Caller.matched ⟨"ANN", ["ops"]⟩ ⟨.ofList [("Ann", .editor)], .empty⟩) .editor ∧
    Caller.bestRole ⟨"bob", []⟩ ⟨.empty, .ofList [("bob", .owner)]⟩ = .unspecified ∧
    Caller.decide ⟨"ANN", ["ops"]⟩ ⟨.ofList [("Ann", .editor), ("ops", .owner)],
      .ofList [("ann", .owner)]⟩ (.secret .delete) = .denied := by
  have ann := decide_by_level ⟨"ANN", ["ops"]⟩ ⟨.ofList [("Ann", .editor)], .empty⟩
    (.secret .delete)
  have bob := decide_by_level ⟨"bob", []⟩ ⟨.empty, .ofList [("bob", .owner)]⟩ (.secret .delete)
  have user : ¬ Principal.Same "ops" "ANN" := by decide +kernel
  have group : ¬ Principal.Same "ann" "ops" := by decide +kernel
  refine ⟨?_, bob.2.2.2.2.1 ?_, ?_⟩
  · have best : Caller.bestRole ⟨"ANN", ["ops"]⟩ ⟨.ofList [("Ann", .editor)], .empty⟩ = .editor := by
      decide +kernel
    have greatest := ann.2.2.2.1
      ⟨.editor, Or.inl ⟨("Ann", .editor), ⟨by decide +kernel, by decide +kernel⟩, rfl⟩⟩
    rwa [best] at greatest
  · apply Set.eq_empty_iff_forall_notMem.mpr
    rintro role (⟨entry, ⟨member, -⟩, -⟩ | ⟨group, belongs, -⟩)
    · exact List.not_mem_nil member
    · exact List.not_mem_nil belongs
  · have same := ann.2.2.2.2.2
      ⟨.ofList [("Ann", .editor), ("ops", .owner)], .ofList [("ann", .owner)]⟩
      (RoleMap.naming_insert _ .owner user) ?_
    · exact same.2.trans (by decide +kernel)
    · intro name belongs
      obtain rfl := List.mem_singleton.mp belongs
      exact RoleMap.naming_insert _ .owner group

end Caller
end ScopedGrants
