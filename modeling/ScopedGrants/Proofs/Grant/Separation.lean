import ScopedGrants.Proofs.Config.Validation
import ScopedGrants.Proofs.Grant.Annotations
import ScopedGrants.Proofs.Grant.Codec

/-!
Users and groups kept apart. Under keys that a configuration may have, no text that is stored for
the users has a say in what the groups hold, and none for the groups in what the users do.
-/

namespace ScopedGrants.ResourceGrants

def SameBut (keys : List String) (left right : Annotations) : Prop :=
  ∀ key, key ∉ keys → left.get? key = right.get? key

variable {keys : GrantKeys} {left right : Annotations} {before after grants : ResourceGrants}

/-! ### Reading -/

theorem groupText_sameBut (group : keys.user ≠ keys.group) (legacy : keys.user ≠ keys.legacyGroup)
    (same : SameBut [keys.user] left right) : groupText keys left = groupText keys right := by
  rw [groupText, groupText, same keys.group (by simpa using group.symm),
    same keys.legacyGroup (by simpa using legacy.symm)]

theorem userText_sameBut (group : keys.user ≠ keys.group) (legacy : keys.user ≠ keys.legacyGroup)
    (same : SameBut [keys.group, keys.legacyGroup] left right) :
    left.get? keys.user = right.get? keys.user :=
  same keys.user (by simp [group, legacy])

theorem StoredIn.groups_eq (stored : before.StoredIn keys left) (also : after.StoredIn keys right)
    (same : groupText keys left = groupText keys right) : before.groups = after.groups := by
  have read := stored.2
  rw [same] at read
  exact Except.ok.inj (read.symm.trans also.2)

theorem StoredIn.users_eq (stored : before.StoredIn keys left) (also : after.StoredIn keys right)
    (same : left.get? keys.user = right.get? keys.user) : before.users = after.users := by
  have read := stored.1
  rw [same] at read
  exact Except.ok.inj (read.symm.trans also.1)

theorem sameBut_insert {key : String} {within : List String} (annotations : Annotations)
    (text : String) (member : key ∈ within) :
    SameBut within (annotations.insert key text) annotations := by
  intro other outside
  have different : key ≠ other := fun same => outside (same ▸ member)
  rw [SortedMap.get?_insert, if_neg different]

theorem groups_stored {annotations : Annotations} {text : String} (group : keys.user ≠ keys.group)
    (legacy : keys.user ≠ keys.legacyGroup)
    (stored : grants.StoredIn keys (annotations.insert keys.user text)) :
    Grants.read keys.group (groupText keys annotations) = .ok grants.groups := by
  have same : SameBut [keys.user] (annotations.insert keys.user text) annotations :=
    sameBut_insert annotations text List.mem_cons_self
  rw [← groupText_sameBut group legacy same]
  exact stored.2

theorem users_stored {annotations : Annotations} {key text : String}
    (group : keys.user ≠ keys.group) (legacy : keys.user ≠ keys.legacyGroup)
    (member : key ∈ [keys.group, keys.legacyGroup])
    (stored : grants.StoredIn keys (annotations.insert key text)) :
    Grants.read keys.user (annotations.get? keys.user) = .ok grants.users := by
  have same : SameBut [keys.group, keys.legacyGroup] (annotations.insert key text) annotations :=
    sameBut_insert annotations text member
  rw [← userText_sameBut group legacy same]
  exact stored.1

/-! ### Writing -/

theorem write_inj {one other : List Grant} :
    Grants.write one = Grants.write other ↔ one = other := by
  refine ⟨fun same => ?_, congrArg Grants.write⟩
  have read := Grants.read_write "" one
  rw [same, Grants.read_write] at read
  exact (Except.ok.inj read).symm

theorem users_written (group : keys.user ≠ keys.group) (same : before.groups = after.groups)
    (key : String) :
    (before.toAnnotations keys).get? key ≠ (after.toAnnotations keys).get? key ↔
      key = keys.user ∧ before.users ≠ after.users := by
  rw [get?_toAnnotations, get?_toAnnotations, same]
  by_cases primary : keys.group = key
  · subst primary
    simp [group.symm]
  · by_cases user : keys.user = key
    · subst user
      simp [primary, write_inj]
    · have elsewhere : key ≠ keys.user := Ne.symm user
      simp [primary, user, elsewhere]

theorem groups_written (same : before.users = after.users) (key : String) :
    (before.toAnnotations keys).get? key ≠ (after.toAnnotations keys).get? key ↔
      key = keys.group ∧ before.groups ≠ after.groups := by
  rw [get?_toAnnotations, get?_toAnnotations, same]
  by_cases primary : keys.group = key
  · subst primary
    simp [write_inj]
  · have elsewhere : key ≠ keys.group := Ne.symm primary
    simp [primary, elsewhere]

/-! ### Accepted configurations -/

/-- Under the keys of an accepted configuration the two lists never mix. Annotations that differ for
the users hold the same groups, and those that differ for the groups the same users; a list is
written under its own key alone; and whatever text is stored for either list, the other is read from
what was there before. -/
theorem lists_apart (sources : List Config.Source) (config : Config.Resolved)
    (accepted : Config.resolve sources = .ok config) :
    let keys := config.access.keys
    (∀ left right before after, SameBut [keys.user] left right →
      ofAnnotations keys left = .ok before → ofAnnotations keys right = .ok after →
        before.groups = after.groups) ∧
    (∀ left right before after, SameBut [keys.group, keys.legacyGroup] left right →
      ofAnnotations keys left = .ok before → ofAnnotations keys right = .ok after →
        before.users = after.users) ∧
    (∀ before after : ResourceGrants, before.groups = after.groups → ∀ key,
      ((before.toAnnotations keys).get? key ≠ (after.toAnnotations keys).get? key ↔
        key = keys.user ∧ before.users ≠ after.users)) ∧
    (∀ before after : ResourceGrants, before.users = after.users → ∀ key,
      ((before.toAnnotations keys).get? key ≠ (after.toAnnotations keys).get? key ↔
        key = keys.group ∧ before.groups ≠ after.groups)) ∧
    (∀ (annotations : Annotations) text grants,
      ofAnnotations keys (annotations.insert keys.user text) = .ok grants →
        Grants.read keys.group (groupText keys annotations) = .ok grants.groups) ∧
    ∀ (annotations : Annotations) key text grants, key ∈ [keys.group, keys.legacyGroup] →
      ofAnnotations keys (annotations.insert key text) = .ok grants →
        Grants.read keys.user (annotations.get? keys.user) = .ok grants.users := by
  have valid := Config.resolve_valid accepted
  have group := valid.user_ne_group
  have legacy := valid.user_ne_legacyGroup
  refine ⟨?_, ?_, fun before after => users_written group,
    fun before after => groups_written, ?_, ?_⟩
  · intro left right before after same stored also
    exact (ofAnnotations_eq_ok.mp stored).groups_eq (ofAnnotations_eq_ok.mp also)
      (groupText_sameBut group legacy same)
  · intro left right before after same stored also
    exact (ofAnnotations_eq_ok.mp stored).users_eq (ofAnnotations_eq_ok.mp also)
      (userText_sameBut group legacy same)
  · intro annotations text grants stored
    exact groups_stored group legacy (ofAnnotations_eq_ok.mp stored)
  · intro annotations key text grants member stored
    exact users_stored group legacy member (ofAnnotations_eq_ok.mp stored)

/-- A file that gives the groups one key in the place of both. -/
def renamed : List Config.Source :=
  [.fixed .file { access := some { groupKey := some "acme.io/groups",
                                   legacyGroupKey := some "acme.io/groups" } }]

theorem lists_apart_renamed :
    let keys : GrantKeys := { group := "acme.io/groups", legacyGroup := "acme.io/groups" }
    let crew : List Grant := [{ principal := "crew", role := .viewer }]
    let alone : Annotations := .ofList [("acme.io/groups", Grants.write crew)]
    ∃ before after,
      ofAnnotations keys (alone.insert keys.user (Grants.write [{ principal := "ann" }])) =
        .ok before ∧
      ofAnnotations keys alone = .ok after ∧ before.groups = after.groups ∧
      Grants.read keys.group (groupText keys alone) = .ok before.groups ∧
      (before.toAnnotations keys).get? keys.user ≠ (after.toAnnotations keys).get? keys.user := by
  intro keys crew alone
  have accepted : Config.resolve renamed = .ok { access := { keys := keys } } := by
    have sorted : renamed.Pairwise fun a b => a.precedence.rank ≤ b.precedence.rank :=
      List.pairwise_singleton _ _
    rw [Config.resolve_of_sorted sorted]
    decide +kernel
  obtain ⟨reading, -, writing, -, storing, -⟩ := lists_apart _ _ accepted
  have text : groupText keys alone = some (Grants.write crew) := by
    rw [groupText, SortedMap.get?_ofList]
    rfl
  have both : ofAnnotations keys
      (alone.insert keys.user (Grants.write [{ principal := "ann" }])) =
        .ok ⟨[{ principal := "ann" }], crew⟩ := by
    refine ofAnnotations_eq_ok.mpr ⟨?_, ?_⟩
    · rw [SortedMap.get?_insert, if_pos rfl]
      exact Grants.read_write _ _
    · rw [groupText_sameBut (by decide) (by decide)
        (sameBut_insert alone _ List.mem_cons_self), text]
      exact Grants.read_write _ _
  have one : ofAnnotations keys alone = .ok ⟨[], crew⟩ := by
    refine ofAnnotations_eq_ok.mpr ⟨?_, ?_⟩
    · rw [SortedMap.get?_ofList]
      rfl
    · rw [text]
      exact Grants.read_write _ _
  have same := reading _ alone _ _ (sameBut_insert alone _ List.mem_cons_self) both one
  refine ⟨_, _, both, one, same, storing alone _ _ both, ?_⟩
  exact (writing _ _ same keys.user).mpr ⟨rfl, by decide⟩

end ScopedGrants.ResourceGrants
