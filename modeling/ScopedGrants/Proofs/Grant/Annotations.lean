import ScopedGrants.Grant.Annotations
import ScopedGrants.Proofs.SortedMap

/-!
Which grants annotations hold. Two texts decide it, and every text that is not read leaves the
resource without any grants at all rather than with fewer.
-/

namespace ScopedGrants

theorem Grants.read_ok_congr (field other : String) {text : Option String} {grants : List Grant} :
    read field text = .ok grants ↔ read other text = .ok grants := by
  cases text with
  | none => rfl
  | some text =>
    simp only [read]
    split
    · rfl
    · cases Json.decode decode text <;> simp

namespace ResourceGrants

theorem get?_toAnnotations (keys : GrantKeys) (grants : ResourceGrants) (key : String) :
    (grants.toAnnotations keys).get? key =
      if keys.group = key then some (Grants.write grants.groups)
      else if keys.user = key then some (Grants.write grants.users) else none := by
  rw [toAnnotations, SortedMap.get?_ofList]
  by_cases group : keys.group = key
  · simp [group]
  · by_cases user : keys.user = key <;> simp [group, user]

/-- The text that counts as the groups' list: the newer one, or the older where that is missing. -/
def groupText (keys : GrantKeys) (annotations : Annotations) : Option String :=
  (annotations.get? keys.group).or (annotations.get? keys.legacyGroup)

/-- Both texts decode, and to these grants. -/
def StoredIn (keys : GrantKeys) (annotations : Annotations) (grants : ResourceGrants) : Prop :=
  Grants.read keys.user (annotations.get? keys.user) = .ok grants.users ∧
    Grants.read keys.group (groupText keys annotations) = .ok grants.groups

theorem ofAnnotations_eq_ok {keys : GrantKeys} {annotations : Annotations}
    {grants : ResourceGrants} :
    ofAnnotations keys annotations = .ok grants ↔ grants.StoredIn keys annotations := by
  obtain ⟨users, groups⟩ := grants
  unfold ofAnnotations StoredIn groupText
  cases Grants.read keys.user (annotations.get? keys.user) with
  | error error => simp [bind, Except.bind]
  | ok found =>
    cases annotations.get? keys.group with
    | some text =>
      rw [Option.some_or]
      cases read : Grants.read keys.group (some text) <;>
        simp [bind, Except.bind, pure, Except.pure, read]
    | none =>
      rw [Option.none_or, Grants.read_ok_congr keys.group keys.legacyGroup]
      cases Grants.read keys.legacyGroup (annotations.get? keys.legacyGroup) <;>
        simp [bind, Except.bind, pure, Except.pure]

theorem StoredIn.unique {keys : GrantKeys} {annotations : Annotations}
    {grants others : ResourceGrants} (stored : grants.StoredIn keys annotations)
    (also : others.StoredIn keys annotations) : grants = others :=
  Except.ok.inj ((ofAnnotations_eq_ok.mpr stored).symm.trans (ofAnnotations_eq_ok.mpr also))

end ResourceGrants
end ScopedGrants
