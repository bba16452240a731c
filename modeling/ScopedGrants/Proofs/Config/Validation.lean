import ScopedGrants.Config.Resolve
import ScopedGrants.Proofs.Except

/-!
Which configurations are accepted. An accepted one is as its sources make it, with every key filled
in and the users' key apart from both keys of the groups.
-/

namespace ScopedGrants.Config

structure Resolved.Valid (config : Resolved) : Prop where
  filled : ∀ key ∈ [config.access.keys.user, config.access.keys.group,
    config.access.keys.legacyGroup, config.labels.organization, config.labels.project],
      Text.blank key = false
  user_ne_group : config.access.keys.user ≠ config.access.keys.group
  user_ne_legacyGroup : config.access.keys.user ≠ config.access.keys.legacyGroup

/-- The error is about what the values are, not about where they come from. -/
def ConfigError.IsValidation : ConfigError → Prop
  | validation _ => True
  | invalidValue .. | malformedFile _ | unreadableFile _ => False

variable {sources : List Source} {config result : Resolved}

theorem find?_blank_eq_none :
    config.namedValues.find? (Text.blank ·.2) = none ↔
      ∀ key ∈ [config.access.keys.user, config.access.keys.group,
        config.access.keys.legacyGroup, config.labels.organization, config.labels.project],
          Text.blank key = false := by
  simp [Resolved.namedValues]

theorem validate_valid (valid : config.Valid) : config.validate = .ok config := by
  have shared : ¬ (config.access.keys.user = config.access.keys.group ∨
      config.access.keys.user = config.access.keys.legacyGroup) := by
    simp [valid.user_ne_group, valid.user_ne_legacyGroup]
  simp only [Resolved.validate, find?_blank_eq_none.mpr valid.filled, if_neg shared]

theorem validate_invalid (invalid : ¬ config.Valid) :
    ∃ error, config.validate = .error error ∧ error.IsValidation := by
  unfold Resolved.validate
  dsimp only
  split
  case h_1 name value _ => exact ⟨.validation (name ++ " must not be empty"), rfl, trivial⟩
  case h_2 found =>
    split
    case isTrue shared => exact ⟨sharedKey config.access.keys.user, rfl, trivial⟩
    case isFalse apart =>
      obtain ⟨group, legacy⟩ := not_or.mp apart
      exact absurd ⟨find?_blank_eq_none.mp found, group, legacy⟩ invalid

theorem validate_eq_ok : config.validate = .ok result ↔ config.Valid ∧ result = config := by
  by_cases valid : config.Valid
  · rw [validate_valid valid]
    simp [valid, eq_comm]
  · obtain ⟨error, failed, -⟩ := validate_invalid valid
    simp [failed, valid]

theorem resolve_valid (resolved : resolve sources = .ok config) : config.Valid := by
  obtain ⟨merged, -, validated⟩ := bind_eq_ok.mp resolved
  obtain ⟨valid, rfl⟩ := validate_eq_ok.mp validated
  exact valid

theorem resolve_apart (resolved : resolve sources = .ok config) :
    config.access.keys.user ≠ config.access.keys.group :=
  (resolve_valid resolved).user_ne_group

theorem resolve_of_sorted
    (sorted : sources.Pairwise fun a b => a.precedence.rank ≤ b.precedence.rank) :
    resolve sources = (do (← mergeSources sources).finish.validate) := by
  have settled : sources.mergeSort (fun a b => a.precedence.rank ≤ b.precedence.rank) = sources :=
    List.mergeSort_of_pairwise (sorted.imp fun least => decide_eq_true least)
  rw [resolve, settled]

end ScopedGrants.Config
