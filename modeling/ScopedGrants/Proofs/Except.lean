/-!
When a result that may be an error is a value.
-/

namespace ScopedGrants

variable {ε α β : Type} {first : Except ε α}

theorem bind_eq_ok {next : α → Except ε β} {result : β} :
    (first >>= next) = .ok result ↔ ∃ value, first = .ok value ∧ next value = .ok result := by
  cases first <;> simp [bind, Except.bind]

theorem map_eq_ok {f : α → β} {result : β} :
    f <$> first = .ok result ↔ ∃ value, first = .ok value ∧ f value = result := by
  cases first <;> simp [Functor.map, Except.map]

theorem mapError_eq_ok {f : ε → β} {result : α} :
    first.mapError f = .ok result ↔ first = .ok result := by
  cases first with
  | error error =>
    constructor
    · intro impossible
      cases impossible
    · intro impossible
      cases impossible
  | ok value =>
    show (.ok value : Except β α) = .ok result ↔ (.ok value : Except ε α) = .ok result
    simp

theorem exists_error_iff_not_ok :
    (∃ error, first = .error error) ↔ ¬ ∃ value, first = .ok value := by
  cases first <;> simp

end ScopedGrants
