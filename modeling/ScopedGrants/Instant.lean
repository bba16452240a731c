/-!
Instants in whole seconds from the start of 1970, and the stretch of them a calendar can show.
-/

namespace ScopedGrants

/-- Seconds since 1970 began, negative before it. -/
abbrev Instant := Int64

namespace Instant

/-- The first instant of the calendar, at the start of the year -262143. -/
def first : Instant := -8334601228800

/-- The last instant of the calendar, at the end of the year 262142. -/
def last : Instant := 8210266876799

def OnCalendar (instant : Instant) : Prop := first ≤ instant ∧ instant ≤ last

instance (instant : Instant) : Decidable instant.OnCalendar :=
  inferInstanceAs (Decidable (first ≤ instant ∧ instant ≤ last))

end Instant
end ScopedGrants
