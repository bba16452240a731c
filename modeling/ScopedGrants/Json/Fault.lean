/-!
What can be wrong with a JSON text that is read as a value of some type.
-/

namespace ScopedGrants.Json

inductive Fault where
  /-- The text ends too early. -/
  | truncated
  /-- The text is not JSON, or holds what no value of the wanted type could. -/
  | malformed
  /-- The text is JSON so far, but not of the wanted type. -/
  | mistyped
deriving DecidableEq, Repr

/-- A place where the text stops being JSON: the fault of a reader that wants the value there, and
that of one that only passes over it. -/
structure Break where
  wanted : Fault
  skipped : Fault
deriving DecidableEq, Repr

/-- A fault that every reader sees alike. -/
def Fault.always (fault : Fault) : Break := ⟨fault, fault⟩

end ScopedGrants.Json
