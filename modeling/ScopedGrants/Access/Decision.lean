import ScopedGrants.Grant.Active
import ScopedGrants.Permission

/-!
Deciding one permission of a caller from the roles that can be used now. Of every role that the
caller matches only the level is kept, and of those levels only the highest.
-/

namespace ScopedGrants

structure Caller where
  email : String
  groups : List String := []
deriving DecidableEq, Repr

inductive Decision where
  | allowed
  | denied
deriving DecidableEq, Repr

inductive AccessError where
  | permissionDenied
deriving DecidableEq, Repr

def AccessError.message : AccessError → String
  | permissionDenied => "permission denied"

namespace Decision

def ofBool : Bool → Decision
  | true => allowed
  | false => denied

def result : Decision → Except AccessError Unit
  | allowed => .ok ()
  | denied => .error .permissionDenied

end Decision

namespace Caller

/-- The highest level of an entry that the caller counts as, zero if there is none. The email is
looked for among the users and nowhere else, and the groups among the groups. -/
def level (caller : Caller) (active : ActiveGrants) : Nat :=
  max (Role.peak (active.users.matching caller.email))
    (Role.peak (caller.groups.flatMap active.groups.matching))

def bestRole (caller : Caller) (active : ActiveGrants) : Role := .ofLevel (caller.level active)

/-- Only the roles at the highest level are asked. -/
def decide (caller : Caller) (active : ActiveGrants) (permission : Permission) : Decision :=
  .ofBool ((Role.all.filter (·.level = caller.level active)).any (·.grants permission))

end Caller
end ScopedGrants
