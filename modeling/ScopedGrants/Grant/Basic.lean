import ScopedGrants.Instant
import ScopedGrants.Role

/-!
A grant gives a principal a role, from its first instant on and up to the one at which it expires.
-/

namespace ScopedGrants

/-- A role for a principal. A missing bound leaves that side of the window open. -/
structure Grant where
  principal : String := ""
  role : Role := .unspecified
  notBefore : Option Instant := none
  expires : Option Instant := none
deriving DecidableEq, Repr

namespace Grant

/-- The grant can be used: it has begun by now and expires later. -/
def activeAt (grant : Grant) (now : Instant) : Bool :=
  grant.notBefore.all (· ≤ now) && grant.expires.all (now < ·)

/-- The grant can never be used again. -/
def expiredAt (grant : Grant) (now : Instant) : Bool := grant.expires.any (· ≤ now)

end Grant
end ScopedGrants
