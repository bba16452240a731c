import ScopedGrants.Grant.Edit
import ScopedGrants.RoleMap

/-!
What the two lists of grants on a resource amount to at one instant.
-/

namespace ScopedGrants

@[ext] structure ActiveGrants where
  users : RoleMap := .empty
  groups : RoleMap := .empty
deriving DecidableEq

def ActiveGrants.isEmpty (active : ActiveGrants) : Bool :=
  active.users.isEmpty && active.groups.isEmpty

/-- The roles that some grants give at an instant; of two grants to one principal the later
counts. -/
def Grants.activeRoles (grants : List Grant) (now : Instant) : RoleMap :=
  .ofList ((grants.filter fun grant => grant.principal ≠ "" ∧ grant.activeAt now).map fun grant =>
    (grant.principal, grant.role))

/-- The highest role that each principal can use at an instant. Grants outside their window are
out before the highest is chosen, so they never stand in the way of a lower one. -/
def Grants.liveRoles (grants : List Grant) (now : Instant) : RoleMap :=
  activeRoles (deduplicate (grants.filter (·.activeAt now))) now

/-- The grants stored on one resource, to users by their email and to groups by their name. -/
structure ResourceGrants where
  users : List Grant := []
  groups : List Grant := []
deriving DecidableEq, Repr

def ResourceGrants.active (grants : ResourceGrants) (now : Instant) : ActiveGrants where
  users := Grants.liveRoles grants.users now
  groups := Grants.liveRoles grants.groups now

end ScopedGrants
