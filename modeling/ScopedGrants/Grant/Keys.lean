/-!
The annotation keys under which grants are stored.
-/

namespace ScopedGrants

/-- The keys of the two lists of grants, and an older key of the groups' list that is read where
the newer one is missing. -/
structure GrantKeys where
  user : String := "warden.dev/user-grants"
  group : String := "warden.dev/group-grants"
  legacyGroup : String := "warden.dev/role-grants"
deriving DecidableEq, Repr, Inhabited

end ScopedGrants
