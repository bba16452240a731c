import ScopedGrants.Grant.Codec
import ScopedGrants.SortedMap

/-!
The grants on a resource, stored under two of its annotations.
-/

namespace ScopedGrants

abbrev Annotations := SortedMap String String

namespace ResourceGrants

/-- The grants in some annotations. The older key of the groups' list counts only where the newer
one is missing. -/
def ofAnnotations (keys : GrantKeys) (annotations : Annotations) :
    Except MalformedGrants ResourceGrants := do
  let users ← Grants.read keys.user (annotations.get? keys.user)
  let groups ← match annotations.get? keys.group with
    | some text => Grants.read keys.group (some text)
    | none => Grants.read keys.legacyGroup (annotations.get? keys.legacyGroup)
  return { users, groups }

def toAnnotations (keys : GrantKeys) (grants : ResourceGrants) : Annotations :=
  .ofList [(keys.user, Grants.write grants.users), (keys.group, Grants.write grants.groups)]

end ResourceGrants
end ScopedGrants
