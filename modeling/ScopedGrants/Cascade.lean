import ScopedGrants.Permission

/-!
Cascading: a permission that is missing on a resource itself can be made up for by one on the
resource around it.
-/

namespace ScopedGrants

/-- What a caller needs on a project instead of a permission on a secret in it. Nothing there
stands in for reading a secret, and deleting one takes the administration of the project. -/
def SecretVerb.onProject : SecretVerb → Option ContainerVerb
  | list => some .read
  | read => none
  | write => some .write
  | delete | admin => some .admin

/-- The permission at the source scope that stands in for the given one. An organization stands
in for its projects verb by verb, and never directly for their secrets. -/
def Permission.substitute (source : Scope) : Permission → Option Permission
  | secret verb => if source = .project then verb.onProject.map project else none
  | project verb => if source = .organization then some (organization verb) else none
  | organization _ => none

/-- The permissions at the target scope, each with what stands in for it at the source scope;
empty unless the target lies within the source. -/
def cascadeRules (target source : Scope) : List (Permission × Option Permission) :=
  if target.within source then
    (Permission.all.filter (·.scope = target)).map fun permission =>
      (permission, permission.substitute source)
  else []

end ScopedGrants
