import ScopedGrants.Access.Decision
import ScopedGrants.Cascade

/-!
Access checks on organizations, projects and secrets. A check is first decided from what is at
hand. Where an organization's grants are wanted it stops and asks for them, once; without an
answer the check is denied.
-/

namespace ScopedGrants

structure Project where
  name : String
  organization : Option String := none
  grants : ResourceGrants := {}
deriving DecidableEq, Repr

structure Secret where
  name : String
  grants : ResourceGrants := {}
  project : Project
deriving DecidableEq, Repr

/-- A check: decided, or in want of the roles in an organization. -/
inductive Check where
  | decided (decision : Decision)
  | ask (organization : String) (resume : ActiveGrants → Decision)

namespace Check

def organization (caller : Caller) (name : String) (permission : Permission) : Check :=
  if permission.scope = .organization then
    ask name fun active => caller.decide active permission
  else decided .denied

/-- On a project its own grants are tried first, then those of its organization, unless grants
are not to cascade. -/
def project (cascade : Bool) (caller : Caller) (project : Project) (permission : Permission)
    (now : Instant) : Check :=
  if permission.scope ≠ .project then decided .denied
  else if caller.decide (project.grants.active now) permission = .allowed then decided .allowed
  else if cascade then
    match project.organization, permission.substitute .organization with
    | some name, some instead => ask name fun active => caller.decide active instead
    | _, _ => decided .denied
  else decided .denied

/-- On a secret its own grants are tried first, then those of the project itself. -/
def secret (caller : Caller) (secret : Secret) (permission : Permission) (now : Instant) :
    Decision :=
  if permission.scope ≠ .secret then .denied
  else if caller.decide (secret.grants.active now) permission = .allowed then .allowed
  else
    match permission.substitute .project with
    | some instead => caller.decide (secret.project.grants.active now) instead
    | none => .denied

end Check
end ScopedGrants
