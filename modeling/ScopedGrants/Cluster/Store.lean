import ScopedGrants.Access.Authorizer
import ScopedGrants.Cluster.Message
import ScopedGrants.Cluster.Program

/-!
Grants kept on the objects of a cluster. An organization and a project are each a namespace, and a
secret lies in one; labels say which organization a project belongs to, and which project a secret
does if not to its own namespace. Nothing is remembered from one request to the next.
-/

namespace ScopedGrants.Cluster

structure Store where
  keys : GrantKeys := {}
  labels : LabelKeys := {}
deriving DecidableEq, Repr

inductive LookupError where
  | malformed (error : MalformedGrants)
  | unavailable (failure : Failure)
deriving DecidableEq, Repr

def LookupError.message : LookupError → String
  | malformed error => error.message
  | unavailable failure => "organization grant lookup failed: " ++ failure.message

/-- Malformed grants are told apart from whatever else goes wrong. -/
def LookupError.ofFailure : Failure → LookupError
  | .malformed error => malformed error
  | failure => unavailable failure

namespace Store

def organizationGrants (store : Store) (name : String) : Action ResourceGrants := do
  Action.grants store.keys (← Action.fetch (.space name))

def activeGrants (store : Store) (name : String) (now : Instant) :
    Program (Except LookupError ActiveGrants) := do
  match ← (store.organizationGrants name).run with
  | .ok grants => return .ok (grants.active now)
  | .error failure => return .error (.ofFailure failure)

def loadProject (store : Store) (name : String) : Action Project := do
  let object ← Action.fetch (.space name)
  let grants ← Action.grants store.keys object
  return { name, organization := object.label? store.labels.organization, grants }

def loadSecret (store : Store) (space name : String) : Action Secret := do
  let object ← Action.fetch (.secret space name)
  let grants ← Action.grants store.keys object
  let project ← store.loadProject ((object.label? store.labels.project).getD space)
  return { name, grants, project }

def save (store : Store) (ref : Ref) (grants : ResourceGrants) : Action Unit :=
  Action.annotate ref (grants.toAnnotations store.keys)

def settle (store : Store) (now : Instant) : Check → Program Decision
  | .decided decision => .done decision
  | .ask organization resume => do
    match ← store.activeGrants organization now with
    | .ok active => return resume active
    | .error _ => return .denied

def checkOrganization (store : Store) (caller : Caller) (name : String) (permission : Permission)
    (now : Instant) : Program Decision :=
  store.settle now (Check.organization caller name permission)

def checkProject (store : Store) (cascade : Bool) (caller : Caller) (name : String)
    (permission : Permission) (now : Instant) : Action Decision := do
  let project ← store.loadProject name
  ExceptT.lift (store.settle now (Check.project cascade caller project permission now))

def checkSecret (store : Store) (caller : Caller) (space name : String) (permission : Permission)
    (now : Instant) : Action Decision := do
  return Check.secret caller (← store.loadSecret space name) permission now

end Store
end ScopedGrants.Cluster
