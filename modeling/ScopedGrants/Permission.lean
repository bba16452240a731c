import ScopedGrants.Role

/-!
Scopes nest: secrets lie in projects and projects in organizations. A permission is a verb at one
scope, and every role carries a fixed set of permissions at all three.
-/

namespace ScopedGrants

inductive Scope where
  | secret
  | project
  | organization
deriving DecidableEq, Repr

namespace Scope

def name : Scope → String
  | secret => "secret"
  | project => "project"
  | organization => "organization"

def all : List Scope := [secret, project, organization]

def parent : Scope → Option Scope
  | secret => some project
  | project => some organization
  | organization => none

/-- Resources of the first scope lie, directly or not, in one of the second. -/
def within : Scope → Scope → Bool
  | secret, project | secret, organization | project, organization => true
  | _, _ => false

end Scope

inductive SecretVerb where
  | list
  | read
  | write
  | delete
  | admin
deriving DecidableEq, Repr

inductive ContainerVerb where
  | read
  | write
  | delete
  | admin
  | create
deriving DecidableEq, Repr

namespace SecretVerb

def all : List SecretVerb := [list, read, write, delete, admin]

def name : SecretVerb → String
  | list => "list"
  | read => "read"
  | write => "write"
  | delete => "delete"
  | admin => "admin"

end SecretVerb

namespace ContainerVerb

def all : List ContainerVerb := [read, write, delete, admin, create]

def name : ContainerVerb → String
  | read => "read"
  | write => "write"
  | delete => "delete"
  | admin => "admin"
  | create => "create"

end ContainerVerb

inductive Permission where
  | secret (verb : SecretVerb)
  | project (verb : ContainerVerb)
  | organization (verb : ContainerVerb)
deriving DecidableEq, Repr

namespace Permission

def all : List Permission :=
  SecretVerb.all.map secret ++ ContainerVerb.all.map project ++ ContainerVerb.all.map organization

def scope : Permission → Scope
  | secret _ => .secret
  | project _ => .project
  | organization _ => .organization

def verbName : Permission → String
  | secret verb => verb.name
  | project verb | organization verb => verb.name

/-- The name of a permission in requests, such as `secrets.read`. -/
def name (permission : Permission) : String :=
  permission.scope.name ++ "s." ++ permission.verbName

/-- The name of a permission in stored data, such as `secrets_read`. -/
def storedName (permission : Permission) : String :=
  permission.scope.name ++ "s_" ++ permission.verbName

/-- The permission of a name, whatever the case of its ASCII letters. -/
def ofName? (name : String) : Option Permission := all.find? (·.name == name.toLower)

/-- The permission that editing a resource's grants takes. -/
def administer : Scope → Permission
  | .secret => secret .admin
  | .project => project .admin
  | .organization => organization .admin

end Permission

namespace Role

/-- Viewers read and list, editors also write, and owners do everything. -/
def grants (role : Role) (permission : Permission) : Bool :=
  match role, permission with
  | unspecified, _ => false
  | viewer, .secret verb => verb = .list ∨ verb = .read
  | viewer, .project verb | viewer, .organization verb => verb = .read
  | editor, .secret verb => verb = .list ∨ verb = .read ∨ verb = .write
  | editor, .project verb | editor, .organization verb => verb = .read ∨ verb = .write
  | owner, _ => true

def permissions (role : Role) : List Permission := Permission.all.filter role.grants

end Role

end ScopedGrants
