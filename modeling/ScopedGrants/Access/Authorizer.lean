import ScopedGrants.Access.Check
import ScopedGrants.Grant.Keys
import ScopedGrants.Text.Quoted

/-!
Access checks against a source of organization grants. The source may be missing and may fail;
both count as having no answer.
-/

namespace ScopedGrants

structure Settings where
  /-- Checks on a project may fall back on its organization. -/
  organizationCascade : Bool := true
  keys : GrantKeys := {}
deriving DecidableEq, Repr

/-- A source of organization grants: the roles in an organization at an instant. -/
abbrev Resolver (ε : Type) := String → Instant → Except ε ActiveGrants

structure Ruling where
  decision : Decision
  asked : List String := []
deriving DecidableEq, Repr

def Check.settle {ε : Type} (resolver : Option (Resolver ε)) (now : Instant) : Check → Ruling
  | decided decision => { decision }
  | ask organization resume =>
    match resolver with
    | none => { decision := .denied }
    | some answer =>
      match answer organization now with
      | .ok active => { decision := resume active, asked := [organization] }
      | .error _ => { decision := .denied, asked := [organization] }

structure Authorizer (ε : Type) where
  settings : Settings := {}
  resolver : Option (Resolver ε) := none

def Settings.describe (settings : Settings) : String :=
  "AuthzSettings \x7b org_cascade_enabled: " ++ toString settings.organizationCascade
    ++ ", annotations: GrantAnnotationKeys \x7b user_key: " ++ Text.describe settings.keys.user
    ++ ", group_key: " ++ Text.describe settings.keys.group
    ++ ", legacy_group_key: " ++ Text.describe settings.keys.legacyGroup ++ " \x7d \x7d"

namespace Authorizer

variable {ε : Type}

def checkOrganization (authorizer : Authorizer ε) (caller : Caller) (name : String)
    (permission : Permission) (now : Instant) : Ruling :=
  (Check.organization caller name permission).settle authorizer.resolver now

/-- A check on a project, whose organization is looked up only where its own grants do not do. -/
def checkProject (authorizer : Authorizer ε) (caller : Caller) (project : Project)
    (permission : Permission) (now : Instant) : Ruling :=
  (Check.project authorizer.settings.organizationCascade caller project permission now).settle
    authorizer.resolver now

/-- No organization has a say in secrets, so neither settings nor source matter. -/
def checkSecret (_authorizer : Authorizer ε) (caller : Caller) (secret : Secret)
    (permission : Permission) (now : Instant) : Ruling :=
  { decision := Check.secret caller secret permission now }

def bestRole (_authorizer : Authorizer ε) (caller : Caller) (grants : ResourceGrants)
    (now : Instant) : Role :=
  caller.bestRole (grants.active now)

def describe (authorizer : Authorizer ε) : String :=
  "Authorizer \x7b settings: " ++ authorizer.settings.describe
    ++ ", org_resolver: " ++ toString authorizer.resolver.isSome ++ " \x7d"

end Authorizer
end ScopedGrants
