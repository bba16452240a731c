import ScopedGrants.Access.Authorizer
import ScopedGrants.Files
import ScopedGrants.Grant.Annotations
import ScopedGrants.Json.Fields

/-!
Access checks against a description of resources instead of a cluster. A fixture is a JSON text
that names up to one organization, one project in it and one secret in that, each with the
annotations it would carry.
-/

namespace ScopedGrants

structure FixtureResource where
  name : String
  annotations : Annotations := .empty
deriving DecidableEq

structure Fixture where
  organization : Option FixtureResource := none
  project : Option FixtureResource := none
  secret : Option FixtureResource := none
deriving DecidableEq

/-! ### Reading fixtures -/

open Json

namespace FixtureResource

structure Fields where
  name : Option String := none
  annotations : Option Annotations := none
deriving DecidableEq

def Fields.resource (fields : Fields) : Except Fault FixtureResource := do
  return { name := ← required fields.name, annotations := fields.annotations.getD .empty }

def Fields.step (fields : Fields) (key : String) (value : Tree) : Except Fault Fields :=
  match key with
  | "name" => do return { fields with name := ← once fields.name decodeText value }
  | "annotations" => do
    return { fields with annotations := ← once fields.annotations decodeTextMap value }
  | _ => do
    skip value
    return fields

def ofItems (items : Items) : Except Fault FixtureResource := do
  let (name, items) ← items.next decodeText
  let (annotations, items) ← items.next? decodeTextMap
  items.finish
  return { name, annotations := annotations.getD .empty }

def decode : Decoder FixtureResource
  | .object members => do (← members.fold Fields.step {}).resource
  | .array items => ofItems items
  | tree => .error tree.misfit

end FixtureResource

namespace Fixture

structure Fields where
  organization : Option (Option FixtureResource) := none
  project : Option (Option FixtureResource) := none
  secret : Option (Option FixtureResource) := none
deriving DecidableEq

def decodeResource : Decoder (Option FixtureResource) := decodeOptional FixtureResource.decode

def Fields.step (fields : Fields) (key : String) (value : Tree) : Except Fault Fields :=
  match key with
  | "organization" => do
    return { fields with organization := ← once fields.organization decodeResource value }
  | "project" => do return { fields with project := ← once fields.project decodeResource value }
  | "secret" => do return { fields with secret := ← once fields.secret decodeResource value }
  | _ => do
    skip value
    return fields

/-- Reads the resources from the outermost in; in an array each of them has to be there, though
it may be null. -/
def ofItems (items : Items) : Except Fault Fixture := do
  let (organization, items) ← items.next decodeResource
  let (project, items) ← items.next decodeResource
  let (secret, items) ← items.next decodeResource
  items.finish
  return { organization, project, secret }

def decode : Decoder Fixture
  | .object members => do
    let fields ← members.fold Fields.step {}
    return { organization := fields.organization.getD none, project := fields.project.getD none,
             secret := fields.secret.getD none }
  | .array items => ofItems items
  | tree => .error tree.misfit

inductive LoadError where
  | unreadable (path : String)
  | malformed (path : String) (fault : Fault)
deriving DecidableEq, Repr

def LoadError.message : LoadError → String
  | unreadable path => "failed to read fixture " ++ path
  | malformed path _ => "failed to parse fixture " ++ path

def load (path : String) (file : Option File) : Except LoadError Fixture :=
  match file.bind File.text? with
  | none => .error (.unreadable path)
  | some text => (Json.decode decode text).mapError (.malformed path)

/-! ### Checks -/

inductive CheckError where
  /-- The fixture has no resource that the permission could be checked on. -/
  | lacksTarget (permission : Permission)
  | lacksProject
  | malformed (resource : String) (error : MalformedGrants)
deriving DecidableEq, Repr

/-- What is said of an error, from the outermost circumstance in. -/
def CheckError.causes : CheckError → List String
  | lacksTarget permission =>
    let target := if permission.scope = .organization then "an organization" else "a secret"
    [permission.name ++ " needs " ++ target ++ " in the fixture"]
  | lacksProject => ["the fixture has no project"]
  | malformed resource error => [resource, error.message]

def grantsOf (keys : GrantKeys) (scope : Scope) (resource : FixtureResource) :
    Except CheckError ResourceGrants :=
  (ResourceGrants.ofAnnotations keys resource.annotations).mapError
    (.malformed (scope.name ++ " " ++ resource.name))

def loadProject (fixture : Fixture) (keys : GrantKeys) : Except CheckError Project := do
  let some project := fixture.project | .error .lacksProject
  let grants ← grantsOf keys .project project
  return { name := project.name, organization := fixture.organization.map (·.name), grants }

def loadSecret (fixture : Fixture) (keys : GrantKeys) (permission : Permission) :
    Except CheckError Secret := do
  let some secret := fixture.secret | .error (.lacksTarget permission)
  let grants ← grantsOf keys .secret secret
  return { name := secret.name, grants, project := ← fixture.loadProject keys }

/-- The source that knows the organization of the fixture and no other. -/
def resolver (name : String) (grants : ResourceGrants) : Resolver String := fun asked now =>
  if asked = name then .ok (grants.active now)
  else .error ("organization " ++ asked ++ " is not in the fixture")

structure Outcome where
  decision : Decision
  directRole : Role
deriving DecidableEq, Repr

/-- Checks a permission on the resource of its scope. An organization with malformed grants stands
in the way of every check. -/
def evaluate (fixture : Fixture) (settings : Settings) (caller : Caller) (permission : Permission)
    (now : Instant) : Except CheckError Outcome := do
  let keys := settings.keys
  let organization ← fixture.organization.mapM fun organization =>
    return (organization.name, ← grantsOf keys .organization organization)
  let authorizer : Authorizer String :=
    { settings, resolver := organization.map fun (name, grants) => resolver name grants }
  match permission.scope with
  | .organization =>
    let some (name, grants) := organization | .error (.lacksTarget permission)
    let ruling := authorizer.checkOrganization caller name permission now
    return { decision := ruling.decision, directRole := authorizer.bestRole caller grants now }
  | .project =>
    let project ← fixture.loadProject keys
    let ruling := authorizer.checkProject caller project permission now
    return { decision := ruling.decision
             directRole := authorizer.bestRole caller project.grants now }
  | .secret =>
    let secret ← fixture.loadSecret keys permission
    let ruling := authorizer.checkSecret caller secret permission now
    return { decision := ruling.decision
             directRole := authorizer.bestRole caller secret.grants now }

end Fixture
end ScopedGrants
