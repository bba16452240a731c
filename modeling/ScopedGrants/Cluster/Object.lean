import ScopedGrants.Grant.Annotations

/-!
The objects of a cluster: namespaces, which stand for organizations and projects, and secrets in
them. Only their metadata matters here.
-/

namespace ScopedGrants.Cluster

structure Object where
  name : Option String := none
  space : Option String := none
  labels : Option (SortedMap String String) := none
  annotations : Option Annotations := none
deriving DecidableEq

/-- The annotations of an object; missing ones count as empty. -/
def Object.annotationMap (object : Object) : Annotations := object.annotations.getD .empty

/-- The value of a label, unless it is empty. -/
def Object.label? (object : Object) (key : String) : Option String :=
  (object.labels.bind (·.get? key)).filter (· ≠ "")

/-- The object with some annotations added to its own, in the place of those with the same key. -/
def Object.annotate (object : Object) (annotations : Annotations) : Object :=
  { object with annotations := some (object.annotationMap.insertMany annotations.entries) }

inductive Ref where
  | space (name : String)
  | secret (space name : String)
deriving DecidableEq, Repr

structure LabelKeys where
  /-- On a project, its organization. -/
  organization : String := "warden.dev/organization"
  /-- On a secret, its project where that is not the namespace it lies in. -/
  project : String := "warden.dev/project"
deriving DecidableEq, Repr, Inhabited

structure Status where
  status : String
  message : String := ""
  reason : String := ""
  code : UInt16
deriving DecidableEq, Repr

inductive Trouble where
  /-- The request was turned down in plain words. -/
  | refused (words : String)
  | rejected (status : Status)
  /-- The name of the object cannot be part of an address. -/
  | unaddressable
  /-- The answer is no object of the kind asked for. -/
  | unreadable
deriving DecidableEq, Repr

inductive Failure where
  | spaceNotFound (name : String)
  | secretNotFound (space name : String)
  | trouble (trouble : Trouble)
  | malformed (error : MalformedGrants)
deriving DecidableEq, Repr

def Ref.missing : Ref → Failure
  | space name => .spaceNotFound name
  | secret within name => .secretNotFound within name

end ScopedGrants.Cluster
