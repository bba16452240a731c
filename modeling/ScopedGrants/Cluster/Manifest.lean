import ScopedGrants.Cluster.Object
import ScopedGrants.Instant.Text
import ScopedGrants.Json.Fields

/-!
Objects of a cluster as JSON. Nothing but some of the metadata is kept, yet every field that
objects are known to have is held to its type. Unknown fields are passed over, a field that is
null counts as missing, and of two fields with one name the later counts.
-/

namespace ScopedGrants.Cluster

open Json

inductive Kind where
  | space
  | secret
deriving DecidableEq, Repr

def Kind.name : Kind → String
  | space => "Namespace"
  | secret => "Secret"

def Ref.kind : Ref → Kind
  | space _ => .space
  | secret .. => .secret

namespace Manifest

def textOf (form : String → Bool) : Decoder Unit := fun tree => do
  if form (← decodeText tree) then return () else .error .mistyped

def exactly (wanted : String) : Decoder Unit := textOf (· == wanted)

/-- Letters, digits, plus and slash in groups of four, the last of which may be filled up. What
is left of its bits has to be zero. -/
def isBase64 (text : String) : Bool :=
  let groups := text.toList
  let digits := groups.takeWhile (· ≠ '=')
  let filling := groups.dropWhile (· ≠ '=')
  let value (c : Char) : Option Nat :=
    if c.isUpper then some (c.toNat - 65)
    else if c.isLower then some (c.toNat - 71)
    else if c.isDigit then some (c.toNat + 4)
    else if c = '+' then some 62
    else if c = '/' then some 63
    else none
  let last := (digits.getLast?.bind value).getD 0
  digits.all (fun c => (value c).isSome) && groups.length % 4 == 0
    && (filling == [] || filling == ['='] && last % 4 == 0
      || filling == ['=', '='] && last % 16 == 0)

def text : Decoder Unit := checked decodeText

def integer : Decoder Unit := checked decodeInt64

def flag : Decoder Unit := checked decodeBool

def texts : Decoder Unit := checked (decodeList decodeText)

def textMap : Decoder Unit := checked decodeTextMap

def moment : Decoder Unit := textOf fun text => (Instant.ofText? text).isSome

def listOf (decode : Decoder Unit) : Decoder Unit := checked (decodeList decode)

/-- A map of texts in base 64, any of which may be null. -/
def bytesMap : Decoder Unit
  | .object members =>
    members.fold (fun _ _ value => checked (decodeOptional (textOf isBase64)) value) ()
  | tree => .error tree.misfit

def owner : Decoder Unit :=
  checkedRecord [("apiVersion", text), ("blockOwnerDeletion", flag), ("controller", flag),
    ("kind", text), ("name", text), ("uid", text)]

/-- Which part of an object someone looks after. Its fields are named by a value of any form, which
lies within the object, its metadata, a list there and an entry of it. -/
def managedFields : Decoder Unit :=
  checkedRecord [("apiVersion", text), ("fieldsType", text), ("fieldsV1", decodeAny 4),
    ("manager", text), ("operation", text), ("subresource", text), ("time", moment)]

def condition : Decoder Unit :=
  checkedRecord [("lastTransitionTime", moment), ("message", text), ("reason", text),
    ("status", text), ("type", text)]

/-- The fields of the metadata that are not kept. -/
def otherMetadata : List (String × Decoder Unit) :=
  [("creationTimestamp", moment), ("deletionGracePeriodSeconds", integer),
    ("deletionTimestamp", moment), ("finalizers", texts), ("generateName", text),
    ("generation", integer), ("managedFields", listOf managedFields),
    ("ownerReferences", listOf owner), ("resourceVersion", text), ("selfLink", text),
    ("uid", text)]

def otherFields : Kind → List (String × Decoder Unit)
  | .space =>
    [("spec", checkedRecord [("finalizers", texts)]),
      ("status", checkedRecord [("conditions", listOf condition), ("phase", text)])]
  | .secret =>
    [("data", bytesMap), ("immutable", flag), ("stringData", textMap), ("type", text)]

def metadataStep (object : Object) (key : String) (value : Tree) : Except Fault Object :=
  match key with
  | "name" => do return { object with name := ← decodeOptional decodeText value }
  | "namespace" => do return { object with space := ← decodeOptional decodeText value }
  | "labels" => do return { object with labels := ← decodeOptional decodeTextMap value }
  | "annotations" => do return { object with annotations := ← decodeOptional decodeTextMap value }
  | key => do
    match otherMetadata.lookup key with
    | some decode => checked (decodeOptional decode) value
    | none => skip value
    return object

def decodeMetadata : Decoder Object
  | .object members => members.fold metadataStep {}
  | tree => .error tree.misfit

def objectStep (kind : Kind) (object : Object) (key : String) (value : Tree) :
    Except Fault Object :=
  match key with
  | "metadata" => do return (← decodeOptional decodeMetadata value).getD {}
  | "apiVersion" => do
    exactly "v1" value
    return object
  | "kind" => do
    exactly kind.name value
    return object
  | key => do
    match (otherFields kind).lookup key with
    | some decode => checked (decodeOptional decode) value
    | none => skip value
    return object

def decode (kind : Kind) : Decoder Object
  | .object members => members.fold (objectStep kind) {}
  | tree => .error tree.misfit

end Manifest
end ScopedGrants.Cluster
