import ScopedGrants.Grant.Active
import ScopedGrants.Grant.Keys
import ScopedGrants.Json.Decode
import ScopedGrants.Text.Blank

/-!
Lists of grants as stored texts. A text lists grants as JSON, each an object with the fields
`principal`, `role`, `nbf` and `exp` or an array of them in that order. Every field may be
missing, and whatever else an object holds is passed over.
-/

namespace ScopedGrants

open Json

structure MalformedGrants where
  field : String
  fault : Fault
deriving DecidableEq, Repr

/-- The error in words; it does not say what is wrong with the text. -/
def MalformedGrants.message (error : MalformedGrants) : String :=
  "malformed grants in " ++ error.field

/-- Any name reads as a role; one that is unknown holds nothing. -/
def Role.decode : Decoder Role := fun tree => Role.ofName <$> decodeText tree

namespace Grant

structure Fields where
  principal : Option String := none
  role : Option Role := none
  notBefore : Option (Option Instant) := none
  expires : Option (Option Instant) := none
deriving DecidableEq, Repr

def Fields.grant (fields : Fields) : Grant where
  principal := fields.principal.getD ""
  role := fields.role.getD .unspecified
  notBefore := fields.notBefore.getD none
  expires := fields.expires.getD none

def decodeBound : Decoder (Option Instant) := decodeOptional decodeInt64

def Fields.step (fields : Fields) (key : String) (value : Tree) : Except Fault Fields :=
  match key with
  | "principal" => do
    return { fields with principal := ← once fields.principal decodeText value }
  | "role" => do return { fields with role := ← once fields.role Role.decode value }
  | "nbf" => do return { fields with notBefore := ← once fields.notBefore decodeBound value }
  | "exp" => do return { fields with expires := ← once fields.expires decodeBound value }
  | _ => do
    skip value
    return fields

def ofItems (items : Items) : Except Fault Grant := do
  let (principal, items) ← items.next? decodeText
  let (role, items) ← items.next? Role.decode
  let (notBefore, items) ← items.next? decodeBound
  let (expires, items) ← items.next? decodeBound
  items.finish
  return Fields.grant { principal, role, notBefore, expires }

def decode : Decoder Grant
  | .object members => Fields.grant <$> members.fold Fields.step {}
  | .array items => ofItems items
  | tree => .error tree.misfit

/-- A bound of a window as a member of an object, left out if that side is open. -/
def encodeBound (key : String) : Option Instant → List (String × Tree)
  | none => []
  | some bound => [(key, .ofInt bound.toInt)]

def encode (grant : Grant) : Tree :=
  .ofMembers ([("principal", .ofText grant.principal), ("role", .ofText grant.role.name)]
    ++ encodeBound "nbf" grant.notBefore ++ encodeBound "exp" grant.expires)

end Grant

namespace Grants

/-- A list of grants; null stands for the empty one. -/
def decode : Decoder (List Grant) := fun tree =>
  (·.getD []) <$> decodeOptional (decodeList Grant.decode) tree

/-- The grants in the text stored under a key. Nothing and a blank text are no grants. -/
def read (field : String) : Option String → Except MalformedGrants (List Grant)
  | none => .ok []
  | some text =>
    if Text.blank text then .ok []
    else
      match Json.decode decode text with
      | .ok grants => .ok grants
      | .error fault => .error ⟨field, fault⟩

def write (grants : List Grant) : String := (Tree.ofList (grants.map Grant.encode)).write

end Grants
end ScopedGrants
