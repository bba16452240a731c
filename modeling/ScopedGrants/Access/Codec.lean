import ScopedGrants.Access.Decision
import ScopedGrants.Json.Variant
import ScopedGrants.Permission

/-!
Callers, permissions and scopes as JSON.
-/

namespace ScopedGrants

open Json

namespace Caller

structure Fields where
  email : Option String := none
  groups : Option (List String) := none
deriving DecidableEq, Repr

/-- A caller has an email, and may leave out the groups. -/
def Fields.caller (fields : Fields) : Except Fault Caller := do
  return { email := ← required fields.email, groups := fields.groups.getD [] }

def Fields.step (fields : Fields) (key : String) (value : Tree) : Except Fault Fields :=
  match key with
  | "email" => do return { fields with email := ← once fields.email decodeText value }
  | "groups" => do
    return { fields with groups := ← once fields.groups (decodeList decodeText) value }
  | _ => do
    skip value
    return fields

def ofItems (items : Items) : Except Fault Caller := do
  let (email, items) ← items.next decodeText
  let (groups, items) ← items.next? (decodeList decodeText)
  items.finish
  return { email, groups := groups.getD [] }

def decode : Decoder Caller
  | .object members => do (← members.fold Fields.step {}).caller
  | .array items => ofItems items
  | tree => .error tree.misfit

def encode (caller : Caller) : Tree :=
  .ofMembers [("email", .ofText caller.email), ("groups", .ofList (caller.groups.map .ofText))]

end Caller

def Permission.ofStoredName? (name : String) : Option Permission :=
  Permission.all.find? (·.storedName == name)

def Permission.ofJson (text : String) : Except Fault Permission :=
  Variant.decode ofStoredName? text

def Scope.ofName? (name : String) : Option Scope := Scope.all.find? (·.name == name)

def Scope.ofJson (text : String) : Except Fault Scope := Variant.decode ofName? text

end ScopedGrants
