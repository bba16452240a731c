import ScopedGrants.Json.Decode
import ScopedGrants.SortedMap

/-!
Objects whose members are not fields of a fixed record: maps of texts, and records of which only
the types of the fields are looked at.
-/

namespace ScopedGrants.Json

/-- A map of texts; of two members with one key the later counts. -/
def decodeTextMap : Decoder (SortedMap String String)
  | .object members =>
    members.fold (fun map key value => return map.insert key (← decodeText value)) .empty
  | tree => .error tree.misfit

def decodeBool : Decoder Bool
  | .bool value => .ok value
  | tree => .error tree.misfit

/-- A value of which only the type matters. -/
def checked {α : Type} (decode : Decoder α) : Decoder Unit := fun tree => do
  let _ ← decode tree

/-- A record of which only the types of some fields matter. Each of them may be null. -/
def checkedRecord (fields : List (String × Decoder Unit)) : Decoder Unit
  | .object members =>
    members.fold (fun _ key value =>
      match fields.lookup key with
      | some decode => checked (decodeOptional decode) value
      | none => skip value) ()
  | tree => .error tree.misfit

end ScopedGrants.Json
