import ScopedGrants.Principal
import ScopedGrants.Role
import ScopedGrants.SortedMap

/-!
Roles by principal, in the order of the principals. Nobody is never a principal here. Principals
keep the case they are stored in; a caller is matched against all of them without regard to case.
-/

namespace ScopedGrants

@[ext] structure RoleMap where
  roles : SortedMap String Role
  named : ∀ entry ∈ roles.entries, entry.1 ≠ ""
deriving DecidableEq

namespace RoleMap

def empty : RoleMap := ⟨.empty, by simp [SortedMap.empty]⟩

instance : EmptyCollection RoleMap := ⟨empty⟩
instance : Inhabited RoleMap := ⟨empty⟩

def entries (map : RoleMap) : List (String × Role) := map.roles.entries

/-- Stores a role in the place of the principal's role. Nobody gets none. -/
def insert (map : RoleMap) (principal : String) (role : Role) : RoleMap :=
  if named : principal = "" then map
  else
    ⟨map.roles.insert principal role, fun entry member => by
      rcases SortedMap.of_mem_place member with rfl | member
      · exact named
      · exact map.named entry member⟩

/-- Stores each role in turn, so that the last one of a principal stays. -/
def ofList (entries : List (String × Role)) : RoleMap :=
  entries.foldl (fun map entry => map.insert entry.1 entry.2) empty

def ofNames (entries : List (String × String)) : RoleMap :=
  ofList (entries.map fun entry => (entry.1, Role.ofName entry.2))

/-- The role stored under exactly the principal. -/
def get? (map : RoleMap) (principal : String) : Option Role := map.roles.get? principal

/-- The roles of everyone who is the principal but for case, in order. -/
def matching (map : RoleMap) (principal : String) : List Role :=
  (map.entries.filter fun entry => Principal.Same entry.1 principal).map (·.2)

def size (map : RoleMap) : Nat := map.entries.length

def isEmpty (map : RoleMap) : Bool := map.entries.isEmpty

end RoleMap
end ScopedGrants
