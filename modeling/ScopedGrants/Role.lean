/-!
Roles: one ladder for every kind of resource. Roles are compared by level, and any name that is
none of the three held roles reads as the role that holds nothing.
-/

namespace ScopedGrants

inductive Role where
  | unspecified
  | viewer
  | editor
  | owner
deriving DecidableEq, Repr, Inhabited

namespace Role

def all : List Role := [unspecified, viewer, editor, owner]

def level : Role → Nat
  | unspecified => 0
  | viewer => 1
  | editor => 2
  | owner => 3

/-- The role at a level; levels off the ladder hold nothing. -/
def ofLevel (level : Nat) : Role := (all.find? (·.level == level)).getD unspecified

def name : Role → String
  | unspecified => "unspecified"
  | viewer => "viewer"
  | editor => "editor"
  | owner => "owner"

/-- The role of a name, whatever the case of its ASCII letters. -/
def ofName (name : String) : Role :=
  match name.toLower with
  | "viewer" => viewer
  | "editor" => editor
  | "owner" => owner
  | _ => unspecified

instance : LE Role := ⟨fun a b => a.level ≤ b.level⟩
instance : LT Role := ⟨fun a b => a.level < b.level⟩
instance (a b : Role) : Decidable (a ≤ b) := inferInstanceAs (Decidable (a.level ≤ b.level))
instance (a b : Role) : Decidable (a < b) := inferInstanceAs (Decidable (a.level < b.level))
instance : Max Role := ⟨fun a b => if a ≤ b then b else a⟩

/-- The highest level among some roles, zero if there are none. -/
def peak (roles : List Role) : Nat := (roles.map level).max?.getD 0

theorem ofLevel_level (role : Role) : ofLevel role.level = role := by cases role <;> rfl

theorem ofName_name (role : Role) : ofName role.name = role := by
  cases role <;> decide +kernel

end Role
end ScopedGrants
