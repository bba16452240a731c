import ScopedGrants.Text.Lowercase

/-!
Principals are user emails and group names. They are stored as written and compared by their
lower-case forms.
-/

namespace ScopedGrants.Principal

open Text

def folded (principal : String) : List Char := principal.toList.flatMap lowercase

/-- The two texts name one principal. -/
def Same (a b : String) : Prop := folded a = folded b

instance (a b : String) : Decidable (Same a b) := inferInstanceAs (Decidable (folded a = folded b))

variable {a b c : String}

theorem Same.refl (a : String) : Same a a := Eq.refl (folded a)

theorem Same.symm (same : Same a b) : Same b a := Eq.symm same

theorem Same.trans (first : Same a b) (second : Same b c) : Same a c := Eq.trans first second

/-- No character is lost in lower case, so only nobody is nobody. -/
theorem same_nobody (same : Same a "") : a = "" := by
  have nothing : a.toList.flatMap lowercase = [] := same
  rw [List.flatMap_eq_nil_iff] at nothing
  have empty : a.toList = [] :=
    List.eq_nil_iff_forall_not_mem.mpr fun c member => lowercase_ne_nil c (nothing c member)
  exact String.toList_eq_nil_iff.mp empty

end ScopedGrants.Principal
