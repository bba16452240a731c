import Mathlib.Data.List.Forall2
import ScopedGrants.Principal

/-!
When two texts name one principal. That is an equivalence, it goes through part by part, and among
ASCII texts it is the same letters in whatever case and nothing else. Beyond ASCII one character may
stand against several, since lower-case forms differ in length.
-/

namespace ScopedGrants.Principal

open Text

/-! ### Texts put together -/

theorem folded_append (a b : String) : folded (a ++ b) = folded a ++ folded b := by
  rw [folded, String.toList_append, List.flatMap_append]
  rfl

theorem Same.append {a b c d : String} (front : Same a b) (back : Same c d) :
    Same (a ++ c) (b ++ d) := by
  unfold Same at *
  rw [folded_append, folded_append, front, back]

theorem same_nobody_iff {a : String} : Same a "" ↔ a = "" := by
  constructor
  · exact same_nobody
  · rintro rfl
    exact .refl ""

/-! ### ASCII -/

def Ascii (text : String) : Prop := ∀ c ∈ text.toList, c.toNat < 0x80

instance (text : String) : Decidable (Ascii text) :=
  List.decidableBAll (fun c : Char => c.toNat < 0x80) text.toList

def CapitalOf (capital small : Char) : Prop :=
  'A' ≤ capital ∧ capital ≤ 'Z' ∧ small.toNat = capital.toNat + 32

instance (capital small : Char) : Decidable (CapitalOf capital small) :=
  inferInstanceAs (Decidable (_ ∧ _ ∧ _))

def UpToCase (c d : Char) : Prop := c = d ∨ CapitalOf c d ∨ CapitalOf d c

instance (c d : Char) : Decidable (UpToCase c d) := inferInstanceAs (Decidable (_ ∨ _ ∨ _))

theorem capital_iff {c : Char} : 'A' ≤ c ∧ c ≤ 'Z' ↔ 65 ≤ c.toNat ∧ c.toNat ≤ 90 :=
  and_congr UInt32.le_iff_toNat_le UInt32.le_iff_toNat_le

theorem toNat_toLower (c : Char) :
    c.toLower.toNat = if 65 ≤ c.toNat ∧ c.toNat ≤ 90 then c.toNat + 32 else c.toNat := by
  unfold Char.toLower
  split
  case isTrue capital =>
    have range := capital_iff.mp capital
    rw [if_pos range]
    change (c.val + 32).toNat = c.toNat + 32
    rw [UInt32.toNat_add]
    exact Nat.mod_eq_of_lt (by change c.toNat + 32 < 2 ^ 32; omega)
  case isFalse other => rw [if_neg (mt capital_iff.mpr other)]

theorem toLower_eq_iff {c d : Char} : c.toLower = d.toLower ↔ UpToCase c d := by
  unfold UpToCase CapitalOf
  rw [← and_assoc, ← and_assoc, capital_iff, capital_iff, ← Char.toNat_inj, ← Char.toNat_inj,
    toNat_toLower, toNat_toLower]
  split_ifs <;> omega

theorem folded_ascii {a : String} (ascii : Ascii a) : folded a = a.toList.map Char.toLower := by
  rw [folded, List.map_eq_flatMap]
  exact List.flatMap_congr fun c member => lowercase_of_ascii (ascii c member)

theorem same_ascii {a b : String} (ascii : Ascii a) (other : Ascii b) :
    Same a b ↔ List.Forall₂ UpToCase a.toList b.toList := by
  rw [Same, folded_ascii ascii, folded_ascii other, ← List.forall₂_eq_eq_eq,
    List.forall₂_map_left_iff, List.forall₂_map_right_iff]
  simp only [toLower_eq_iff]

/-- Naming one principal is an equivalence in which nobody stands alone, and it goes through part by
part. Among ASCII texts it is being the same character by character but for the case of letters. -/
theorem same_identity :
    Equivalence Same ∧
    (∀ a, Same a "" ↔ a = "") ∧
    (∀ a b c d, Same a b → Same c d → Same (a ++ c) (b ++ d)) ∧
    ∀ a b, Ascii a → Ascii b →
      (Same a b ↔ a.length = b.length ∧
        ∀ pair ∈ a.toList.zip b.toList, UpToCase pair.1 pair.2) := by
  refine ⟨⟨Same.refl, Same.symm, Same.trans⟩, fun _ => same_nobody_iff,
    fun _ _ _ _ front back => front.append back, ?_⟩
  intro a b ascii other
  rw [same_ascii ascii other, List.forall₂_iff_zip, String.length_toList, String.length_toList]
  refine and_congr_right fun _ => ⟨fun each pair member => each member, fun each c d member => ?_⟩
  exact each (c, d) member

/-- The capital I with a dot stands against two characters, and the sign for kelvin against a `k`.
In ASCII the at sign and the backquote differ like a capital and its small letter, yet are no
letters. -/
theorem same_identity_respelled :
    Same ("\u0130" ++ "\u212A") ("i\u0307" ++ "k") ∧ Same "Ann@Ops" "aNN@oPS" ∧
      ¬ Same "ann@ops" "ann\x60ops" := by
  obtain ⟨-, -, append, ascii⟩ := same_identity
  refine ⟨append _ _ _ _ (by decide +kernel) (by decide +kernel),
    (ascii _ _ (by decide +kernel) (by decide +kernel)).mpr (by decide +kernel), fun same => ?_⟩
  obtain ⟨-, each⟩ := (ascii _ _ (by decide +kernel) (by decide +kernel)).mp same
  have sign := each ('@', '\x60') (by decide +kernel)
  exact absurd sign (by decide)

end ScopedGrants.Principal
