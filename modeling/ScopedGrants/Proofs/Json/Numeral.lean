import Mathlib.Data.List.Basic
import ScopedGrants.Json.Numeral

/-!
Numbers as the grammar of JSON has them, and the integers that they spell.
-/

namespace ScopedGrants

namespace Text

theorem digitValue?_of_isDigit {c : Char} (digit : c.isDigit = true) :
    digitValue? c = some (c.toNat - '0'.toNat) := by
  have range : '0' ≤ c ∧ c ≤ '9' := by
    simpa [Char.isDigit, Char.le_def] using digit
  rw [digitValue?, if_pos range]
  rfl

theorem ofDigits_eq_ofDigitChars {digits : List Char} (all : ∀ c ∈ digits, c.isDigit = true) :
    ofDigits 10 digits = Nat.ofDigitChars 10 digits 0 := by
  rw [ofDigits, Nat.ofDigitChars_eq_foldl]
  refine List.foldl_ext _ _ _ fun total c member => ?_
  rw [digitValue?_of_isDigit (all c member)]
  rfl

theorem isDigit_of_mem_toDigits {n : Nat} {c : Char} (member : c ∈ Nat.toDigits 10 n) :
    c.isDigit = true :=
  Nat.isDigit_of_mem_toDigits (by decide) (by decide) member

theorem ofDigits_toDigits (n : Nat) : ofDigits 10 (Nat.toDigits 10 n) = n := by
  rw [ofDigits_eq_ofDigitChars fun _ => isDigit_of_mem_toDigits, Nat.ofDigitChars_ten_toDigits]

theorem head?_toDigits {n : Nat} (positive : 0 < n) :
    (Nat.toDigits 10 n).head? ≠ some '0' := by
  induction n using Nat.strongRecOn with
  | ind n ih =>
    by_cases small : n < 10
    · rw [Nat.toDigits_of_lt_base small]
      simpa using Nat.ne_of_gt positive
    · rw [Nat.toDigits_of_base_le (by decide) (by omega), List.head?_append_of_ne_nil _
        Nat.toDigits_ne_nil]
      exact ih (n / 10) (by omega) (by omega)

end Text

namespace Json

open Text

def AreDigits (digits : List Char) : Prop := digits ≠ [] ∧ ∀ c ∈ digits, c.isDigit = true

/-- Parts that the grammar has: digits in each place, and no zero before other whole digits. -/
structure Numeral.Grammatical (number : Numeral) : Prop where
  whole : AreDigits number.whole
  no_zero : ∀ rest, number.whole = '0' :: rest → rest = []
  fraction : ∀ digits, number.fraction = some digits → AreDigits digits
  exponent : ∀ exponent, number.exponent = some exponent → AreDigits exponent.digits

namespace Numeral

theorem ofInt_grammatical (n : Int) : (ofInt n).Grammatical where
  whole := ⟨Nat.toDigits_ne_nil, fun _ => isDigit_of_mem_toDigits⟩
  no_zero rest spelled := by
    rw [ofInt] at spelled
    dsimp only at spelled
    rcases Nat.eq_zero_or_pos n.natAbs with zero | positive
    · rw [zero, Nat.toDigits_zero] at spelled
      exact (List.cons.inj spelled).2.symm
    · refine absurd ?_ (head?_toDigits positive)
      rw [spelled, List.head?_cons]
  fraction digits impossible := by cases impossible
  exponent exponent impossible := by cases impossible

theorem integer?_ofInt (n : Int) : (ofInt n).integer? = some n := by
  simp only [integer?, ofInt, ofDigits_toDigits, Option.isSome_none, Bool.or_self,
    Bool.false_eq_true, if_false]
  by_cases negative : n < 0
  · have nonzero : n.natAbs ≠ 0 := by omega
    have value : -(n.natAbs : Int) = n := by omega
    simp only [negative, decide_true, if_true, if_neg nonzero, value]
  · have value : (n.natAbs : Int) = n := by omega
    simp only [negative, decide_false, Bool.false_eq_true, if_false, value]

theorem toInt64_eq_ok {number : Numeral} {n : Int64} :
    number.toInt64 = .ok n ↔ number.integer? = some n.toInt := by
  constructor
  · intro accepted
    unfold toInt64 at accepted
    split at accepted
    case h_1 m found =>
      split at accepted
      case isTrue within =>
        cases accepted
        rw [found, Int64.toInt_ofInt_of_le within.1 (Int.lt_add_one_of_le within.2)]
      case isFalse => cases accepted
    case h_2 => cases accepted
  · intro found
    have within : Int64.minValue.toInt ≤ n.toInt ∧ n.toInt ≤ Int64.maxValue.toInt :=
      ⟨Int64.minValue_le_toInt n, Int64.toInt_le n⟩
    rw [toInt64, found]
    simp only [within, and_self, if_true, Int64.ofInt_toInt]

theorem toInt64_ofInt (n : Int64) : (ofInt n.toInt).toInt64 = .ok n :=
  toInt64_eq_ok.mpr (integer?_ofInt _)

end Numeral
end Json
end ScopedGrants
