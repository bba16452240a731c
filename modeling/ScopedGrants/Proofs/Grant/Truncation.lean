import ScopedGrants.Proofs.Grant.Language
import ScopedGrants.Proofs.Json.TornTrees

/-!
Stored lists of grants that have lost their end. Wherever the text is cut, it is not read as a
shorter list: the reader finds nothing wrong before the cut, and there it wants more.
-/

namespace ScopedGrants

open Json

/-! ### Numbers -/

namespace Text

theorem ofDigits_append_singleton (digits : List Char) (digit : Char) :
    ofDigits 10 (digits ++ [digit]) = 10 * ofDigits 10 digits + (digitValue? digit).getD 0 := by
  rw [ofDigits, List.foldl_append]
  rfl

theorem ofDigits_append_le (digits more : List Char) :
    ofDigits 10 digits ≤ ofDigits 10 (digits ++ more) := by
  induction more using List.reverseRecOn with
  | nil => rw [List.append_nil]
  | append_singleton more digit ih =>
    rw [← List.append_assoc, ofDigits_append_singleton]
    omega

theorem ofDigits_pos {digit : Char} {more : List Char} (first : digit.isDigit = true)
    (nonzero : digit ≠ '0') : 0 < ofDigits 10 (digit :: more) := by
  have range : 48 ≤ digit.toNat ∧ digit.toNat ≤ 57 := by
    simpa [Char.isDigit, UInt32.le_iff_toNat_le] using first
  have above : digit.toNat ≠ 48 := fun same => nonzero (Char.toNat_inj.mp same)
  have value : ofDigits 10 [digit] = digit.toNat - 48 := by
    simp [ofDigits, digitValue?_of_isDigit first]
  have least := ofDigits_append_le [digit] more
  rw [value] at least
  exact Nat.lt_of_lt_of_le (by omega) least

end Text

namespace Json.Numeral

variable {number short : Numeral}

theorem ofDigits_ne_zero (grammatical : number.Grammatical) (begins : short.Begins number)
    (nonzero : Text.ofDigits 10 number.whole ≠ 0) : Text.ofDigits 10 short.whole ≠ 0 := by
  obtain ⟨more, split⟩ := begins.whole
  obtain ⟨some, digits⟩ := begins.grammatical.whole
  cases whole : short.whole with
  | nil => exact absurd whole some
  | cons digit rest =>
    rw [whole] at split digits
    have other : digit ≠ '0' := by
      rintro rfl
      -- A zero is the only digit there is.
      rw [← split, List.cons_append, grammatical.no_zero (rest ++ more) split.symm] at nonzero
      exact nonzero (by decide)
    exact Nat.ne_of_gt (Text.ofDigits_pos (digits digit List.mem_cons_self) other)

/-- With fewer digits an integer still is one, and no farther from zero. -/
theorem integer?_begins (grammatical : number.Grammatical) (begins : short.Begins number) {n : Int}
    (found : number.integer? = some n) :
    ∃ m, short.integer? = some m ∧ (0 ≤ m ∧ m ≤ n ∨ n ≤ m ∧ m ≤ 0) := by
  have nonzero := ofDigits_ne_zero grammatical begins
  have fewer : Text.ofDigits 10 short.whole ≤ Text.ofDigits 10 number.whole := by
    obtain ⟨more, split⟩ := begins.whole
    rw [← split]
    exact Text.ofDigits_append_le short.whole more
  obtain ⟨-, sign, -, fraction, exponent⟩ := begins
  obtain ⟨_, whole, _, _⟩ := short
  cases integer?_eq_some.mp found with
  | natural digits =>
    obtain rfl := sign
    obtain rfl := fraction rfl
    obtain rfl := exponent rfl
    have left := integer?_eq_some.mpr (.natural whole)
    exact ⟨_, left, .inl ⟨Int.natCast_nonneg _, Int.ofNat_le.mpr fewer⟩⟩
  | negative digits other =>
    obtain rfl := sign
    obtain rfl := fraction rfl
    obtain rfl := exponent rfl
    have left := integer?_eq_some.mpr (.negative whole (nonzero other))
    have below := Int.neg_nonpos_of_nonneg (Int.natCast_nonneg (Text.ofDigits 10 whole))
    exact ⟨_, left, .inr ⟨Int.neg_le_neg (Int.ofNat_le.mpr fewer), below⟩⟩

theorem toInt64_begins (grammatical : number.Grammatical) (begins : short.Begins number)
    {value : Int64} (accepted : number.toInt64 = .ok value) :
    ∃ shorter, short.toInt64 = .ok shorter := by
  obtain ⟨n, found, between⟩ := integer?_begins grammatical begins (toInt64_eq_ok.mp accepted)
  have least := Int64.minValue_le_toInt value
  have greatest := Int64.toInt_le value
  have around : Int64.minValue.toInt ≤ 0 ∧ 0 ≤ Int64.maxValue.toInt := by decide
  rw [toInt64, found]
  exact ⟨_, if_pos ⟨by omega, by omega⟩⟩

end Json.Numeral

/-! ### Grants -/

theorem patient_bound (bound : Instant) : Patient Grant.decodeBound (.ofInt bound.toInt) := by
  have integer : Patient decodeInt64 (.ofInt bound.toInt) := by
    rintro _ (skipped | begins)
    · rintro _ ⟨⟩
      rfl
    · obtain ⟨shorter, accepted⟩ := Numeral.toInt64_begins (Numeral.ofInt_grammatical _) begins
        (Numeral.toInt64_ofInt bound)
      intro fault refused
      cases accepted.symm.trans refused
  exact integer.optional

namespace Grant

def entries (grant : Grant) : List (String × Tree) :=
  [("principal", .ofText grant.principal), ("role", .ofText grant.role.name)] ++
    encodeBound "nbf" grant.notBefore ++ encodeBound "exp" grant.expires

theorem patient_encodeBound (key : String) (bound : Option Instant) :
    ∀ entry ∈ encodeBound key bound, entry.1 = key ∧ Patient decodeBound entry.2 := by
  cases bound with
  | none => exact List.forall_mem_nil _
  | some bound => exact List.forall_mem_singleton.mpr ⟨rfl, patient_bound bound⟩

theorem patient_step (grant : Grant) : ∀ entry ∈ grant.entries, ∀ fields next,
    Fields.step fields entry.1 entry.2 = .ok next →
      Patient (Fields.step fields entry.1) entry.2 := by
  rintro ⟨key, value⟩ member fields next accepted
  rw [entries, List.mem_append, List.mem_append, List.mem_pair] at member
  rcases member with (fixed | begins) | ends
  · rcases fixed with same | same
    · cases same
      exact (patient_text _).field accepted
    · cases same
      exact ((patient_text _).map Role.ofName).field accepted
  · obtain ⟨rfl, patient⟩ := patient_encodeBound _ _ _ begins
    exact patient.field accepted
  · obtain ⟨rfl, patient⟩ := patient_encodeBound _ _ _ ends
    exact patient.field accepted

theorem decode_torn (grant : Grant) {short : Tree} (torn : grant.encode.Torn short) :
    decode short = .error .truncated := by
  cases torn with
  | broken => rfl
  | @object _ short torn =>
    obtain ⟨fields, stored, -⟩ := map_eq_ok.mp grant.decode_encode
    have members : (Members.ofEntries grant.entries).Torn short := torn
    rw [decode, Members.fold_torn members grant.patient_step stored]
    rfl

end Grant

namespace Grants

theorem decode_torn (grants : List Grant) {short : Tree}
    (torn : (Tree.ofList (grants.map Grant.encode)).Torn short) :
    decode short = .error .truncated := by
  cases torn with
  | broken => rfl
  | @array _ short torn =>
    have patient : ∀ value ∈ grants.map Grant.encode, Patient Grant.decode value := by
      refine List.forall_mem_map.mpr fun grant _ short torn fault refused => ?_
      cases (grant.decode_torn torn).symm.trans refused
      rfl
    have accepted : ∀ value ∈ grants.map Grant.encode, ∃ grant, Grant.decode value = .ok grant :=
      List.forall_mem_map.mpr fun grant _ => ⟨grant, grant.decode_encode⟩
    exact (decode_array short).trans (Items.decode_torn torn patient accepted)

/-- A stored list that has lost its end, be it in a text, in a number or between two grants, is
refused, and the fault is that it ends too early. -/
theorem read_truncated (field : String) (grants : List Grant) (front back : String)
    (begun : front ≠ "") (lost : back ≠ "") (split : write grants = front ++ back) :
    read field (some front) = .error ⟨field, .truncated⟩ := by
  have solid : Text.blank front = false := by
    have begins := congrArg String.toList split
    rw [write, Tree.write, String.toList_ofList, String.toList_append] at begins
    cases first : front.toList with
    | nil => exact absurd (String.toList_eq_nil_iff.mp first) begun
    | cons c rest =>
      rw [first] at begins
      obtain ⟨rfl, -⟩ := List.cons.inj begins
      rw [Text.blank, first]
      rfl
  have grammatical : (Tree.ofList (grants.map Grant.encode)).Grammatical :=
    Tree.ofList_grammatical (List.forall_mem_map.mpr fun grant _ => grant.encode_grammatical)
  have refused : Json.decode decode front = .error .truncated :=
    Json.decode_torn grammatical (fun _ torn => decode_torn grants torn) lost split
  simp only [read, solid, refused, Bool.false_eq_true, if_false]

/-- What is left of the expiry is a number, and an earlier one. -/
theorem read_truncated_expiry :
    read "grants" (some "[\x7b\"principal\":\"ann\",\"role\":\"editor\",\"exp\":9") =
      .error ⟨"grants", .truncated⟩ :=
  read_truncated "grants" [⟨"ann", .editor, none, some 90⟩] _ "0\x7d]" (by decide) (by decide)
    (by decide)

end Grants
end ScopedGrants
