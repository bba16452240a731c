import ScopedGrants.Grant.Codec
import ScopedGrants.Proofs.Json.Shape

/-!
Lists of grants survive being stored: the text of a list is read as that list, whatever stands in
its principals and wherever its bounds lie.
-/

namespace ScopedGrants

open Json

theorem Role.decode_ofText (role : Role) : Role.decode (.ofText role.name) = .ok role :=
  congrArg Except.ok role.ofName_name

namespace Grant

theorem decodeBound_ofInt (bound : Instant) :
    decodeBound (.ofInt bound.toInt) = .ok (some bound) := by
  show some <$> (Numeral.ofInt bound.toInt).toInt64 = _
  rw [Numeral.toInt64_ofInt]
  rfl

theorem encodeBound_grammatical (key : String) (bound : Option Instant) :
    ∀ entry ∈ encodeBound key bound, entry.2.Grammatical := by
  cases bound with
  | none => exact List.forall_mem_nil _
  | some bound => exact List.forall_mem_singleton.mpr (Tree.ofInt_grammatical _)

theorem encode_grammatical (grant : Grant) : grant.encode.Grammatical := by
  refine Tree.ofMembers_grammatical fun entry member => ?_
  rw [List.mem_append, List.mem_append] at member
  rcases member with (fixed | begins) | ends
  · rcases List.mem_pair.mp fixed with rfl | rfl
    · exact Tree.ofText_grammatical _
    · exact Tree.ofText_grammatical _
  · exact encodeBound_grammatical _ _ entry begins
  · exact encodeBound_grammatical _ _ entry ends

theorem decode_encode (grant : Grant) : decode grant.encode = .ok grant := by
  obtain ⟨principal, role, notBefore, expires⟩ := grant
  have text : decodeText (.ofText principal) = .ok principal := rfl
  cases notBefore <;> cases expires <;>
    simp only [decode, encode, encodeBound, Tree.ofMembers, List.cons_append, List.nil_append,
      List.foldr_cons, List.foldr_nil, Members.fold, Fields.step, once, text, Role.decode_ofText,
      decodeBound_ofInt] <;> rfl

end Grant

namespace Grants

theorem decode_array (items : Items) : decode (.array items) = items.decode Grant.decode := by
  show (·.getD []) <$> some <$> items.decode Grant.decode = _
  cases items.decode Grant.decode <;> rfl

theorem decode_ofList (grants : List Grant) :
    decode (.ofList (grants.map Grant.encode)) = .ok grants := by
  refine (decode_array _).trans (Items.decode_eq_ok.mpr ⟨_, rfl, ?_⟩)
  rw [List.forall₂_map_left_iff, List.forall₂_same]
  exact fun grant _ => grant.decode_encode

theorem blank_write (grants : List Grant) : Text.blank (write grants) = false := by
  rw [Text.blank, write, Tree.write, String.toList_ofList]
  rfl

theorem read_write (field : String) (grants : List Grant) :
    read field (some (write grants)) = .ok grants := by
  have grammatical : (Tree.ofList (grants.map Grant.encode)).Grammatical := by
    refine Tree.ofList_grammatical (List.forall_mem_map.mpr fun grant _ => ?_)
    exact grant.encode_grammatical
  have decoded : Json.decode decode (write grants) = .ok grants :=
    (decode_write decode grammatical).trans (decode_ofList grants)
  simp only [read, blank_write, decoded, Bool.false_eq_true, if_false]

/-- Storing loses nothing, and two lists are never stored as one text. A text in any other spelling
holds the list that its own rewriting holds. -/
theorem write_lossless :
    (∀ field grants, read field (some (write grants)) = .ok grants) ∧
    Function.Injective write ∧
    ∀ field other text grants, read field text = .ok grants →
      read other (some (write grants)) = read field text := by
  refine ⟨read_write, ?_, ?_⟩
  · intro left right same
    have equal := read_write "" left
    rw [same, read_write] at equal
    exact (Except.ok.inj equal).symm
  · intro field other text grants found
    rw [read_write, found]

end Grants
end ScopedGrants
