import ScopedGrants.Proofs.Grant.Codec

/-!
The language of stored lists of grants. It is said which values stand for which lists without a word
on how they are read; exactly the texts that spell such a value are read, and as the list that it
stands for.
-/

namespace ScopedGrants

open Json

/-! ### Values -/

/-- The number is an integer, without fraction or exponent. Minus zero is none. -/
inductive Json.Numeral.Spells : Numeral → Int → Prop
  | natural (digits : List Char) :
      Spells { negative := false, whole := digits } (Text.ofDigits 10 digits)
  | negative (digits : List Char) (nonzero : Text.ofDigits 10 digits ≠ 0) :
      Spells { negative := true, whole := digits } (-(Text.ofDigits 10 digits : Int))

namespace Grant

inductive TextForm : Tree → String → Prop
  | text (content : String) : TextForm (.text (some content)) content

inductive RoleForm : Tree → Role → Prop
  | name (content : String) : RoleForm (.text (some content)) (.ofName content)

inductive BoundForm : Tree → Option Instant → Prop
  | null : BoundForm .null none
  | integer {number : Numeral} {bound : Instant} (spells : number.Spells bound.toInt) :
      BoundForm (.number number) (some bound)

/-- The members of a grant. Each field is named at most once; what else is there does not matter. -/
structure ObjectForm (entries : List (String × Tree)) (grant : Grant) : Prop where
  principal : Filled TextForm "" (valuesAt "principal" entries) grant.principal
  role : Filled RoleForm .unspecified (valuesAt "role" entries) grant.role
  notBefore : Filled BoundForm none (valuesAt "nbf" entries) grant.notBefore
  expires : Filled BoundForm none (valuesAt "exp" entries) grant.expires

structure ArrayForm (values : List Tree) (grant : Grant) : Prop where
  length : values.length ≤ 4
  principal : Filled TextForm "" values[0]?.toList grant.principal
  role : Filled RoleForm .unspecified values[1]?.toList grant.role
  notBefore : Filled BoundForm none values[2]?.toList grant.notBefore
  expires : Filled BoundForm none values[3]?.toList grant.expires

/-- A grant is an object or an array. The keys of an object are texts with a content, as they have
to be told apart. -/
inductive Form : Tree → Grant → Prop
  | object {entries : List (String × Tree)} {grant : Grant} (form : ObjectForm entries grant) :
      Form (.ofMembers entries) grant
  | array {values : List Tree} {grant : Grant} (form : ArrayForm values grant) :
      Form (.ofList values) grant

end Grant

namespace Grants

inductive Form : Tree → List Grant → Prop
  | null : Form .null []
  | list {values : List Tree} {grants : List Grant} (each : List.Forall₂ Grant.Form values grants) :
      Form (.ofList values) grants

/-- The texts of a list of grants: blank ones of the empty list, and those of the list's values. -/
def Language (text : String) (grants : List Grant) : Prop :=
  (Text.blank text = true ∧ grants = []) ∨ ∃ tree : Tree, tree.SpelledBy text ∧ Form tree grants

end Grants

/-! ### Readers of fields -/

theorem Json.Numeral.integer?_eq_some {number : Numeral} {n : Int} :
    number.integer? = some n ↔ number.Spells n := by
  constructor
  · intro found
    obtain ⟨negative, whole, _ | fraction, _ | exponent⟩ := number
    · cases negative with
      | false =>
        cases found
        exact .natural whole
      | true =>
        by_cases zero : Text.ofDigits 10 whole = 0
        · simp [integer?, zero] at found
        · simp only [integer?, zero, Option.isSome_none, Bool.or_self, Bool.false_eq_true, if_true,
            if_false] at found
          cases found
          exact .negative whole zero
    all_goals cases found
  · intro spells
    cases spells with
    | natural digits => rfl
    | negative digits nonzero =>
      simp only [integer?, nonzero, Option.isSome_none, Bool.or_self, Bool.false_eq_true, if_true,
        if_false]

namespace Grant

theorem decodeText_eq_ok (tree : Tree) (text : String) :
    decodeText tree = .ok text ↔ TextForm tree text := by
  constructor
  · intro accepted
    unfold decodeText at accepted
    split at accepted <;> cases accepted
    exact .text text
  · rintro ⟨⟩
    rfl

theorem decodeRole_eq_ok (tree : Tree) (role : Role) :
    Role.decode tree = .ok role ↔ RoleForm tree role := by
  constructor
  · intro accepted
    obtain ⟨name, found, rfl⟩ := map_eq_ok.mp accepted
    obtain ⟨name⟩ := (decodeText_eq_ok tree name).mp found
    exact .name name
  · rintro ⟨name⟩
    rfl

theorem decodeBound_eq_ok (tree : Tree) (bound : Option Instant) :
    decodeBound tree = .ok bound ↔ BoundForm tree bound := by
  constructor
  · intro accepted
    cases tree with
    | null =>
      cases accepted
      exact .null
    | number value =>
      obtain ⟨n, found, rfl⟩ := map_eq_ok.mp accepted
      exact .integer (Numeral.integer?_eq_some.mp (Numeral.toInt64_eq_ok.mp found))
    | _ => cases accepted
  · intro form
    cases form with
    | null => rfl
    | integer spells =>
      have found := Numeral.integer?_eq_some.mpr spells
      exact map_eq_ok.mpr ⟨_, Numeral.toInt64_eq_ok.mpr found, rfl⟩

theorem grant_eq {grant : Grant} {principal : Option String} {role : Option Role}
    {notBefore expires : Option (Option Instant)}
    (principal_eq : principal.getD "" = grant.principal)
    (role_eq : role.getD .unspecified = grant.role)
    (begin_eq : notBefore.getD none = grant.notBefore)
    (end_eq : expires.getD none = grant.expires) :
    Fields.grant ⟨principal, role, notBefore, expires⟩ = grant := by
  rw [Fields.grant, principal_eq, role_eq, begin_eq, end_eq]

/-! ### Grants as arrays -/

theorem ofItems_eq_ok {items : Items} {grant : Grant} :
    ofItems items = .ok grant ↔ ∃ values, items = .ofValues values ∧ ArrayForm values grant := by
  constructor
  · intro accepted
    unfold ofItems at accepted
    obtain ⟨⟨principal, after_principal⟩, read_principal, accepted⟩ := bind_eq_ok.mp accepted
    obtain ⟨⟨role, after_role⟩, read_role, accepted⟩ := bind_eq_ok.mp accepted
    obtain ⟨⟨notBefore, after_begin⟩, read_begin, accepted⟩ := bind_eq_ok.mp accepted
    obtain ⟨⟨expires, after_end⟩, read_end, accepted⟩ := bind_eq_ok.mp accepted
    obtain ⟨_, finished, accepted⟩ := bind_eq_ok.mp accepted
    cases accepted
    obtain rfl := Items.finish_eq_ok.mp finished
    -- From the last place to the first, as each tells what the ones before it left.
    obtain ⟨third, rfl, none_left, end_filled⟩ :=
      Items.next?_filled decodeBound_eq_ok none read_end
    obtain ⟨second, rfl, rfl, begin_filled⟩ := Items.next?_filled decodeBound_eq_ok none read_begin
    obtain ⟨first, rfl, rfl, role_filled⟩ :=
      Items.next?_filled decodeRole_eq_ok .unspecified read_role
    obtain ⟨values, rfl, rfl, principal_filled⟩ :=
      Items.next?_filled decodeText_eq_ok "" read_principal
    rw [List.head?_eq_getElem?] at principal_filled
    simp only [List.head?_eq_getElem?, List.getElem?_tail] at role_filled begin_filled end_filled
    have length : values.length ≤ 4 := by
      have lengths := congrArg List.length none_left
      simp only [List.length_tail, List.length_nil] at lengths
      omega
    exact ⟨values, rfl, length, principal_filled, role_filled, begin_filled, end_filled⟩
  · rintro ⟨values, rfl, length, principal, role, notBefore, expires⟩
    have none_left : values.tail.tail.tail.tail = [] := by
      rw [← List.length_eq_zero_iff]
      simp only [List.length_tail]
      omega
    simp only [← List.getElem?_tail, ← List.head?_eq_getElem?] at principal role notBefore expires
    obtain ⟨first, read_first, first_eq⟩ := Items.filled_next? decodeText_eq_ok principal
    obtain ⟨second, read_second, second_eq⟩ := Items.filled_next? decodeRole_eq_ok role
    obtain ⟨third, read_third, third_eq⟩ := Items.filled_next? decodeBound_eq_ok notBefore
    obtain ⟨fourth, read_fourth, fourth_eq⟩ := Items.filled_next? decodeBound_eq_ok expires
    have finished := Items.finish_eq_ok.mpr (congrArg Items.ofValues none_left)
    unfold ofItems
    refine bind_eq_ok.mpr ⟨_, read_first, bind_eq_ok.mpr ⟨_, read_second, ?_⟩⟩
    refine bind_eq_ok.mpr ⟨_, read_third, bind_eq_ok.mpr ⟨_, read_fourth, ?_⟩⟩
    refine bind_eq_ok.mpr ⟨(), finished, congrArg Except.ok ?_⟩
    exact grant_eq first_eq second_eq third_eq fourth_eq

/-! ### Grants as objects -/

theorem foldlM_step {entries : List (String × Tree)} {fields result : Fields} :
    entries.foldlM (fun fields entry => Fields.step fields entry.1 entry.2) fields = .ok result ↔
      (valuesAt "principal" entries).foldlM (fun seen value => once seen decodeText value)
          fields.principal = .ok result.principal ∧
        (valuesAt "role" entries).foldlM (fun seen value => once seen Role.decode value)
          fields.role = .ok result.role ∧
        (valuesAt "nbf" entries).foldlM (fun seen value => once seen decodeBound value)
          fields.notBefore = .ok result.notBefore ∧
        (valuesAt "exp" entries).foldlM (fun seen value => once seen decodeBound value)
          fields.expires = .ok result.expires ∧
        ∀ entry ∈ entries, entry.1 ∉ ["principal", "role", "nbf", "exp"] →
          skip entry.2 = .ok () := by
  induction entries generalizing fields with
  | nil =>
    obtain ⟨principal, role, notBefore, expires⟩ := fields
    obtain ⟨_, _, _, _⟩ := result
    simp [valuesAt, pure, Except.pure]
  | cons entry entries ih =>
    obtain ⟨key, value⟩ := entry
    rw [List.foldlM_cons, bind_eq_ok]
    simp only [ih, List.forall_mem_cons]
    unfold Fields.step
    split
    case h_5 principal role notBefore expires =>
      have named : key ∉ ["principal", "role", "nbf", "exp"] := by
        simpa using ⟨principal, role, notBefore, expires⟩
      have elsewhere : ∀ name ∈ ["principal", "role", "nbf", "exp"],
          valuesAt name ((key, value) :: entries) = valuesAt name entries := by
        rintro name member
        exact valuesAt_cons_of_ne (fun same : key = name => named (same ▸ member)) entries
      simp only [List.forall_mem_cons] at elsewhere
      obtain ⟨at_principal, at_role, at_begin, at_end, -⟩ := elsewhere
      rw [at_principal, at_role, at_begin, at_end]
      constructor
      · rintro ⟨next, stepped, principal, role, notBefore, expires, others⟩
        obtain ⟨_, skipped, same⟩ := bind_eq_ok.mp stepped
        cases same
        exact ⟨principal, role, notBefore, expires, fun _ => skipped, others⟩
      · rintro ⟨principal, role, notBefore, expires, skipped, others⟩
        refine ⟨fields, ?_, principal, role, notBefore, expires, others⟩
        exact bind_eq_ok.mpr ⟨(), skipped named, rfl⟩
    -- A known key is read into its own field, and the other three go on as they were.
    all_goals
      simp only [valuesAt_cons_self, valuesAt_cons_of_ne, ne_eq, String.reduceEq, not_false_eq_true,
        List.foldlM_cons, bind_eq_ok, pure, Except.pure, Except.ok.injEq, List.mem_cons, true_or,
        or_true, not_true_eq_false, false_implies, true_and, exists_exists_and_eq_and]
      grind

theorem decode_eq_ok {tree : Tree} (whole : tree.Whole) {grant : Grant} :
    decode tree = .ok grant ↔ Form tree grant := by
  constructor
  · intro accepted
    cases tree with
    | object members =>
      obtain ⟨fields, folded, rfl⟩ := map_eq_ok.mp accepted
      obtain ⟨entries, rfl, steps⟩ := Members.fold_eq_ok.mp folded
      obtain ⟨principal, role, notBefore, expires, -⟩ := foldlM_step.mp steps
      exact .object
        { principal := (foldlM_once decodeText_eq_ok).mp ⟨_, principal, rfl⟩
          role := (foldlM_once decodeRole_eq_ok).mp ⟨_, role, rfl⟩
          notBefore := (foldlM_once decodeBound_eq_ok).mp ⟨_, notBefore, rfl⟩
          expires := (foldlM_once decodeBound_eq_ok).mp ⟨_, expires, rfl⟩ }
    | array items =>
      obtain ⟨values, rfl, form⟩ := ofItems_eq_ok.mp accepted
      exact .array form
    | _ => cases accepted
  · intro form
    cases form with
    | @object entries _ form =>
      obtain ⟨principal, principal_read, principal_eq⟩ :=
        (foldlM_once decodeText_eq_ok).mpr form.principal
      obtain ⟨role, role_read, role_eq⟩ := (foldlM_once decodeRole_eq_ok).mpr form.role
      obtain ⟨notBefore, begin_read, begin_eq⟩ :=
        (foldlM_once decodeBound_eq_ok).mpr form.notBefore
      obtain ⟨expires, end_read, end_eq⟩ := (foldlM_once decodeBound_eq_ok).mpr form.expires
      have skipped : ∀ entry ∈ entries, entry.1 ∉ ["principal", "role", "nbf", "exp"] →
          skip entry.2 = .ok () :=
        fun entry member _ => skip_eq_ok.mpr (whole.entry member).not_cutShort
      have steps : entries.foldlM (fun fields entry => Fields.step fields entry.1 entry.2) {} =
          .ok ⟨principal, role, notBefore, expires⟩ :=
        foldlM_step.mpr ⟨principal_read, role_read, begin_read, end_read, skipped⟩
      refine map_eq_ok.mpr ⟨_, Members.fold_eq_ok.mpr ⟨entries, rfl, steps⟩, ?_⟩
      exact grant_eq principal_eq role_eq begin_eq end_eq
    | array form => exact ofItems_eq_ok.mpr ⟨_, rfl, form⟩

end Grant

namespace Grants

theorem forall₂_decode {values : List Tree} (whole : ∀ value ∈ values, value.Whole)
    {grants : List Grant} :
    List.Forall₂ (fun value grant => Grant.decode value = .ok grant) values grants ↔
      List.Forall₂ Grant.Form values grants := by
  induction values generalizing grants with
  | nil => cases grants <;> simp
  | cons value values ih =>
    obtain ⟨first, others⟩ := List.forall_mem_cons.mp whole
    cases grants with
    | nil => simp
    | cons grant grants =>
      rw [List.forall₂_cons, List.forall₂_cons, Grant.decode_eq_ok first, ih others]

theorem decode_eq_ok {tree : Tree} (whole : tree.Whole) {grants : List Grant} :
    decode tree = .ok grants ↔ Form tree grants := by
  constructor
  · intro accepted
    cases tree with
    | null =>
      cases accepted
      exact .null
    | array items =>
      rw [decode_array] at accepted
      obtain ⟨values, rfl, decoded⟩ := Items.decode_eq_ok.mp accepted
      exact .list ((forall₂_decode fun _ => whole.value).mp decoded)
    | _ => cases accepted
  · intro form
    cases form with
    | null => rfl
    | @list values _ forms =>
      refine (decode_array _).trans (Items.decode_eq_ok.mpr ⟨values, rfl, ?_⟩)
      exact (forall₂_decode fun _ => whole.value).mpr forms

theorem not_cutShort_of_decode {tree : Tree} {grants : List Grant}
    (accepted : decode tree = .ok grants) : ¬ tree.CutShort := by
  cases tree with
  | null => exact id
  | array items =>
    rw [decode_array] at accepted
    obtain ⟨values, rfl, -⟩ := Items.decode_eq_ok.mp accepted
    exact Items.ofValues_not_cutShort values
  | _ => cases accepted

theorem decode_text {text : String} {grants : List Grant} :
    Json.decode decode text = .ok grants ↔
      ∃ tree : Tree, tree.SpelledBy text ∧ Form tree grants := by
  rw [Json.decode_eq_ok fun _ => not_cutShort_of_decode]
  refine exists_congr fun tree => and_congr_right fun spelled => ?_
  exact decode_eq_ok spelled.whole

theorem isBlank_digit {c : Char} (digit : c.isDigit = true) : Text.isBlank c = false := by
  have range : 48 ≤ c.toNat ∧ c.toNat ≤ 57 := by
    simpa [Char.isDigit, UInt32.le_iff_toNat_le] using digit
  simp [Text.isBlank, Text.blankRanges]
  omega

theorem exists_not_blank {spelled : List Char} {token : Token} (form : Spelled spelled token) :
    ∃ c ∈ spelled, Text.isBlank c = false := by
  cases form with
  | number form =>
    obtain ⟨grammatical, -⟩ := form
    obtain ⟨some, all⟩ := grammatical.whole
    obtain ⟨c, member⟩ := List.exists_mem_of_ne_nil _ some
    refine ⟨c, List.mem_append_right _ (List.mem_append_left _ member), ?_⟩
    exact isBlank_digit (all c member)
  | text => exact ⟨_, List.mem_cons_self, by decide⟩
  | _ => exact ⟨_, List.mem_cons_self, by decide⟩

theorem not_blank_of_spelledBy {tree : Tree} {text : String} (spelled : tree.SpelledBy text) :
    Text.blank text = false := by
  have some : tree.tokens ≠ [] := by cases tree <;> exact List.cons_ne_nil _ _
  unfold Tree.SpelledBy at spelled
  generalize tree.tokens = tokens at spelled some
  generalize all : text.toList = input at spelled
  cases spelled with
  | done => exact absurd rfl some
  | token space first others =>
    obtain ⟨c, member, solid⟩ := exists_not_blank first
    refine List.all_eq_false.mpr ⟨c, ?_, by simp [solid]⟩
    rw [all]
    exact List.mem_append_right _ (List.mem_append_left _ member)

theorem read_eq_ok {field text : String} {grants : List Grant} :
    read field (some text) = .ok grants ↔ Language text grants := by
  cases blank : Text.blank text with
  | true =>
    have read_blank : read field (some text) = .ok [] := if_pos blank
    rw [read_blank]
    constructor
    · rintro ⟨⟩
      exact .inl ⟨blank, rfl⟩
    · rintro (⟨-, rfl⟩ | ⟨tree, spelled, -⟩)
      · rfl
      · cases blank.symm.trans (not_blank_of_spelledBy spelled)
  | false =>
    have solid : ¬ Text.blank text = true := by simp [blank]
    rw [Language, or_iff_right fun found => solid found.1, ← decode_text]
    simp only [read, if_neg solid]
    cases Json.decode decode text <;> simp

theorem read_cases (field text : String) :
    (∃ grants, read field (some text) = .ok grants) ∨
      ∃ fault, read field (some text) = .error ⟨field, fault⟩ := by
  by_cases blank : Text.blank text = true
  · exact .inl ⟨[], if_pos blank⟩
  · simp only [read, if_neg blank]
    cases Json.decode decode text with
    | ok grants => exact .inl ⟨grants, rfl⟩
    | error fault => exact .inr ⟨fault, rfl⟩

/-- A text is read exactly if it is one of the language, and as the list that it is there. All
others are refused under the name of the field. Nothing but a blank text, null and an empty array is
read as no grants. -/
theorem read_language (field text : String) :
    (∀ grants, read field (some text) = .ok grants ↔ Language text grants) ∧
    ((∃ fault, read field (some text) = .error ⟨field, fault⟩) ↔ ¬ ∃ grants, Language text grants) ∧
    (read field (some text) = .ok [] ↔ Text.blank text = true ∨
      Spelling text.toList [.null] ∨ Spelling text.toList [.openArray, .closeArray]) := by
  refine ⟨fun grants => read_eq_ok, ?_, ?_⟩
  · have same : (∃ grants, Language text grants) ↔ ∃ grants, read field (some text) = .ok grants :=
      exists_congr fun grants => read_eq_ok.symm
    rw [same]
    constructor
    · rintro ⟨fault, refused⟩ ⟨grants, accepted⟩
      cases refused.symm.trans accepted
    · intro refused
      exact (read_cases field text).resolve_left refused
  · rw [read_eq_ok, Language, and_iff_left rfl]
    refine or_congr_right ⟨?_, ?_⟩
    · rintro ⟨tree, spelled, form⟩
      cases form with
      | null => exact .inl spelled
      | list each =>
        cases each
        exact .inr spelled
    · rintro (null | empty)
      · exact ⟨.null, null, .null⟩
      · exact ⟨.ofList [], empty, .list .nil⟩

end Grants
end ScopedGrants
