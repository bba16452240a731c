import ScopedGrants.Json.Decode
import ScopedGrants.Proofs.Json.Lexer
import ScopedGrants.Proofs.Json.Reader

/-!
What a text is read as is what the tree is read as that it spells, in whichever way it does. A text
that spells no tree is not read at all.
-/

namespace ScopedGrants.Json

/-! ### Numbers are kept apart -/

def NumbersApart (tokens : List Token) : Prop :=
  tokens.IsChain fun token next => token.IsNumber → ¬ next.IsNumber

theorem NumbersApart.cons {token : Token} {tokens : List Token} (other : ¬ token.IsNumber)
    (apart : NumbersApart tokens) : NumbersApart (token :: tokens) :=
  List.isChain_cons.mpr ⟨fun _ _ number => absurd number other, apart⟩

theorem NumbersApart.append {tokens more : List Token} (apart : NumbersApart tokens)
    (others : NumbersApart more) (first : ∀ token, more.head? = some token → ¬ token.IsNumber) :
    NumbersApart (tokens ++ more) :=
  List.isChain_append.mpr ⟨apart, others, fun _ _ token head _ => first token head⟩

theorem Items.head_tokens (items : Items) (token : Token)
    (head : (items.tokens false).head? = some token) : ¬ token.IsNumber := by
  cases items <;> cases head <;> exact id

theorem Members.head_tokens (members : Members) (token : Token)
    (head : (members.tokens false).head? = some token) : ¬ token.IsNumber := by
  cases members <;> cases head <;> exact id

mutual

theorem Tree.numbersApart (tree : Tree) : NumbersApart tree.tokens := by
  cases tree with
  | array items => exact .cons id (items.numbersApart true)
  | object members => exact .cons id (members.numbersApart true)
  | _ => exact List.isChain_singleton _

theorem Items.numbersApart (items : Items) (first : Bool) :
    NumbersApart (items.tokens first) := by
  cases items with
  | closed => exact List.isChain_singleton _
  | cutOff cut => exact List.isChain_singleton _
  | item value items =>
    have inside := value.numbersApart.append (items.numbersApart false) items.head_tokens
    cases first with
    | true => exact inside
    | false => exact .cons id inside

theorem Members.numbersApart (members : Members) (first : Bool) :
    NumbersApart (members.tokens first) := by
  cases members with
  | closed => exact List.isChain_singleton _
  | cutOff cut => exact List.isChain_singleton _
  | member key value members =>
    have inside := value.numbersApart.append (members.numbersApart false) members.head_tokens
    cases first with
    | true => exact .cons id (.cons id inside)
    | false => exact .cons id (.cons id (.cons id inside))

end

/-! ### Texts that spell a tree -/

theorem Spelled.whole {spelled : List Char} {token : Token} (form : Spelled spelled token) :
    token.Whole := by
  cases form <;> trivial

theorem Spelling.whole {input : List Char} {tokens : List Token} (form : Spelling input tokens) :
    ∀ token ∈ tokens, token.Whole := by
  induction form with
  | done => exact nofun
  | token _ first _ ih => exact List.forall_mem_cons.mpr ⟨first.whole, ih⟩

variable {α : Type} {tree : Tree}

theorem Tree.SpelledBy.ofTokens {text : String} (spelled : tree.SpelledBy text) :
    Tree.ofTokens (Json.tokens text.toList) = (tree, []) := by
  rw [tokens_spelling spelled tree.numbersApart]
  have read := Tree.ofTokens_tokens spelled.whole []
  rwa [List.append_nil] at read

theorem decode_spelledBy (read : Decoder α) {text : String} (spelled : tree.SpelledBy text) :
    decode read text = read tree := by
  rw [decode, spelled.ofTokens]
  exact bind_pure (read tree)

/-- Nothing else is read by a reader that notices where a text breaks off. -/
theorem decode_eq_ok {read : Decoder α} {text : String} {value : α}
    (whole : ∀ tree, read tree = .ok value → ¬ tree.CutShort) :
    decode read text = .ok value ↔ ∃ tree : Tree, tree.SpelledBy text ∧ read tree = .ok value := by
  constructor
  · intro decoded
    unfold decode at decoded
    rcases parsed : Tree.ofTokens (tokens text.toList) with ⟨tree, rest⟩
    rw [parsed] at decoded
    obtain ⟨found, accepted, ended⟩ := bind_eq_ok.mp decoded
    split at ended
    case isTrue nothing =>
      obtain rfl : found = value := Except.ok.inj ended
      obtain rfl : rest = [] := List.isEmpty_iff.mp nothing
      refine ⟨tree, ?_, accepted⟩
      -- Nothing is left and nothing broke off, so every token belongs to the tree.
      rcases Tree.ofTokens_accounts parsed with short | ⟨all, unbroken⟩
      · exact absurd short (whole tree accepted)
      · rw [List.append_nil] at all
        have spelled := spelling_tokens text.toList (all ▸ unbroken)
        rwa [all] at spelled
    case isFalse => cases ended
  · rintro ⟨tree, spelled, accepted⟩
    rw [decode_spelledBy read spelled, accepted]

/-! ### What is written -/

/-- The grammar has such a token, and its spelling tells all of it. -/
def Token.Grammatical : Token → Prop
  | number value => value.Grammatical
  | text content => content.isSome
  | brokenText _ | broken _ => False
  | _ => True

theorem numberForm_spell {number : Numeral} (grammatical : number.Grammatical) :
    NumberForm number.spell number := by
  obtain ⟨negative, whole, fraction, exponent⟩ := number
  cases exponent with
  | none =>
    have form := NumberForm.of grammatical .none
    cases fraction <;> simpa [Numeral.spell, spellFraction] using form
  | some exponent =>
    obtain ⟨minus, digits⟩ := exponent
    have signed : Sign (if minus then ['-'] else []) minus := by
      cases minus <;> constructor
    have form := NumberForm.of grammatical (.some (.inl rfl) signed)
    cases fraction <;> simpa [Numeral.spell, spellFraction] using form

theorem spelled_spell {token : Token} (grammatical : token.Grammatical) :
    Spelled token.spell token := by
  cases token with
  | number value => exact .number (numberForm_spell grammatical)
  | text content =>
    obtain ⟨text, rfl⟩ := Option.isSome_iff_exists.mp grammatical
    exact spelled_quote text
  | bool value => cases value <;> constructor
  | brokenText cut => exact grammatical.elim
  | broken cut => exact grammatical.elim
  | _ => constructor

theorem spelling_spell {tokens : List Token} (grammatical : ∀ token ∈ tokens, token.Grammatical) :
    Spelling (tokens.flatMap Token.spell) tokens := by
  have blank : Space [] := nofun
  induction tokens with
  | nil => exact .done blank
  | cons token tokens ih =>
    obtain ⟨first, others⟩ := List.forall_mem_cons.mp grammatical
    exact .token blank (spelled_spell first) (ih others)

def Tree.Grammatical (tree : Tree) : Prop := ∀ token ∈ tree.tokens, token.Grammatical

theorem Tree.spelledBy_write (grammatical : tree.Grammatical) :
    tree.SpelledBy tree.write := by
  rw [SpelledBy, write, String.toList_ofList]
  exact spelling_spell grammatical

/-- What is made of a tree is made of its text. -/
theorem decode_write (read : Decoder α) {tree : Tree}
    (grammatical : tree.Grammatical) :
    decode read tree.write = read tree :=
  decode_spelledBy read (Tree.spelledBy_write grammatical)

theorem Tree.ofList_grammatical {values : List Tree}
    (grammatical : ∀ value ∈ values, value.Grammatical) :
    (Tree.ofList values).Grammatical := by
  have inside : ∀ first, ∀ token ∈ (values.foldr Items.item .closed).tokens first,
      token.Grammatical := by
    induction values with
    | nil => simp [Items.tokens, Token.Grammatical]
    | cons value values ih =>
      obtain ⟨head, tail⟩ := List.forall_mem_cons.mp grammatical
      intro first
      rw [List.foldr_cons, Items.tokens, List.forall_mem_append, List.forall_mem_append]
      refine ⟨?_, head, ih tail false⟩
      cases first <;> simp [Token.Grammatical]
  exact List.forall_mem_cons.mpr ⟨trivial, inside true⟩

theorem Tree.ofMembers_grammatical {members : List (String × Tree)}
    (grammatical : ∀ entry ∈ members, entry.2.Grammatical) :
    (Tree.ofMembers members).Grammatical := by
  have inside : ∀ first, ∀ token ∈ (members.foldr (fun entry rest =>
      Members.member (some entry.1) entry.2 rest) .closed).tokens first, token.Grammatical := by
    induction members with
    | nil => simp [Members.tokens, Token.Grammatical]
    | cons entry members ih =>
      obtain ⟨head, tail⟩ := List.forall_mem_cons.mp grammatical
      intro first
      rw [List.foldr_cons, Members.tokens, List.forall_mem_append, List.forall_mem_cons,
        List.forall_mem_cons, List.forall_mem_append]
      refine ⟨?_, rfl, trivial, head, ih tail false⟩
      cases first <;> simp [Token.Grammatical]
  exact List.forall_mem_cons.mpr ⟨trivial, inside true⟩

theorem Tree.ofText_grammatical (text : String) : (Tree.ofText text).Grammatical :=
  List.forall_mem_singleton.mpr rfl

theorem Tree.ofInt_grammatical (n : Int) : (Tree.ofInt n).Grammatical :=
  List.forall_mem_singleton.mpr (Numeral.ofInt_grammatical n)

end ScopedGrants.Json
