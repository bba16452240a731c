import ScopedGrants.Json.Reader
import ScopedGrants.Proofs.Json.Grammar

/-!
Reading the tokens of a tree gives the tree back, within whatever is open around it. A tree that is
read is cut short, or its tokens are those that have been read.
-/

namespace ScopedGrants.Json

/-! ### The tokens of a tree -/

def Progress.resume (rest : List Token) : Progress → Tree × List Token
  | reading expected stack => readTree expected stack rest
  | done tree => (tree, rest)

/-- The first item begins like any value, as its token is not the closing bracket. -/
theorem readTree_itemOrEnd (value : Tree) (stack : List Frame) (rest : List Token) :
    readTree .itemOrEnd stack (value.tokens ++ rest) =
      readTree .value (.array [] :: stack) (value.tokens ++ rest) := by
  cases value <;> rfl

mutual

theorem Tree.readTree_tokens (tree : Tree) (whole : ∀ token ∈ tree.tokens, token.Whole)
    (stack : List Frame) (rest : List Token) :
    readTree .value stack (tree.tokens ++ rest) = (deliver tree stack).resume rest := by
  cases tree with
  | null => rfl
  | bool value => rfl
  | number value => rfl
  | text content => rfl
  | broken cut => exact (whole _ List.mem_cons_self).elim
  | array items =>
    cases items with
    | closed => rfl
    | cutOff cut => exact (whole _ (List.mem_cons_of_mem _ List.mem_cons_self)).elim
    | item value items =>
      simp only [Tree.tokens, Items.tokens, if_true, List.nil_append, List.forall_mem_cons,
        List.forall_mem_append] at whole
      obtain ⟨-, whole_value, whole_items⟩ := whole
      show readTree .itemOrEnd stack (value.tokens ++ items.tokens false ++ rest) = _
      rw [List.append_assoc, readTree_itemOrEnd, value.readTree_tokens whole_value]
      exact items.readTree_tokens whole_items [value] stack rest
  | object members =>
    cases members with
    | closed => rfl
    | cutOff cut => exact (whole _ (List.mem_cons_of_mem _ List.mem_cons_self)).elim
    | member key value members =>
      simp only [Tree.tokens, Members.tokens, if_true, List.nil_append, List.forall_mem_cons,
        List.forall_mem_append] at whole
      obtain ⟨-, -, -, whole_value, whole_members⟩ := whole
      show readTree .value (.object [] key :: stack)
        (value.tokens ++ members.tokens false ++ rest) = _
      rw [List.append_assoc, value.readTree_tokens whole_value]
      exact members.readTree_tokens whole_members [(key, value)] stack rest

theorem Items.readTree_tokens (items : Items)
    (whole : ∀ token ∈ items.tokens false, token.Whole) (before : List Tree)
    (stack : List Frame) (rest : List Token) :
    readTree (.afterItem before) stack (items.tokens false ++ rest) =
      (deliver (arrayOf before items) stack).resume rest := by
  cases items with
  | closed => rfl
  | cutOff cut => exact (whole _ List.mem_cons_self).elim
  | item value items =>
    simp only [Items.tokens, Bool.false_eq_true, if_false, List.singleton_append,
      List.forall_mem_cons, List.forall_mem_append] at whole
    obtain ⟨-, whole_value, whole_items⟩ := whole
    show readTree .value (.array before :: stack) (value.tokens ++ items.tokens false ++ rest) = _
    rw [List.append_assoc, value.readTree_tokens whole_value]
    exact items.readTree_tokens whole_items (value :: before) stack rest

theorem Members.readTree_tokens (members : Members)
    (whole : ∀ token ∈ members.tokens false, token.Whole)
    (before : List (Option String × Tree)) (stack : List Frame) (rest : List Token) :
    readTree (.afterMember before) stack (members.tokens false ++ rest) =
      (deliver (objectOf before members) stack).resume rest := by
  cases members with
  | closed => rfl
  | cutOff cut => exact (whole _ List.mem_cons_self).elim
  | member key value members =>
    simp only [Members.tokens, Bool.false_eq_true, if_false, List.singleton_append,
      List.forall_mem_cons, List.forall_mem_append] at whole
    obtain ⟨-, -, -, whole_value, whole_members⟩ := whole
    show readTree .value (.object before key :: stack)
      (value.tokens ++ members.tokens false ++ rest) = _
    rw [List.append_assoc, value.readTree_tokens whole_value]
    exact members.readTree_tokens whole_members ((key, value) :: before) stack rest

end

theorem Tree.ofTokens_tokens {tree : Tree} (whole : ∀ token ∈ tree.tokens, token.Whole)
    (rest : List Token) : Tree.ofTokens (tree.tokens ++ rest) = (tree, rest) :=
  tree.readTree_tokens whole [] rest

/-! ### Trees that are cut short -/

def Items.CutShort : Items → Prop
  | closed => False
  | cutOff _ => True
  | item _ rest => rest.CutShort

def Members.CutShort : Members → Prop
  | closed => False
  | cutOff _ => True
  | member _ _ rest => rest.CutShort

/-- The text broke off in the value. -/
def Tree.CutShort : Tree → Prop
  | broken _ => True
  | array items => items.CutShort
  | object members => members.CutShort
  | _ => False

theorem cutShort_arrayOf (before : List Tree) (items : Items) :
    (arrayOf before items).CutShort ↔ items.CutShort := by
  induction before generalizing items with
  | nil => rfl
  | cons value before ih => exact ih (.item value items)

theorem cutShort_objectOf (before : List (Option String × Tree)) (members : Members) :
    (objectOf before members).CutShort ↔ members.CutShort := by
  induction before generalizing members with
  | nil => rfl
  | cons entry before ih => exact ih (.member entry.1 entry.2 members)

theorem breakOff_cutShort (cut : Break) {tree : Tree} (short : tree.CutShort)
    (stack : List Frame) : (breakOff cut tree stack).CutShort := by
  induction stack generalizing tree with
  | nil => exact short
  | cons frame stack ih =>
    cases frame with
    | array before => exact ih ((cutShort_arrayOf _ _).mpr trivial)
    | object before key => exact ih ((cutShort_objectOf _ _).mpr trivial)

theorem abandon_cutShort (cut : Break) (stack : List Frame) (expected : Expected) :
    (abandon cut stack expected).CutShort := by
  cases expected with
  | value | itemOrEnd | keyOrEnd =>
    refine breakOff_cutShort cut ?_ stack
    trivial
  | afterItem before =>
    refine breakOff_cutShort cut ((cutShort_arrayOf _ _).mpr ?_) stack
    trivial
  | key | colon | afterMember =>
    refine breakOff_cutShort cut ((cutShort_objectOf _ _).mpr ?_) stack
    trivial

/-! ### The tokens that have been read -/

def separator {α : Type} (before : List α) : List Token :=
  if before.isEmpty then [] else [.comma]

def itemsRead : List Tree → List Token
  | [] => []
  | value :: before => itemsRead before ++ (separator before ++ value.tokens)

def membersRead : List (Option String × Tree) → List Token
  | [] => []
  | entry :: before =>
    membersRead before ++ (separator before ++ .text entry.1 :: .colon :: entry.2.tokens)

theorem tokens_arrayOf (before : List Tree) (items : Items) :
    (arrayOf before items).tokens =
      .openArray :: (itemsRead before ++ items.tokens before.isEmpty) := by
  -- The latest item goes before what follows, until all of them do.
  induction before generalizing items with
  | nil => rfl
  | cons value before ih =>
    refine (ih (.item value items)).trans ?_
    simp only [Items.tokens, itemsRead, separator, List.append_assoc, List.isEmpty_cons]

theorem tokens_objectOf (before : List (Option String × Tree)) (members : Members) :
    (objectOf before members).tokens =
      .openObject :: (membersRead before ++ members.tokens before.isEmpty) := by
  induction before generalizing members with
  | nil => rfl
  | cons entry before ih =>
    refine (ih (.member entry.1 entry.2 members)).trans ?_
    simp only [Members.tokens, membersRead, separator, List.append_assoc, List.isEmpty_cons,
      List.cons_append]

/-- The tokens of what is open around a value. -/
def framesRead : List Frame → List Token
  | [] => []
  | .array before :: stack =>
    framesRead stack ++ .openArray :: (itemsRead before ++ separator before)
  | .object before key :: stack =>
    framesRead stack ++
      .openObject :: (membersRead before ++ (separator before ++ [.text key, .colon]))

def Expected.tokens : Expected → List Token
  | value => []
  | itemOrEnd => [.openArray]
  | keyOrEnd => [.openObject]
  | key before => .openObject :: (membersRead before ++ separator before)
  | colon before name => .openObject :: (membersRead before ++ (separator before ++ [.text name]))
  | afterItem before => .openArray :: itemsRead before
  | afterMember before => .openObject :: membersRead before

def Expected.Begun : Expected → Prop
  | afterItem before => before ≠ []
  | afterMember before => before ≠ []
  | _ => True

/-- What has been made of some tokens is all of them, or is cut short. -/
def Progress.Accounts (read : List Token) : Progress → Prop
  | reading expected stack => expected.Begun ∧ framesRead stack ++ expected.tokens = read
  | done tree => tree.CutShort ∨ tree.tokens = read

theorem separator_of_ne_nil {α : Type} {before : List α} (begun : before ≠ []) :
    separator before = [.comma] := by
  cases before with
  | nil => exact absurd rfl begun
  | cons => rfl

theorem deliver_accounts (tree : Tree) (stack : List Frame) :
    (deliver tree stack).Accounts (framesRead stack ++ tree.tokens) := by
  cases stack with
  | nil => exact .inr rfl
  | cons frame stack =>
    cases frame with
    | array before =>
      refine ⟨List.cons_ne_nil _ _, ?_⟩
      simp [Expected.tokens, itemsRead, framesRead]
    | object before key =>
      refine ⟨List.cons_ne_nil _ _, ?_⟩
      simp [Expected.tokens, membersRead, framesRead]

theorem beginValue_accounts (stack : List Frame) (token : Token) :
    (beginValue stack token).Accounts (framesRead stack ++ [token]) := by
  cases token with
  | null | bool | number | text => exact deliver_accounts _ stack
  | openArray | openObject => exact ⟨trivial, rfl⟩
  | _ => exact .inl (abandon_cutShort _ stack .value)

theorem beginMember_accounts (before : List (Option String × Tree)) (stack : List Frame)
    (token : Token) :
    (beginMember before stack token).Accounts
      (framesRead stack ++ (Expected.key before).tokens ++ [token]) := by
  cases token with
  | text content =>
    refine ⟨trivial, ?_⟩
    simp [Expected.tokens]
  | _ => exact .inl (abandon_cutShort _ stack (.key before))

theorem read_accounts {expected : Expected} (begun : expected.Begun) (stack : List Frame)
    (token : Token) :
    (expected.read stack token).Accounts (framesRead stack ++ expected.tokens ++ [token]) := by
  cases expected with
  | value =>
    rw [Expected.tokens, List.append_nil]
    exact beginValue_accounts stack token
  | itemOrEnd =>
    cases token with
    | closeArray =>
      rw [List.append_assoc]
      exact deliver_accounts (.array .closed) stack
    | _ => exact beginValue_accounts (.array [] :: stack) _
  | keyOrEnd =>
    cases token with
    | closeObject =>
      rw [List.append_assoc]
      exact deliver_accounts (.object .closed) stack
    | _ => exact beginMember_accounts [] stack _
  | key before => exact beginMember_accounts before stack token
  | colon before name =>
    cases token with
    | colon =>
      refine ⟨trivial, ?_⟩
      simp [Expected.tokens, framesRead]
    | _ => exact .inl (abandon_cutShort _ stack (.colon before name))
  | afterItem before =>
    cases token with
    | comma =>
      refine ⟨trivial, ?_⟩
      simp [Expected.tokens, framesRead, separator_of_ne_nil begun]
    | closeArray =>
      have delivered := deliver_accounts (arrayOf before .closed) stack
      rw [tokens_arrayOf] at delivered
      rw [List.append_assoc]
      exact delivered
    | _ => exact .inl (abandon_cutShort _ stack (.afterItem before))
  | afterMember before =>
    cases token with
    | comma =>
      refine ⟨trivial, ?_⟩
      simp [Expected.tokens, separator_of_ne_nil begun]
    | closeObject =>
      have delivered := deliver_accounts (objectOf before .closed) stack
      rw [tokens_objectOf] at delivered
      rw [List.append_assoc]
      exact delivered
    | _ => exact .inl (abandon_cutShort _ stack (.afterMember before))

theorem read_broken {token : Token} (broken : ¬ token.Whole) (expected : Expected)
    (stack : List Frame) :
    ∃ tree, expected.read stack token = .done tree ∧ tree.CutShort := by
  cases token with
  | brokenText cut | broken cut =>
    cases expected <;> exact ⟨_, rfl, abandon_cutShort _ _ _⟩
  | _ => exact absurd trivial broken

theorem readTree_accounts {expected : Expected} {stack : List Frame} {tokens rest : List Token}
    {tree : Tree} (begun : expected.Begun) (read : readTree expected stack tokens = (tree, rest)) :
    tree.CutShort ∨ ∃ taken, tokens = taken ++ rest ∧ (∀ token ∈ taken, token.Whole) ∧
      tree.tokens = framesRead stack ++ expected.tokens ++ taken := by
  -- What a step accounts for is what the next one starts from.
  induction tokens generalizing expected stack with
  | nil =>
    cases read
    exact .inl (abandon_cutShort _ stack expected)
  | cons token tokens ih =>
    have accounts := read_accounts begun stack token
    rw [readTree] at read
    -- A token that breaks off is in no tree, but the tree it ends is cut short.
    by_cases whole : token.Whole
    · cases step : expected.read stack token with
      | reading next frames =>
        rw [step] at read accounts
        obtain ⟨begun, sofar⟩ := accounts
        rcases ih begun read with short | ⟨taken, rfl, others, all⟩
        · exact .inl short
        · refine .inr ⟨token :: taken, rfl, List.forall_mem_cons.mpr ⟨whole, others⟩, ?_⟩
          rw [all, sofar, List.append_assoc]
          rfl
      | done result =>
        rw [step] at read accounts
        obtain ⟨rfl, rfl⟩ := Prod.mk.inj read
        refine accounts.imp id fun all => ⟨[token], rfl, List.forall_mem_singleton.mpr whole, all⟩
    · obtain ⟨result, step, short⟩ := read_broken whole expected stack
      rw [step] at read
      cases read
      exact .inl short

/-- A tree that has been read and is not cut short consists of the tokens that it took. -/
theorem Tree.ofTokens_accounts {tokens rest : List Token} {tree : Tree}
    (read : Tree.ofTokens tokens = (tree, rest)) :
    tree.CutShort ∨ tokens = tree.tokens ++ rest ∧ ∀ token ∈ tree.tokens, token.Whole := by
  have begun : Expected.value.Begun := trivial
  rcases readTree_accounts begun read with short | ⟨taken, split, whole, all⟩
  · exact .inl short
  · obtain rfl : tree.tokens = taken := all
    exact .inr ⟨split, whole⟩

end ScopedGrants.Json
