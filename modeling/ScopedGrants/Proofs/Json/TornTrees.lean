import ScopedGrants.Proofs.Json.Shape
import ScopedGrants.Proofs.Json.TornTokens

/-!
Trees of texts that end too early. What is read of such a text is a tree that has lost its end, and
a reader that gets there finds that the text ends too early.
-/

namespace ScopedGrants.Json

/-! ### Trees that have lost their end -/

mutual

inductive Tree.Torn : Tree → Tree → Prop
  | broken {tree : Tree} (skipped : Fault) : tree.Torn (.broken ⟨.truncated, skipped⟩)
  | number {number short : Numeral} (begins : short.Begins number) :
      (Tree.number number).Torn (.number short)
  | array {items short : Items} (torn : items.Torn short) : (Tree.array items).Torn (.array short)
  | object {members short : Members} (torn : members.Torn short) :
      (Tree.object members).Torn (.object short)

/-- What is left of an array: it is cut off after a whole item, or behind what is left of one. -/
inductive Items.Torn : Items → Items → Prop
  | here {items : Items} (skipped : Fault) : items.Torn (.cutOff ⟨.truncated, skipped⟩)
  | inside {value short : Tree} {rest : Items} (skipped : Fault) (torn : value.Torn short) :
      (Items.item value rest).Torn (.item short (.cutOff ⟨.truncated, skipped⟩))
  | later {value : Tree} {rest short : Items} (torn : rest.Torn short) :
      (Items.item value rest).Torn (.item value short)

inductive Members.Torn : Members → Members → Prop
  | here {members : Members} (skipped : Fault) : members.Torn (.cutOff ⟨.truncated, skipped⟩)
  | inside {key : Option String} {value short : Tree} {rest : Members} (skipped : Fault)
      (torn : value.Torn short) :
      (Members.member key value rest).Torn (.member key short (.cutOff ⟨.truncated, skipped⟩))
  | later {key : Option String} {value : Tree} {rest short : Members} (torn : rest.Torn short) :
      (Members.member key value rest).Torn (.member key value short)

end

/-! ### Reading the tokens that are left -/

theorem Tears.single {token : Token} {left : List Token} (tears : Tears [token] left) :
    token.Torn left := by
  cases tears with
  | here torn => exact torn
  | later tears => cases tears

theorem Tears.append {tokens more left : List Token} (tears : Tears (tokens ++ more) left) :
    Tears tokens left ∨ ∃ others, left = tokens ++ others ∧ Tears more others := by
  induction tokens generalizing left with
  | nil => exact .inr ⟨left, rfl, tears⟩
  | cons token tokens ih =>
    cases tears with
    | here torn => exact .inl (.here torn)
    | later tears =>
      rcases ih tears with inside | ⟨others, rfl, after⟩
      · exact .inl (.later inside)
      · exact .inr ⟨others, rfl, after⟩

/-- Within whatever is open around it, what is left of the value is read as such. -/
def Tree.ReadsTorn (tree : Tree) : Prop :=
  ∀ (left : List Token) (stack : List Frame), Tears tree.tokens left →
    ∃ short skipped, tree.Torn short ∧
      readTree .value stack left = (breakOff ⟨.truncated, skipped⟩ short stack, [])

def Items.ReadsTorn (items : Items) : Prop :=
  ∀ (left : List Token) (before : List Tree) (stack : List Frame), Tears (items.tokens false) left →
    ∃ short skipped, items.Torn short ∧ readTree (.afterItem before) stack left =
      (breakOff ⟨.truncated, skipped⟩ (arrayOf before short) stack, [])

def Members.ReadsTorn (members : Members) : Prop :=
  ∀ (left : List Token) (before : List (Option String × Tree)) (stack : List Frame),
    Tears (members.tokens false) left →
    ∃ short skipped, members.Torn short ∧ readTree (.afterMember before) stack left =
      (breakOff ⟨.truncated, skipped⟩ (objectOf before short) stack, [])

variable {tree value : Tree} {left : List Token}

theorem readTree_torn_token {token : Token} {after : List Token}
    (begins : tree.tokens = token :: after) (torn : token.Torn left) (stack : List Frame) :
    ∃ short skipped, tree.Torn short ∧
      readTree .value stack left = (breakOff ⟨.truncated, skipped⟩ short stack, []) := by
  cases torn with
  | number shorter =>
    cases tree with
    | number value =>
      cases begins
      refine ⟨_, .truncated, .number shorter, ?_⟩
      rcases stack with _ | ⟨frame | frame, stack⟩ <;> rfl
    | _ => cases begins
  | _ => exact ⟨_, _, .broken _, rfl⟩

theorem readTree_torn_item {rest : Items} (whole : value.Whole) (value_read : value.ReadsTorn)
    (rest_read : rest.ReadsTorn) (before : List Tree) (stack : List Frame)
    (tears : Tears (value.tokens ++ rest.tokens false) left) :
    ∃ short skipped, (Items.item value rest).Torn short ∧
      readTree .value (.array before :: stack) left =
        (breakOff ⟨.truncated, skipped⟩ (arrayOf before short) stack, []) := by
  rcases tears.append with inside | ⟨others, rfl, after⟩
  · obtain ⟨short, skipped, torn, read⟩ := value_read left (.array before :: stack) inside
    exact ⟨_, skipped, .inside skipped torn, read⟩
  · obtain ⟨short, skipped, torn, read⟩ := rest_read others (value :: before) stack after
    rw [value.readTree_tokens whole]
    exact ⟨_, skipped, .later torn, read⟩

theorem readTree_torn_member {key : Option String} {rest : Members} (whole : value.Whole)
    (value_read : value.ReadsTorn) (rest_read : rest.ReadsTorn)
    (before : List (Option String × Tree)) (stack : List Frame)
    (tears : Tears (.text key :: .colon :: (value.tokens ++ rest.tokens false)) left) :
    ∃ short skipped, (Members.member key value rest).Torn short ∧
      readTree (.key before) stack left =
        (breakOff ⟨.truncated, skipped⟩ (objectOf before short) stack, []) := by
  cases tears with
  | here torn => cases torn <;> exact ⟨_, _, .here _, rfl⟩
  | later tears =>
    cases tears with
    | here torn =>
      cases torn
      exact ⟨_, _, .inside _ (.broken _), rfl⟩
    | @later _ _ left tears =>
      rcases tears.append with inside | ⟨others, rfl, after⟩
      · obtain ⟨short, skipped, torn, read⟩ := value_read left (.object before key :: stack) inside
        exact ⟨_, skipped, .inside skipped torn, read⟩
      · obtain ⟨short, skipped, torn, read⟩ := rest_read others ((key, value) :: before) stack after
        refine ⟨_, skipped, .later torn, ?_⟩
        show readTree .value (.object before key :: stack) (value.tokens ++ others) = _
        rw [value.readTree_tokens whole]
        exact read

theorem readTree_torn_first_item {rest : Items} (whole : value.Whole)
    (value_read : value.ReadsTorn) (rest_read : rest.ReadsTorn) (stack : List Frame)
    (tears : Tears (value.tokens ++ rest.tokens false) left) :
    ∃ short skipped, (Items.item value rest).Torn short ∧ readTree .itemOrEnd stack left =
      (breakOff ⟨.truncated, skipped⟩ (.array short) stack, []) := by
  by_cases nothing : left = []
  · rw [nothing]
    exact ⟨_, _, .here _, rfl⟩
  · -- What is left of the item is not the closing bracket.
    have begun : readTree .itemOrEnd stack left = readTree .value (.array [] :: stack) left := by
      cases value <;> cases tears with
      | here torn => cases torn <;> first | exact absurd rfl nothing | rfl
      | later => rfl
    rw [begun]
    exact readTree_torn_item whole value_read rest_read [] stack tears

theorem readTree_torn_first_member {key : Option String} {rest : Members} (whole : value.Whole)
    (value_read : value.ReadsTorn) (rest_read : rest.ReadsTorn) (stack : List Frame)
    (tears : Tears (.text key :: .colon :: (value.tokens ++ rest.tokens false)) left) :
    ∃ short skipped, (Members.member key value rest).Torn short ∧ readTree .keyOrEnd stack left =
      (breakOff ⟨.truncated, skipped⟩ (.object short) stack, []) := by
  have begun : readTree .keyOrEnd stack left = readTree (.key []) stack left := by
    cases tears with
    | here torn => cases torn <;> rfl
    | later => rfl
  rw [begun]
  exact readTree_torn_member whole value_read rest_read [] stack tears

mutual

theorem Tree.readsTorn (tree : Tree) (whole : tree.Whole) : tree.ReadsTorn := by
  intro left stack tears
  cases tree with
  | array items =>
    cases tears with
    | here torn => exact readTree_torn_token rfl torn stack
    | later tears =>
      cases items with
      | closed =>
        cases tears.single
        exact ⟨_, _, .array (.here _), rfl⟩
      | cutOff cut => exact (whole _ (List.mem_cons_of_mem _ List.mem_cons_self)).elim
      | item value rest =>
        simp only [Tree.Whole, Tree.tokens, Items.tokens, if_true, List.nil_append,
          List.forall_mem_cons, List.forall_mem_append] at whole
        obtain ⟨-, whole_value, whole_rest⟩ := whole
        obtain ⟨short, skipped, torn, read⟩ := readTree_torn_first_item whole_value
          (value.readsTorn whole_value) (rest.readsTorn whole_rest) stack tears
        exact ⟨.array short, skipped, .array torn, read⟩
  | object members =>
    cases tears with
    | here torn => exact readTree_torn_token rfl torn stack
    | later tears =>
      cases members with
      | closed =>
        cases tears.single
        exact ⟨_, _, .object (.here _), rfl⟩
      | cutOff cut => exact (whole _ (List.mem_cons_of_mem _ List.mem_cons_self)).elim
      | member key value rest =>
        simp only [Tree.Whole, Tree.tokens, Members.tokens, if_true, List.nil_append,
          List.forall_mem_cons, List.forall_mem_append] at whole
        obtain ⟨-, -, -, whole_value, whole_rest⟩ := whole
        obtain ⟨short, skipped, torn, read⟩ := readTree_torn_first_member whole_value
          (value.readsTorn whole_value) (rest.readsTorn whole_rest) stack tears
        exact ⟨.object short, skipped, .object torn, read⟩
  | _ => exact readTree_torn_token rfl tears.single stack

theorem Items.readsTorn (items : Items) (whole : ∀ token ∈ items.tokens false, token.Whole) :
    items.ReadsTorn := by
  intro left before stack tears
  cases items with
  | closed =>
    cases tears.single
    exact ⟨_, _, .here _, rfl⟩
  | cutOff cut => exact (whole _ List.mem_cons_self).elim
  | item value rest =>
    simp only [Items.tokens, Bool.false_eq_true, if_false, List.singleton_append,
      List.forall_mem_cons, List.forall_mem_append] at whole
    obtain ⟨-, whole_value, whole_rest⟩ := whole
    cases tears with
    | here torn =>
      cases torn
      exact ⟨_, _, .here _, rfl⟩
    | later tears =>
      exact readTree_torn_item whole_value (value.readsTorn whole_value)
        (rest.readsTorn whole_rest) before stack tears

theorem Members.readsTorn (members : Members)
    (whole : ∀ token ∈ members.tokens false, token.Whole) : members.ReadsTorn := by
  intro left before stack tears
  cases members with
  | closed =>
    cases tears.single
    exact ⟨_, _, .here _, rfl⟩
  | cutOff cut => exact (whole _ List.mem_cons_self).elim
  | member key value rest =>
    simp only [Members.tokens, Bool.false_eq_true, if_false, List.singleton_append,
      List.forall_mem_cons, List.forall_mem_append] at whole
    obtain ⟨-, -, -, whole_value, whole_rest⟩ := whole
    cases tears with
    | here torn =>
      cases torn
      exact ⟨_, _, .here _, rfl⟩
    | later tears =>
      exact readTree_torn_member whole_value (value.readsTorn whole_value)
        (rest.readsTorn whole_rest) before stack tears

end

/-! ### Readers -/

/-- A reader that wants more wherever the text of the value may be cut does so where it is. -/
theorem decode_torn {α : Type} {read : Decoder α} (grammatical : tree.Grammatical)
    (refused : ∀ short, tree.Torn short → read short = .error .truncated) {front back : String}
    (lost : back ≠ "") (split : tree.write = front ++ back) :
    decode read front = .error .truncated := by
  have cut : tree.tokens.flatMap Token.spell = front.toList ++ back.toList := by
    rw [← String.toList_append, ← split, Tree.write, String.toList_ofList]
  have nonempty : back.toList ≠ [] := mt String.toList_eq_nil_iff.mp lost
  have whole : tree.Whole := (Tree.spelledBy_write grammatical).whole
  have tears := tears_spell grammatical tree.numbersApart nonempty cut
  obtain ⟨short, skipped, torn, parsed⟩ := tree.readsTorn whole _ [] tears
  have left : Tree.ofTokens (tokens front.toList) = (short, []) := parsed
  rw [decode, left]
  show (read short >>= _) = _
  rw [refused short torn]
  rfl

section

variable {α β σ : Type} {read : Decoder α}

/-- Nothing is found wrong but that the text ends too early. -/
def Early (result : Except Fault α) : Prop := ∀ fault, result = .error fault → fault = .truncated

theorem Early.map {result : Except Fault α} (early : Early result) (f : α → β) :
    Early (f <$> result) := by
  cases result with
  | ok value => exact nofun
  | error fault =>
    obtain rfl := early fault rfl
    rintro _ ⟨⟩
    rfl

theorem Early.bind {first : Except Fault α} {next : α → Except Fault β} (early : Early first)
    (ends : ∀ value, next value = .error .truncated) : first >>= next = .error .truncated := by
  cases first with
  | ok value => exact ends value
  | error fault =>
    obtain rfl := early fault rfl
    rfl

/-- The reader finds nothing wrong with what is left of the value. -/
def Patient (read : Decoder α) (value : Tree) : Prop :=
  ∀ short, value.Torn short → Early (read short)

theorem Patient.map (patient : Patient read value) (f : α → β) :
    Patient (fun tree => f <$> read tree) value :=
  fun short torn => (patient short torn).map f

theorem Patient.optional (patient : Patient read value) : Patient (decodeOptional read) value := by
  intro short torn
  cases short with
  | null => exact nofun
  | _ => exact patient.map some _ torn

theorem patient_text (content : Option String) : Patient decodeText (.text content) := by
  rintro _ ⟨⟩ _ ⟨⟩
  rfl

theorem Patient.field {seen : Option α} {put : Option α → σ} {next : σ}
    (patient : Patient read value)
    (accepted : (do return put (← once seen read value)) = Except.ok next) :
    Patient (fun tree => do return put (← once seen read tree)) value := by
  obtain ⟨found, taken, -⟩ := bind_eq_ok.mp accepted
  have new : ¬ seen.isSome = true := by
    intro twice
    rw [once, if_pos twice] at taken
    cases taken
  intro short torn
  have early : Early (once seen read short) := by
    rw [once, if_neg new]
    exact (patient short torn).map some
  show Early (once seen read short >>= fun found => pure (put found))
  rw [bind_pure_comp]
  exact early.map put

theorem Items.decode_torn {values : List Tree} {short : Items}
    (torn : (ofValues values).Torn short) (patient : ∀ value ∈ values, Patient read value)
    (accepted : ∀ value ∈ values, ∃ found, read value = .ok found) :
    short.decode read = .error .truncated := by
  induction values generalizing short with
  | nil =>
    cases torn
    rfl
  | cons value values ih =>
    rw [List.forall_mem_cons] at patient accepted
    cases torn with
    | here => rfl
    | inside skipped torn => exact (patient.1 _ torn).bind fun _ => rfl
    | later torn =>
      obtain ⟨found, whole⟩ := accepted.1
      rw [Items.decode, whole, ih torn patient.2 accepted.2]
      rfl

theorem Members.fold_torn {step : σ → String → Tree → Except Fault σ} {state result : σ}
    {entries : List (String × Tree)} {short : Members} (torn : (ofEntries entries).Torn short)
    (patient : ∀ entry ∈ entries, ∀ state next, step state entry.1 entry.2 = .ok next →
      Patient (step state entry.1) entry.2)
    (accepted : (ofEntries entries).fold step state = .ok result) :
    short.fold step state = .error .truncated := by
  induction entries generalizing short state with
  | nil =>
    cases torn
    rfl
  | cons entry entries ih =>
    rw [List.forall_mem_cons] at patient
    obtain ⟨next, stepped, accepted⟩ := bind_eq_ok.mp accepted
    cases torn with
    | here => rfl
    | inside skipped torn => exact (patient.1 state next stepped _ torn).bind fun _ => rfl
    | later torn =>
      rw [Members.fold, stepped]
      exact ih torn patient.2 accepted

end

end ScopedGrants.Json
