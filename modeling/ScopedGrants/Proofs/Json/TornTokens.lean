import ScopedGrants.Proofs.Json.Decode

/-!
Texts that end too early. Where a text is cut in the middle of a token, its last token either is
missing, or breaks off, or is a number that has lost some of its digits.
-/

namespace ScopedGrants.Json

/-! ### What is left of a token -/

structure Numeral.Begins (short number : Numeral) : Prop where
  grammatical : short.Grammatical
  sign : short.negative = number.negative
  whole : short.whole <+: number.whole
  fraction : number.fraction = none → short.fraction = none
  exponent : number.exponent = none → short.exponent = none

/-- What cutting its spelling short leaves of a token. Of a bracket nothing is left. -/
inductive Token.Torn : Token → List Token → Prop
  | nothing {token : Token} : Torn token []
  | null : Torn .null [.broken Fault.truncated.always]
  | bool {value : Bool} : Torn (.bool value) [.broken Fault.truncated.always]
  | text {content : Option String} : Torn (.text content) [.brokenText Fault.truncated.always]
  /-- The number breaks off where it wants a digit. -/
  | unfinished {number : Numeral} : Torn (.number number) [.broken ⟨.truncated, .malformed⟩]
  | number {number short : Numeral} (begins : short.Begins number) :
      Torn (.number number) [.number short]

inductive Tears : List Token → List Token → Prop
  | here {token : Token} {after left : List Token} (torn : token.Torn left) :
      Tears (token :: after) left
  | later {token : Token} {tokens left : List Token} (tears : Tears tokens left) :
      Tears (token :: tokens) (token :: left)

/-! ### Parts of a list -/

/-- Where two ways to part a list meet, the first part is whole, or is torn and something of it is
left. -/
theorem append_eq_append_cases {α : Type} {whole rest front back : List α}
    (split : whole ++ rest = front ++ back) :
    (∃ more, front = whole ++ more ∧ rest = more ++ back) ∨
      ∃ left, left ≠ [] ∧ whole = front ++ left := by
  rcases List.append_eq_append_iff.mp split with first | ⟨left, torn, behind⟩
  · exact .inl first
  · cases left with
    | nil =>
      rw [List.append_nil] at torn
      exact .inl ⟨[], by rw [torn, List.append_nil], behind.symm⟩
    | cons c left => exact .inr ⟨_, List.cons_ne_nil c left, torn⟩

theorem eq_nil_of_torn {α : Type} {whole front left : List α} (torn : whole = front ++ left)
    (some : left ≠ []) (few : whole.length ≤ 1) : front = [] := by
  have positive := List.length_pos_iff.mpr some
  rw [torn, List.length_append] at few
  exact List.length_eq_zero_iff.mp (by omega)

theorem length_sign (negative : Bool) : (if negative then ['-'] else []).length ≤ 1 := by
  cases negative <;> decide

/-! ### Quoted texts -/

theorem utf8Size_of_hex {c : Char} (hex : Text.isDigitIn 16 c = true) : c.utf8Size = 1 := by
  have range : c ≤ '9' ∨ c ≤ 'f' ∨ c ≤ 'F' := by
    unfold Text.isDigitIn Text.digitValue? at hex
    grind
  rw [Char.utf8Size_eq_one_iff]
  rcases range with digit | small | capital
  · exact Char.le_trans digit (by decide : '9' ≤ '\x7f')
  · exact Char.le_trans small (by decide : 'f' ≤ '\x7f')
  · exact Char.le_trans capital (by decide : 'F' ≤ '\x7f')

theorem pieces_torn {part front left : List Char} {piece : Piece} (form : PieceForm part piece)
    (some : left ≠ []) (torn : part = front ++ left) : pieces front = ([], .cut .truncated) := by
  have shorter : front.length < part.length := by
    rw [torn, List.length_append]
    exact Nat.lt_add_of_pos_right (List.length_pos_iff.mpr some)
  cases form with
  | plain =>
    obtain rfl := List.length_eq_zero_iff.mp (Nat.lt_one_iff.mp shorter)
    rfl
  | escape =>
    obtain _ | ⟨c, _ | ⟨d, front⟩⟩ := front
    · rfl
    · obtain ⟨rfl, -⟩ := List.cons.inj torn
      rfl
    · simp only [List.length_cons, List.length_nil] at shorter
      omega
  | @unit digits unit hex =>
    obtain _ | ⟨c, _ | ⟨d, short⟩⟩ := front
    · rfl
    · obtain ⟨rfl, -⟩ := List.cons.inj torn
      rfl
    · obtain ⟨rfl, after⟩ := List.cons.inj torn
      obtain ⟨rfl, digits_torn⟩ := List.cons.inj after
      have few : short.length < 4 := by
        simp only [List.length_cons, hex.length] at shorter
        omega
      have ascii : ∀ digit ∈ short, digit.utf8Size = 1 := fun digit member =>
        utf8Size_of_hex (hex.hex digit (digits_torn ▸ List.mem_append_left left member))
      obtain _ | ⟨a, _ | ⟨b, _ | ⟨c, _ | ⟨d, short⟩⟩⟩⟩ := short
      · rfl
      · simp_all [pieces]
      · simp_all [pieces]
      · simp_all [pieces]
      · simp only [List.length_cons] at few
        omega

/-- What is read of a text that breaks off are its first characters. -/
theorem pieces_escape_torn {text front back : List Char}
    (split : text.flatMap Token.escape = front ++ back) :
    ∃ chars : List Char, pieces front = (chars.map .char, .cut .truncated) := by
  induction text generalizing front with
  | nil =>
    obtain ⟨rfl, -⟩ := List.append_eq_nil_iff.mp split.symm
    exact ⟨[], rfl⟩
  | cons c text ih =>
    rw [List.flatMap_cons] at split
    rcases append_eq_append_cases split with ⟨more, rfl, others⟩ | ⟨left, some, torn⟩
    · obtain ⟨chars, read⟩ := ih others
      exact ⟨c :: chars, by rw [pieces_append (pieceForm_escape c), read, List.map_cons]⟩
    · exact ⟨[], pieces_torn (pieceForm_escape c) some torn⟩

theorem join_chars (chars : List Char) : Piece.join (chars.map .char) = some chars := by
  induction chars with
  | nil => rfl
  | cons c chars ih => rw [List.map_cons, Piece.join, ih, Option.map_some]

theorem withoutOpenPair_chars (chars : List Char) :
    withoutOpenPair (chars.map .char) = chars.map .char := by
  unfold withoutOpenPair
  rw [List.getLast?_map]
  cases chars.getLast? <;> rfl

theorem quoted_torn {text front back : List Char}
    (split : text.flatMap Token.escape = front ++ back) :
    quoted front = (.brokenText Fault.truncated.always, []) := by
  obtain ⟨chars, read⟩ := pieces_escape_torn split
  rw [quoted, read]
  simp only [withoutOpenPair_chars, join_chars, Option.isSome_some, if_true]
  rfl

/-! ### Words and numbers -/

theorem tokens_nil : tokens [] = [] := by rw [tokens]

theorem word_torn (token : Token) {letters front left : List Char} (some : left ≠ [])
    (torn : letters = front ++ left) :
    word token letters front = (.broken Fault.truncated.always, []) := by
  induction front generalizing letters with
  | nil =>
    cases letters with
    | nil => exact absurd torn.symm some
    | cons c letters => rfl
  | cons c front ih =>
    rw [torn, List.cons_append, word, if_pos rfl]
    exact ih rfl

def spellExponent : Option Exponent → List Char
  | none => []
  | some exponent => 'e' :: ((if exponent.negative then ['-'] else []) ++ exponent.digits)

theorem Numeral.spell_eq (number : Numeral) :
    number.spell = (if number.negative then ['-'] else []) ++
      (number.whole ++ (spellFraction number.fraction ++ spellExponent number.exponent)) := by
  obtain ⟨negative, whole, fraction, exponent⟩ := number
  cases fraction <;> cases exponent <;> simp [Numeral.spell, spellFraction, spellExponent]

theorem tokens_digits {negative : Bool} {whole rest : List Char} (digits : AreDigits whole) :
    tokens ((if negative then ['-'] else []) ++ (whole ++ rest)) =
      (unsigned negative (whole ++ rest)).1 :: tokens (unsigned negative (whole ++ rest)).2 := by
  cases negative with
  | true =>
    show tokens ('-' :: _) = _
    rw [tokens]
    rfl
  | false =>
    obtain ⟨some, all⟩ := digits
    cases whole with
    | nil => exact absurd rfl some
    | cons c whole =>
      have digit := all c List.mem_cons_self
      rw [if_neg Bool.false_ne_true, List.nil_append, List.cons_append, tokens,
        if_neg (ne_true_of_eq_false (isSpace_digit digit)), tokenAt_digit digit]

theorem AreDigits.beginning {digits front left : List Char} (all : AreDigits digits)
    (some : front ≠ []) (torn : digits = front ++ left) : AreDigits front :=
  ⟨some, fun c member => all.2 c (torn ▸ List.mem_append_left left member)⟩

theorem tokens_no_exponent {number : Numeral} {negative : Bool} {sign : List Char}
    (grammatical : number.Grammatical) (signed : exponentSign sign = (negative, [])) :
    tokens ((if number.negative then ['-'] else []) ++ (number.whole ++
      (spellFraction number.fraction ++ 'e' :: sign))) = [.broken ⟨.truncated, .malformed⟩] := by
  have stop : NoDigit ('e' :: sign) := noDigit_cons rfl
  have point : ∀ c, ('e' :: sign).head? = some c → c ≠ '.' := by
    rintro _ ⟨⟩
    decide
  have cut : unsigned number.negative (number.whole ++
      (spellFraction number.fraction ++ 'e' :: sign)) =
        (.broken ⟨.truncated, .malformed⟩, []) := by
    rw [unsigned, wholeDigits_append grammatical.whole grammatical.no_zero
      (noDigit_spellFraction stop)]
    simp only [bind, Except.bind, fractionDigits_append grammatical.fraction stop point,
      exponentPart, true_or, if_true, signed]
    rfl
  rw [tokens_digits grammatical.whole, cut, tokens_nil]

theorem tokens_no_whole : tokens ['-'] = [.broken ⟨.truncated, .malformed⟩] := by
  rw [tokens]
  show _ :: tokens [] = _
  rw [tokens_nil]
  rfl

theorem tokens_no_fraction {negative : Bool} {whole : List Char} (digits : AreDigits whole)
    (no_zero : ∀ more, whole = '0' :: more → more = []) :
    tokens ((if negative then ['-'] else []) ++ (whole ++ ['.'])) =
      [.broken ⟨.truncated, .malformed⟩] := by
  have cut : unsigned negative (whole ++ ['.']) = (.broken ⟨.truncated, .malformed⟩, []) := by
    rw [unsigned, wholeDigits_append digits no_zero (noDigit_cons rfl)]
    rfl
  rw [tokens_digits digits, cut, tokens_nil]

theorem tokens_spell {token : Token} (grammatical : token.Grammatical) :
    tokens token.spell = [token] := by
  have cut : tokens (token.spell ++ []) = token :: tokens [] :=
    tokens_spelled (spelled_spell grammatical) fun _ _ => ⟨nofun, nofun⟩
  rwa [List.append_nil, tokens_nil] at cut

theorem torn_of_begins {number short : Numeral} {front : List Char} (begins : short.Begins number)
    (spelled : short.spell = front) : Token.Torn (.number number) (tokens front) := by
  have whole : (Token.number short).Grammatical := begins.grammatical
  have alone : tokens short.spell = [.number short] := tokens_spell whole
  rw [← spelled, alone]
  exact .number begins

theorem torn_of_broken {number : Numeral} {front : List Char}
    (broken : tokens front = [.broken ⟨.truncated, .malformed⟩]) :
    Token.Torn (.number number) (tokens front) := broken ▸ .unfinished

theorem whole_torn {number : Numeral} (grammatical : number.Grammatical)
    {front left : List Char} (torn : number.whole = front ++ left) :
    Token.Torn (.number number) (tokens ((if number.negative then ['-'] else []) ++ front)) := by
  cases front with
  | nil =>
    rw [List.append_nil]
    cases number.negative with
    | true => exact torn_of_broken tokens_no_whole
    | false =>
      rw [if_neg Bool.false_ne_true, tokens_nil]
      exact .nothing
  | cons digit more =>
    have some := List.cons_ne_nil digit more
    have fits : Numeral.Grammatical ⟨number.negative, digit :: more, none, none⟩ := by
      refine ⟨grammatical.whole.beginning some torn, ?_, nofun, nofun⟩
      rintro _ ⟨⟩
      have nothing := grammatical.no_zero (more ++ left) torn
      exact (List.append_eq_nil_iff.mp nothing).1
    refine torn_of_begins ⟨fits, rfl, ⟨left, torn.symm⟩, fun _ => rfl, fun _ => rfl⟩ ?_
    simp [Numeral.spell_eq, spellFraction, spellExponent]

theorem fraction_torn {number : Numeral} (grammatical : number.Grammatical)
    {front left : List Char} (torn : spellFraction number.fraction = front ++ left) :
    Token.Torn (.number number)
      (tokens ((if number.negative then ['-'] else []) ++ (number.whole ++ front))) := by
  cases front with
  | nil =>
    have fits : Numeral.Grammatical { number with fraction := none, exponent := none } :=
      ⟨grammatical.whole, grammatical.no_zero, nofun, nofun⟩
    exact torn_of_begins ⟨fits, rfl, List.prefix_rfl, fun _ => rfl, fun _ => rfl⟩
      (Numeral.spell_eq _)
  | cons point front =>
    cases found : number.fraction with
    | none =>
      rw [found] at torn
      cases torn
    | some digits =>
      rw [found] at torn
      obtain ⟨rfl, in_digits⟩ := List.cons.inj torn
      cases front with
      | nil => exact torn_of_broken (tokens_no_fraction grammatical.whole grammatical.no_zero)
      | cons digit more =>
        have beginning := (grammatical.fraction _ found).beginning
          (List.cons_ne_nil digit more) in_digits
        have fits : Numeral.Grammatical
            { number with fraction := some (digit :: more), exponent := none } := by
          refine ⟨grammatical.whole, grammatical.no_zero, ?_, nofun⟩
          rintro _ ⟨⟩
          exact beginning
        have absent : number.fraction = none → some (digit :: more) = none := by
          rw [found]
          exact nofun
        refine torn_of_begins ⟨fits, rfl, List.prefix_rfl, absent, fun _ => rfl⟩ ?_
        simp [Numeral.spell_eq, spellFraction, spellExponent]

theorem exponent_torn {number : Numeral} (grammatical : number.Grammatical)
    {front left : List Char} (torn : spellExponent number.exponent = front ++ left) :
    Token.Torn (.number number) (tokens ((if number.negative then ['-'] else []) ++
      (number.whole ++ (spellFraction number.fraction ++ front)))) := by
  cases front with
  | nil =>
    have fits : Numeral.Grammatical { number with exponent := none } :=
      ⟨grammatical.whole, grammatical.no_zero, grammatical.fraction, nofun⟩
    exact torn_of_begins ⟨fits, rfl, List.prefix_rfl, id, fun _ => rfl⟩ (Numeral.spell_eq _)
  | cons letter front =>
    cases found : number.exponent with
    | none =>
      rw [found] at torn
      cases torn
    | some exponent =>
      obtain ⟨negative, digits⟩ := exponent
      rw [found] at torn
      obtain ⟨rfl, behind⟩ := List.cons.inj torn
      rcases append_eq_append_cases behind with ⟨part, rfl, in_digits⟩ | ⟨rest, more, in_sign⟩
      · cases part with
        | nil =>
          rw [List.append_nil]
          cases negative with
          | true => exact torn_of_broken (tokens_no_exponent grammatical rfl)
          | false => exact torn_of_broken (tokens_no_exponent grammatical rfl)
        | cons digit more =>
          have beginning : AreDigits (digit :: more) :=
            (grammatical.exponent _ found).beginning (List.cons_ne_nil digit more) in_digits
          have fits : Numeral.Grammatical
              { number with exponent := some ⟨negative, digit :: more⟩ } := by
            refine ⟨grammatical.whole, grammatical.no_zero, grammatical.fraction, ?_⟩
            rintro _ ⟨⟩
            exact beginning
          have absent : number.exponent = none →
              some (Exponent.mk negative (digit :: more)) = none := by
            rw [found]
            exact nofun
          exact torn_of_begins ⟨fits, rfl, List.prefix_rfl, id, absent⟩ (Numeral.spell_eq _)
      · rw [eq_nil_of_torn in_sign more (length_sign _)]
        exact torn_of_broken (tokens_no_exponent grammatical rfl)

/-- A number that has lost its end is a number, unless it ends where it wants a digit. -/
theorem number_torn {number : Numeral} (grammatical : number.Grammatical) {front left : List Char}
    (torn : number.spell = front ++ left) : Token.Torn (.number number) (tokens front) := by
  rw [Numeral.spell_eq] at torn
  rcases append_eq_append_cases torn with ⟨unsigned, rfl, torn_unsigned⟩ | ⟨rest, more, in_sign⟩
  · rcases append_eq_append_cases torn_unsigned with ⟨part, rfl, parts⟩ | ⟨rest, -, in_whole⟩
    · rcases append_eq_append_cases parts with ⟨last, rfl, in_exponent⟩ | ⟨rest, -, in_fraction⟩
      · exact exponent_torn grammatical in_exponent
      · exact fraction_torn grammatical in_fraction
    · exact whole_torn grammatical in_whole
  · rw [eq_nil_of_torn in_sign more (length_sign _), tokens_nil]
    exact .nothing

/-! ### Texts -/

theorem tokens_word_torn {token : Token} {c : Char} {letters front left : List Char}
    (some : left ≠ []) (torn : c :: letters = front ++ left) (solid : isSpace c = false)
    (begins : ∀ rest, tokenAt c rest = word token letters rest) :
    tokens front = [] ∨ tokens front = [.broken Fault.truncated.always] := by
  cases front with
  | nil => exact .inl tokens_nil
  | cons d front =>
    obtain ⟨rfl, others⟩ := List.cons.inj torn
    right
    rw [tokens, solid, begins, word_torn token some others, if_neg Bool.false_ne_true, tokens_nil]

theorem tokens_quote_torn {text : String} {front left : List Char} (some : left ≠ [])
    (torn : Token.quote text = front ++ left) :
    tokens front = [] ∨ tokens front = [.brokenText Fault.truncated.always] := by
  cases front with
  | nil => exact .inl tokens_nil
  | cons d front =>
    obtain ⟨rfl, inside⟩ := List.cons.inj torn
    obtain ⟨before, last, rfl⟩ := (List.eq_nil_or_concat left).resolve_left some
    rw [List.concat_eq_append] at inside
    have parted : text.toList.flatMap Token.escape ++ ['"'] = front ++ before ++ [last] :=
      inside.trans (List.append_assoc front before [last]).symm
    have before_quote := (List.append_inj' parted rfl).1
    right
    rw [tokens]
    show (quoted front).1 :: tokens (quoted front).2 = _
    rw [quoted_torn before_quote, tokens_nil]

theorem tokens_torn {token : Token} (grammatical : token.Grammatical) {front left : List Char}
    (some : left ≠ []) (torn : token.spell = front ++ left) : token.Torn (tokens front) := by
  cases token with
  | number value => exact number_torn grammatical torn
  | text content =>
    rcases tokens_quote_torn some torn with nothing | broken
    · exact nothing ▸ .nothing
    · exact broken ▸ .text
  | null =>
    rcases tokens_word_torn some torn rfl fun _ => rfl with nothing | broken
    · exact nothing ▸ .nothing
    · exact broken ▸ .null
  | bool value =>
    have left_over : tokens front = [] ∨ tokens front = [.broken Fault.truncated.always] := by
      cases value with
      | true => exact tokens_word_torn some torn rfl fun _ => rfl
      | false => exact tokens_word_torn some torn rfl fun _ => rfl
    rcases left_over with nothing | broken
    · exact nothing ▸ .nothing
    · exact broken ▸ .bool
  | brokenText | broken => exact grammatical.elim
  | _ =>
    rw [eq_nil_of_torn torn some (Nat.le_refl 1), tokens_nil]
    exact .nothing

theorem NoNumber.beginning {front back : List Char} (ends : NoNumber (front ++ back)) :
    NoNumber front := by
  cases front with
  | nil => exact ⟨nofun, nofun⟩
  | cons c front => exact ends

/-- A text that has lost its end leaves the tokens before the cut, and of the one that it meets what
it may. -/
theorem tears_spell {tokens : List Token} (grammatical : ∀ token ∈ tokens, token.Grammatical)
    (apart : NumbersApart tokens) {front back : List Char} (some : back ≠ [])
    (split : tokens.flatMap Token.spell = front ++ back) : Tears tokens (Json.tokens front) := by
  induction tokens generalizing front with
  | nil =>
    obtain ⟨-, nothing⟩ := List.append_eq_nil_iff.mp split.symm
    exact absurd nothing some
  | cons token tokens ih =>
    obtain ⟨first, others⟩ := List.forall_mem_cons.mp grammatical
    obtain ⟨next, apart⟩ := List.isChain_cons.mp apart
    rw [List.flatMap_cons] at split
    rcases append_eq_append_cases split with ⟨more, rfl, rest⟩ | ⟨left, nonempty, torn⟩
    · have ends : ∀ value, token = .number value → NoNumber more := by
        rintro value rfl
        have follows : NoNumber (more ++ back) := by
          rw [← rest]
          exact noNumber_spelling (spelling_spell others) fun token head => next token head trivial
        exact follows.beginning
      rw [tokens_spelled (spelled_spell first) ends]
      exact .later (ih others apart rest)
    · exact .here (tokens_torn first nonempty torn)

end ScopedGrants.Json
