import Mathlib.Data.List.Chain
import ScopedGrants.Proofs.Except
import ScopedGrants.Proofs.Json.Quoted

/-!
Cutting a text into tokens. Each token ends where its spelling does; only a number could go on, and
what follows it has to be something that it cannot go on with. Where a text does not break off, its
tokens spell it.
-/

namespace ScopedGrants.Json

/-! ### Numbers -/

def NoDigit (rest : List Char) : Prop := ∀ c, rest.head? = some c → c.isDigit = false

def NoNumber (rest : List Char) : Prop :=
  NoDigit rest ∧ ∀ c, rest.head? = some c → c ≠ '.' ∧ c ≠ 'e' ∧ c ≠ 'E'

theorem digits_append {found rest : List Char} (digits_found : AreDigits found)
    (ends : NoDigit rest) : digits (found ++ rest) = .ok (found, rest) := by
  have stops : rest.takeWhile Char.isDigit = [] ∧ rest.dropWhile Char.isDigit = rest := by
    cases rest with
    | nil => exact ⟨rfl, rfl⟩
    | cons c rest => simp [ends c rfl]
  have taken : (found ++ rest).takeWhile Char.isDigit = found := by
    rw [List.takeWhile_append_of_pos digits_found.2, stops.1, List.append_nil]
  rw [digits, taken, List.dropWhile_append_of_pos digits_found.2, stops.2]
  cases found with
  | nil => exact absurd rfl digits_found.1
  | cons c found => rfl

theorem digits_ok {input found rest : List Char} (read : digits input = .ok (found, rest)) :
    AreDigits found ∧ input = found ++ rest := by
  unfold digits at read
  split at read
  case h_1 => cases read
  case h_2 digits some =>
    obtain ⟨rfl, rfl⟩ := Prod.mk.inj (Except.ok.inj read)
    exact ⟨⟨some, List.all_eq_true.mp List.all_takeWhile⟩, List.takeWhile_append_dropWhile.symm⟩

theorem noDigit_cons {c : Char} {rest : List Char} (other : c.isDigit = false) :
    NoDigit (c :: rest) := by
  rintro _ ⟨⟩
  exact other

theorem noDigit_spellFraction {fraction : Option (List Char)} {rest : List Char}
    (ends : NoDigit rest) : NoDigit (spellFraction fraction ++ rest) := by
  cases fraction with
  | none => exact ends
  | some digits => exact noDigit_cons rfl

theorem noDigit_exponent {spelled : List Char} {exponent : Option Exponent} {rest : List Char}
    (form : ExponentForm spelled exponent) (ends : NoDigit rest) : NoDigit (spelled ++ rest) := by
  cases form with
  | none => exact ends
  | some begins => rcases begins with rfl | rfl <;> exact noDigit_cons rfl

theorem noPoint_exponent {spelled : List Char} {exponent : Option Exponent} {rest : List Char}
    (form : ExponentForm spelled exponent) (other : ∀ c, rest.head? = some c → c ≠ '.') :
    ∀ c, (spelled ++ rest).head? = some c → c ≠ '.' := by
  cases form with
  | none => exact other
  | some begins =>
    rintro _ ⟨⟩
    rcases begins with rfl | rfl <;> decide

theorem wholeDigits_append {found rest : List Char} (digits_found : AreDigits found)
    (no_zero : ∀ more, found = '0' :: more → more = []) (ends : NoDigit rest) :
    wholeDigits (found ++ rest) = .ok (found, rest) := by
  rw [wholeDigits, digits_append digits_found ends]
  split
  case h_1 _ _ _ _ equal =>
    obtain ⟨rfl, rfl⟩ := Prod.mk.inj (Except.ok.inj equal)
    cases no_zero _ rfl
  case h_2 => rfl

theorem wholeDigits_ok {input found rest : List Char}
    (read : wholeDigits input = .ok (found, rest)) :
    AreDigits found ∧ (∀ more, found = '0' :: more → more = []) ∧ input = found ++ rest := by
  unfold wholeDigits at read
  split at read
  case h_1 => cases read
  case h_2 no_zero =>
    obtain ⟨digits_found, split⟩ := digits_ok read
    refine ⟨digits_found, ?_, split⟩
    rintro more rfl
    cases more with
    | nil => rfl
    | cons c more => exact (no_zero _ _ _ read).elim

theorem fractionDigits_append {fraction : Option (List Char)} {rest : List Char}
    (digits_found : ∀ digits, fraction = some digits → AreDigits digits) (ends : NoDigit rest)
    (point : ∀ c, rest.head? = some c → c ≠ '.') :
    fractionDigits (spellFraction fraction ++ rest) = .ok (fraction, rest) := by
  cases fraction with
  | none =>
    rw [spellFraction, List.nil_append, fractionDigits]
    rintro more rfl
    exact point _ rfl rfl
  | some found =>
    rw [spellFraction, List.cons_append, fractionDigits, digits_append (digits_found _ rfl) ends]
    rfl

theorem fractionDigits_ok {input rest : List Char} {fraction : Option (List Char)}
    (read : fractionDigits input = .ok (fraction, rest)) :
    (∀ digits, fraction = some digits → AreDigits digits) ∧
      input = spellFraction fraction ++ rest := by
  unfold fractionDigits at read
  split at read
  case h_1 after =>
    obtain ⟨⟨found, more⟩, found_read, same⟩ := map_eq_ok.mp read
    cases same
    obtain ⟨digits_found, split⟩ := digits_ok found_read
    refine ⟨?_, congrArg ('.' :: ·) split⟩
    rintro _ ⟨⟩
    exact digits_found
  case h_2 =>
    cases read
    exact ⟨nofun, rfl⟩

theorem exponentSign_append {sign : List Char} {negative : Bool} {found rest : List Char}
    (signed : Sign sign negative) (digits_found : AreDigits found) :
    exponentSign (sign ++ (found ++ rest)) = (negative, found ++ rest) := by
  cases signed with
  | minus => rfl
  | plus => rfl
  | unsigned =>
    obtain ⟨some, all⟩ := digits_found
    cases found with
    | nil => exact absurd rfl some
    | cons c found =>
      have digit := all c List.mem_cons_self
      show exponentSign (c :: (found ++ rest)) = _
      unfold exponentSign
      split
      case h_1 equal =>
        obtain ⟨rfl, -⟩ := List.cons.inj equal
        cases digit
      case h_2 equal =>
        obtain ⟨rfl, -⟩ := List.cons.inj equal
        cases digit
      case h_3 => rfl

theorem exponentSign_signed {input rest : List Char} {negative : Bool}
    (read : exponentSign input = (negative, rest)) :
    ∃ sign, Sign sign negative ∧ input = sign ++ rest := by
  unfold exponentSign at read
  split at read <;> cases read
  · exact ⟨['-'], .minus, rfl⟩
  · exact ⟨['+'], .plus, rfl⟩
  · exact ⟨[], .unsigned, rfl⟩

theorem exponentPart_append {spelled : List Char} {exponent : Option Exponent} {rest : List Char}
    (form : ExponentForm spelled exponent)
    (digits_found : ∀ found, exponent = some found → AreDigits found.digits)
    (ends : NoDigit rest) (letter : ∀ c, rest.head? = some c → c ≠ 'e' ∧ c ≠ 'E') :
    exponentPart (spelled ++ rest) = .ok (exponent, rest) := by
  cases form with
  | none =>
    cases rest with
    | nil => rfl
    | cons c rest =>
      obtain ⟨small, capital⟩ := letter c rfl
      exact if_neg fun found => found.elim small capital
  | some begins signed =>
    have found := digits_found _ rfl
    rw [List.cons_append, List.append_assoc, exponentPart, if_pos begins,
      exponentSign_append signed found]
    simp only [digits_append found ends]
    rfl

theorem exponentPart_ok {input rest : List Char} {exponent : Option Exponent}
    (read : exponentPart input = .ok (exponent, rest)) :
    (∀ found, exponent = some found → AreDigits found.digits) ∧
      ∃ spelled, ExponentForm spelled exponent ∧ input = spelled ++ rest := by
  cases input with
  | nil =>
    cases read
    exact ⟨nofun, [], .none, rfl⟩
  | cons letter after =>
    rw [exponentPart] at read
    by_cases begins : letter = 'e' ∨ letter = 'E'
    · rw [if_pos begins] at read
      rcases sign_read : exponentSign after with ⟨negative, after_sign⟩
      rw [sign_read] at read
      obtain ⟨sign, signed, split⟩ := exponentSign_signed sign_read
      obtain ⟨⟨found, more⟩, found_read, same⟩ := map_eq_ok.mp read
      cases same
      obtain ⟨digits_found, parted⟩ := digits_ok found_read
      refine ⟨?_, _, .some begins signed, ?_⟩
      · rintro _ ⟨⟩
        exact digits_found
      · rw [split, parted, List.cons_append, List.append_assoc]
    · rw [if_neg begins] at read
      cases read
      exact ⟨nofun, [], .none, rfl⟩

theorem unsigned_append {number : Numeral} {spelled rest : List Char}
    (grammatical : number.Grammatical) (form : ExponentForm spelled number.exponent)
    (ends : NoNumber rest) :
    unsigned number.negative (number.whole ++ (spellFraction number.fraction ++
      (spelled ++ rest))) = (.number number, rest) := by
  obtain ⟨no_digit, other⟩ := ends
  have after_fraction : NoDigit (spelled ++ rest) := noDigit_exponent form no_digit
  have point := noPoint_exponent form fun c first => (other c first).1
  rw [unsigned, wholeDigits_append grammatical.whole grammatical.no_zero
    (noDigit_spellFraction after_fraction)]
  simp only [bind, Except.bind, fractionDigits_append grammatical.fraction after_fraction point,
    exponentPart_append form grammatical.exponent no_digit fun c first => (other c first).2]
  rfl

theorem unsigned_whole {negative : Bool} {input rest : List Char} {token : Token}
    (read : unsigned negative input = (token, rest)) (whole : token.Whole) :
    ∃ spelled, (if negative then ['-'] else []) ++ input = spelled ++ rest ∧
      Spelled spelled token := by
  unfold unsigned at read
  dsimp only at read
  split at read
  case h_1 number left found =>
    obtain ⟨⟨digits, after_whole⟩, whole_read, found⟩ := bind_eq_ok.mp found
    obtain ⟨⟨fraction, after_fraction⟩, fraction_read, found⟩ := bind_eq_ok.mp found
    obtain ⟨⟨exponent, after_exponent⟩, exponent_read, found⟩ := bind_eq_ok.mp found
    cases found
    cases read
    obtain ⟨whole_found, no_zero, split⟩ := wholeDigits_ok whole_read
    obtain ⟨fraction_found, fraction_split⟩ := fractionDigits_ok fraction_read
    obtain ⟨exponent_found, spelled, form, exponent_split⟩ := exponentPart_ok exponent_read
    have grammatical : Numeral.Grammatical ⟨negative, digits, fraction, exponent⟩ :=
      ⟨whole_found, no_zero, fraction_found, exponent_found⟩
    refine ⟨_, ?_, .number (.of grammatical form)⟩
    dsimp only at fraction_split exponent_split ⊢
    rw [split, fraction_split, exponent_split]
    simp only [List.append_assoc]
  case h_2 =>
    cases read
    exact whole.elim

theorem tokenAt_digit {c : Char} (digit : c.isDigit = true) (rest : List Char) :
    tokenAt c rest = unsigned false (c :: rest) := by
  unfold tokenAt
  split
  case h_12 => rw [if_pos digit]
  all_goals cases digit

/-! ### Single tokens -/

theorem word_whole {token wanted : Token} {letters input rest : List Char}
    (read : word wanted letters input = (token, rest)) (whole : token.Whole) :
    token = wanted ∧ input = letters ++ rest := by
  induction letters generalizing input with
  | nil =>
    obtain ⟨rfl, rfl⟩ := Prod.mk.inj read
    exact ⟨rfl, rfl⟩
  | cons c letters ih =>
    cases input with
    | nil =>
      cases read
      exact whole.elim
    | cons d input =>
      unfold word at read
      split at read
      case isTrue same =>
        obtain ⟨found, split⟩ := ih read
        exact ⟨found, by rw [split, same]; rfl⟩
      case isFalse =>
        cases read
        exact whole.elim

theorem isSpace_digit {c : Char} (digit : c.isDigit = true) : isSpace c = false := by
  have apart : ∀ space : Char, space.isDigit = false → c ≠ space := by
    rintro _ other rfl
    rw [digit] at other
    cases other
  simp [isSpace, apart]

theorem tokenAt_number {spelled rest : List Char} {number : Numeral}
    (form : NumberForm spelled number) (ends : NoNumber rest) :
    ∃ c more, spelled = c :: more ∧ isSpace c = false ∧
      tokenAt c (more ++ rest) = (.number number, rest) := by
  obtain @⟨_, exponent, grammatical, form⟩ := form
  have cut := unsigned_append grammatical form ends
  cases sign : number.negative with
  | true =>
    rw [sign] at cut
    refine ⟨'-', number.whole ++ (spellFraction number.fraction ++ exponent), rfl, rfl, ?_⟩
    show unsigned true (_ ++ rest) = _
    simpa only [List.append_assoc] using cut
  | false =>
    obtain ⟨some, all⟩ := grammatical.whole
    cases whole : number.whole with
    | nil => exact absurd whole some
    | cons c found =>
      have digit := all c (whole ▸ List.mem_cons_self)
      rw [sign, whole] at cut
      refine ⟨c, found ++ (spellFraction number.fraction ++ exponent), rfl, isSpace_digit digit, ?_⟩
      rw [tokenAt_digit digit]
      simpa only [List.cons_append, List.append_assoc] using cut

/-- A token is cut off where its spelling ends. -/
theorem tokenAt_append {spelled rest : List Char} {token : Token} (form : Spelled spelled token)
    (ends : ∀ value, token = .number value → NoNumber rest) :
    ∃ c more, spelled = c :: more ∧ isSpace c = false ∧
      tokenAt c (more ++ rest) = (token, rest) := by
  cases form with
  | number form => exact tokenAt_number form (ends _ rfl)
  | text quotable denotes =>
    refine ⟨_, _, rfl, rfl, ?_⟩
    rw [List.append_assoc]
    exact quoted_append quotable denotes rest
  | _ => exact ⟨_, _, rfl, rfl, rfl⟩

theorem tokenAt_whole {c : Char} {input rest : List Char} {token : Token}
    (read : tokenAt c input = (token, rest)) (whole : token.Whole) :
    ∃ spelled, c :: input = spelled ++ rest ∧ Spelled spelled token := by
  unfold tokenAt at read
  split at read
  case h_7 => exact quoted_whole read whole
  case h_8 => exact unsigned_whole read whole
  case h_9 | h_10 | h_11 =>
    obtain ⟨rfl, rfl⟩ := word_whole read whole
    exact ⟨_, rfl, by constructor⟩
  case h_12 =>
    split at read
    case isTrue => exact unsigned_whole read whole
    case isFalse =>
      cases read
      exact whole.elim
  all_goals
    cases read
    exact ⟨_, rfl, by constructor⟩

/-! ### Whole texts -/

theorem isSpace_iff {c : Char} : isSpace c = true ↔ c ∈ [' ', '\t', '\n', '\r'] := by
  simp [isSpace, or_assoc]

theorem tokens_space {space : List Char} (blank : Space space) (rest : List Char) :
    tokens (space ++ rest) = tokens rest := by
  induction space with
  | nil => rfl
  | cons c space ih =>
    obtain ⟨first, others⟩ := List.forall_mem_cons.mp blank
    rw [List.cons_append, tokens, if_pos (isSpace_iff.mpr first), ih others]

theorem tokens_spelled {spelled rest : List Char} {token : Token} (form : Spelled spelled token)
    (ends : ∀ value, token = .number value → NoNumber rest) :
    tokens (spelled ++ rest) = token :: tokens rest := by
  obtain ⟨c, more, rfl, solid, cut⟩ := tokenAt_append form ends
  rw [List.cons_append, tokens, solid, cut]
  rfl

/-- The token is a number. Two of them that touch would be one. -/
def Token.IsNumber : Token → Prop
  | number _ => True
  | _ => False

theorem noNumber_cons {c : Char} {rest : List Char}
    (other : c.isDigit = false ∧ c ≠ '.' ∧ c ≠ 'e' ∧ c ≠ 'E') : NoNumber (c :: rest) := by
  refine ⟨noDigit_cons other.1, ?_⟩
  rintro _ ⟨⟩
  exact other.2

theorem noNumber_spelled {spelled rest : List Char} {token : Token} (form : Spelled spelled token)
    (other : ¬ token.IsNumber) : NoNumber (spelled ++ rest) := by
  cases form with
  | number => exact absurd trivial other
  | _ => exact noNumber_cons (by decide)

theorem noNumber_spelling {input : List Char} {tokens : List Token} (form : Spelling input tokens)
    (other : ∀ token, tokens.head? = some token → ¬ token.IsNumber) : NoNumber input := by
  have spaced : ∀ {space rest : List Char}, Space space → NoNumber rest →
      NoNumber (space ++ rest) := by
    intro space rest blank ends
    cases space with
    | nil => exact ends
    | cons c space =>
      have all : ∀ c ∈ [' ', '\t', '\n', '\r'],
          c.isDigit = false ∧ c ≠ '.' ∧ c ≠ 'e' ∧ c ≠ 'E' := by simp
      exact noNumber_cons (all c (List.forall_mem_cons.mp blank).1)
  cases form with
  | done blank =>
    rw [← List.append_nil input]
    exact spaced blank ⟨nofun, nofun⟩
  | token blank first others =>
    exact spaced blank (noNumber_spelled first (other _ rfl))

/-- What has been spelled is cut back into its tokens, unless it has two numbers in a row. -/
theorem tokens_spelling {input : List Char} {tokens : List Token} (form : Spelling input tokens)
    (apart : tokens.IsChain fun token next => token.IsNumber → ¬ next.IsNumber) :
    Json.tokens input = tokens := by
  induction form with
  | @done space blank => rw [← List.append_nil space, tokens_space blank, Json.tokens]
  | token blank first others ih =>
    obtain ⟨next, apart⟩ := List.isChain_cons.mp apart
    rw [tokens_space blank, tokens_spelled first, ih apart]
    -- What follows a number is none, so the number ends where its spelling does.
    rintro value rfl
    exact noNumber_spelling others fun token head => next token head trivial

theorem Spelling.cons_space {c : Char} {input : List Char} {tokens : List Token}
    (space : isSpace c = true) (form : Spelling input tokens) : Spelling (c :: input) tokens := by
  have first := isSpace_iff.mp space
  cases form with
  | done blank => exact .done (List.forall_mem_cons.mpr ⟨first, blank⟩)
  | token blank spelled others =>
    exact .token (List.forall_mem_cons.mpr ⟨first, blank⟩) spelled others

/-- If no token breaks off, the text is spelled by its tokens. -/
theorem spelling_tokens (input : List Char) (whole : ∀ token ∈ tokens input, token.Whole) :
    Spelling input (tokens input) := by
  fun_induction tokens input with
  | case1 => exact .done nofun
  | case2 c rest space ih => exact (ih whole).cons_space space
  | case3 c rest solid ih =>
    obtain ⟨first, others⟩ := List.forall_mem_cons.mp whole
    obtain ⟨spelled, split, form⟩ := tokenAt_whole (Prod.eta (tokenAt c rest)).symm first
    have blank : Space [] := nofun
    rw [split]
    exact .token blank form (ih others)

end ScopedGrants.Json
