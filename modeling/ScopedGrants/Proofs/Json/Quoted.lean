import ScopedGrants.Proofs.Json.Grammar

/-!
Reading what stands between quotes. The pieces that are read are those that the grammar has there,
and they join to a text exactly if there is one that is denoted.
-/

namespace ScopedGrants.Json

/-! ### Units -/

theorem HexUnit.digits {digits : List Char} {unit : Nat} (hex : HexUnit digits unit) :
    ∃ a b c d, digits = [a, b, c, d] ∧ unitOfHex? a b c d = some unit := by
  obtain ⟨length, all, value⟩ := hex
  obtain ⟨a, b, c, d, rfl⟩ := List.length_eq_four.mp length
  refine ⟨a, b, c, d, rfl, ?_⟩
  rw [unitOfHex?, if_pos (List.all_eq_true.mpr all), value]

theorem hexUnit_of_digits {a b c d : Char} {unit : Nat} (found : unitOfHex? a b c d = some unit) :
    HexUnit [a, b, c, d] unit := by
  unfold unitOfHex? at found
  split at found
  case isTrue all => exact ⟨rfl, List.all_eq_true.mp all, Option.some.inj found⟩
  case isFalse => cases found

theorem digitValue?_lt {c : Char} (hex : Text.isDigitIn 16 c = true) :
    (Text.digitValue? c).getD 0 < 16 := by
  unfold Text.isDigitIn at hex
  cases value : Text.digitValue? c with
  | none => simp [value] at hex
  | some n => simpa [value] using hex

theorem HexUnit.lt {digits : List Char} {unit : Nat} (hex : HexUnit digits unit) :
    unit < 0x10000 := by
  obtain ⟨length, all, value⟩ := hex
  obtain ⟨a, b, c, d, rfl⟩ := List.length_eq_four.mp length
  have bound : ∀ digit ∈ [a, b, c, d], (Text.digitValue? digit).getD 0 < 16 :=
    fun digit member => digitValue?_lt (all digit member)
  simp only [List.forall_mem_cons] at bound
  simp only [Text.ofDigits, List.foldl_cons, List.foldl_nil] at value
  omega

theorem Piece.ofUnit_toNat (c : Char) (short : c.toNat < 0x10000) : ofUnit c.toNat = char c := by
  have valid : c.toNat < 0xD800 ∨ (0xDFFF < c.toNat ∧ c.toNat < 0x110000) := c.valid
  rw [ofUnit, if_neg (by omega), if_neg (by omega), Char.ofNat_toNat]

theorem toNat_ofNat {n : Nat} (valid : n < 0xD800 ∨ (0xDFFF < n ∧ n < 0x110000)) :
    (Char.ofNat n).toNat = n := by
  rw [Char.ofNat, dif_pos valid]
  rfl

theorem Piece.ofUnit_cases {unit : Nat} (short : unit < 0x10000) :
    (ofUnit unit = lead unit ∧ 0xD800 ≤ unit ∧ unit < 0xDC00) ∨
    (ofUnit unit = trail unit ∧ 0xDC00 ≤ unit ∧ unit < 0xE000) ∨
    ∃ c : Char, ofUnit unit = char c ∧ c.toNat = unit := by
  unfold ofUnit
  split
  case isTrue first => exact .inl ⟨rfl, first⟩
  case isFalse no_lead =>
    split
    case isTrue second => exact .inr (.inl ⟨rfl, second⟩)
    case isFalse no_trail => exact .inr (.inr ⟨_, rfl, toNat_ofNat (by omega)⟩)

/-! ### Pieces -/

inductive PieceForm : List Char → Piece → Prop
  | plain {c : Char} (plain : Plain c) : PieceForm [c] (.char c)
  | escape {letter c : Char} (pair : (letter, c) ∈ escapes) : PieceForm ['\\', letter] (.char c)
  | unit {digits : List Char} {unit : Nat} (hex : HexUnit digits unit) :
      PieceForm ('\\' :: 'u' :: digits) (.ofUnit unit)

inductive Pieces : List Char → List Piece → Prop
  | nil : Pieces [] []
  | cons {part body : List Char} {piece : Piece} {pieces : List Piece}
      (first : PieceForm part piece) (rest : Pieces body pieces) :
      Pieces (part ++ body) (piece :: pieces)

theorem mem_escapes {letter c : Char} : (letter, c) ∈ escapes ↔ unescape? letter = some c := by
  constructor
  · intro pair
    simp only [escapes, List.mem_cons, Prod.mk.injEq, List.not_mem_nil, or_false] at pair
    rcases pair with ⟨rfl, rfl⟩ | ⟨rfl, rfl⟩ | ⟨rfl, rfl⟩ | ⟨rfl, rfl⟩ | ⟨rfl, rfl⟩ | ⟨rfl, rfl⟩ |
      ⟨rfl, rfl⟩ | ⟨rfl, rfl⟩ <;> rfl
  · intro found
    unfold unescape? at found
    split at found <;> cases found <;> decide

theorem pieces_plain {c : Char} (plain : Plain c) (rest : List Char) :
    pieces (c :: rest) = (.char c :: (pieces rest).1, (pieces rest).2) := by
  obtain ⟨printed, quote, backslash⟩ := plain
  rw [pieces, if_neg (Char.not_lt.mpr printed)]
  all_goals
    intros
    contradiction

theorem pieces_escape {letter c : Char} (pair : (letter, c) ∈ escapes) (rest : List Char) :
    pieces ('\\' :: letter :: rest) = (.char c :: (pieces rest).1, (pieces rest).2) := by
  have found := mem_escapes.mp pair
  have other : letter ≠ 'u' := by
    rintro rfl
    cases found
  rw [pieces, found]
  all_goals
    intros
    contradiction

theorem pieces_append {part : List Char} {piece : Piece} (form : PieceForm part piece)
    (rest : List Char) :
    pieces (part ++ rest) = (piece :: (pieces rest).1, (pieces rest).2) := by
  cases form with
  | plain plain => exact pieces_plain plain rest
  | escape pair => exact pieces_escape pair rest
  | unit hex =>
    obtain ⟨a, b, c, d, rfl, found⟩ := hex.digits
    simp only [List.cons_append, List.nil_append, pieces, found]

theorem pieces_closed {body : List Char} {text : List Piece} (form : Pieces body text)
    (rest : List Char) : pieces (body ++ '"' :: rest) = (text, .closed rest) := by
  induction form with
  | nil => rfl
  | cons first _ ih => rw [List.append_assoc, pieces_append first, ih]

theorem Pieces.unique {body : List Char} {text other : List Piece} (form : Pieces body text)
    (again : Pieces body other) : text = other :=
  congrArg Prod.fst ((pieces_closed form []).symm.trans (pieces_closed again []))

theorem exists_pieces_cons {part input left : List Char} {piece : Piece} {more text : List Piece}
    (form : PieceForm part piece) (closed : piece :: more = text)
    (found : ∃ body, input = body ++ '"' :: left ∧ Pieces body more) :
    ∃ body, part ++ input = body ++ '"' :: left ∧ Pieces body text := by
  obtain ⟨body, rfl, others⟩ := found
  exact ⟨part ++ body, (List.append_assoc ..).symm, closed ▸ .cons form others⟩

theorem exists_pieces {input left : List Char} {text : List Piece}
    (closed : pieces input = (text, .closed left)) :
    ∃ body, input = body ++ '"' :: left ∧ Pieces body text := by
  fun_induction pieces input generalizing text with
  | case2 rest =>
    obtain ⟨rfl, equal⟩ := Prod.mk.inj closed
    exact ⟨[], congrArg _ (TextEnd.closed.inj equal), .nil⟩
  | case3 a b c d rest unit found more ending read ih =>
    obtain ⟨joined, rfl⟩ := Prod.mk.inj closed
    exact exists_pieces_cons (.unit (hexUnit_of_digits found)) joined (ih read)
  | case6 letter rest _ _ c found more ending read ih =>
    obtain ⟨joined, rfl⟩ := Prod.mk.inj closed
    exact exists_pieces_cons (.escape (mem_escapes.mpr found)) joined (ih read)
  | case10 c rest quote unit short escape alone printed more ending read ih =>
    obtain ⟨joined, rfl⟩ := Prod.mk.inj closed
    have backslash : c ≠ '\\' := by
      rintro rfl
      cases rest with
      | nil => exact alone rfl rfl
      | cons letter rest => exact escape letter rest rfl rfl
    exact exists_pieces_cons (.plain ⟨Char.not_lt.mp printed, quote, backslash⟩) joined (ih read)
  | _ => cases closed

theorem quotable_iff {body : List Char} : Quotable body ↔ ∃ text, Pieces body text := by
  constructor
  · intro quotable
    induction quotable with
    | nil => exact ⟨[], .nil⟩
    | cons first _ ih =>
      obtain ⟨text, others⟩ := ih
      cases first with
      | plain plain => exact ⟨_, .cons (.plain plain) others⟩
      | escape pair => exact ⟨_, .cons (.escape pair) others⟩
      | unit hex => exact ⟨_, .cons (.unit hex) others⟩
  · rintro ⟨text, form⟩
    induction form with
    | nil => exact .nil
    | cons first _ ih =>
      refine .cons ?_ ih
      cases first with
      | plain plain => exact .plain plain
      | escape pair => exact .escape pair
      | unit hex => exact .unit hex

/-! ### What is denoted -/

theorem PieceForm.inversion {part : List Char} {piece : Piece} (form : PieceForm part piece) :
    (∃ c, piece = .char c ∧ Letter part c) ∨
    ∃ digits unit, part = '\\' :: 'u' :: digits ∧ HexUnit digits unit ∧
      (piece = .lead unit ∧ 0xD800 ≤ unit ∧ unit < 0xDC00 ∨
        piece = .trail unit ∧ 0xDC00 ≤ unit ∧ unit < 0xE000) := by
  cases form with
  | plain plain => exact .inl ⟨_, rfl, .plain plain⟩
  | escape pair => exact .inl ⟨_, rfl, .escape pair⟩
  | unit hex =>
    rcases Piece.ofUnit_cases hex.lt with lead | trail | ⟨c, same, value⟩
    · exact .inr ⟨_, _, rfl, hex, .inl lead⟩
    · exact .inr ⟨_, _, rfl, hex, .inr trail⟩
    · exact .inl ⟨c, same, .unit (value ▸ hex)⟩

theorem letter_pair {highs lows : List Char} {high low : Nat} {c : Char}
    (first : HexUnit highs high) (second : HexUnit lows low) (lead : 0xD800 ≤ high ∧ high < 0xDC00)
    (trail : 0xDC00 ≤ low ∧ low < 0xE000)
    (value : c.toNat = 0x10000 + (high - 0xD800) * 0x400 + (low - 0xDC00)) :
    Letter ('\\' :: 'u' :: (highs ++ '\\' :: 'u' :: lows)) c := by
  have quotient : high = 0xD800 + (c.toNat - 0x10000) / 0x400 := by omega
  have rest : low = 0xDC00 + (c.toNat - 0x10000) % 0x400 := by omega
  exact .pair (by omega) (quotient ▸ first) (rest ▸ second)

theorem denotes_of_join {body : List Char} {pieces : List Piece} {text : List Char}
    (form : Pieces body pieces) (joined : Piece.join pieces = some text) : Denotes body text := by
  fun_induction Piece.join pieces generalizing body text with
  | case1 =>
    cases form
    cases joined
    exact .nil
  | case2 c rest ih =>
    obtain ⟨others, found, rfl⟩ := Option.map_eq_some_iff.mp joined
    obtain _ | ⟨first, form⟩ := form
    rcases first.inversion with ⟨_, ⟨⟩, letter⟩ | ⟨_, _, -, -, ⟨⟨⟩, -⟩ | ⟨⟨⟩, -⟩⟩
    exact .cons letter (ih form found)
  | case3 high low rest ih =>
    obtain ⟨others, found, rfl⟩ := Option.map_eq_some_iff.mp joined
    obtain _ | ⟨first, _ | ⟨second, form⟩⟩ := form
    rcases first.inversion with ⟨_, ⟨⟩, -⟩ | ⟨highs, _, rfl, lead, ⟨⟨⟩, high_range⟩ | ⟨⟨⟩, -⟩⟩
    rcases second.inversion with ⟨_, ⟨⟩, -⟩ | ⟨lows, _, rfl, trail, ⟨⟨⟩, -⟩ | ⟨⟨⟩, low_range⟩⟩
    have letter := letter_pair lead trail high_range low_range (toNat_ofNat (by omega))
    have written := Denotes.cons letter (ih form found)
    simpa only [List.cons_append, List.append_assoc] using written
  | case4 => cases joined

theorem exists_join {body text : List Char} (denotes : Denotes body text) :
    ∃ pieces, Pieces body pieces ∧ Piece.join pieces = some text := by
  induction denotes with
  | nil => exact ⟨[], .nil, rfl⟩
  | @cons part body c text first _ ih =>
    obtain ⟨others, form, joined⟩ := ih
    cases first with
    | plain plain => exact ⟨_, .cons (.plain plain) form, congrArg (Option.map _) joined⟩
    | escape pair => exact ⟨_, .cons (.escape pair) form, congrArg (Option.map _) joined⟩
    | unit hex =>
      have first := PieceForm.unit hex
      rw [Piece.ofUnit_toNat _ hex.lt] at first
      exact ⟨_, .cons first form, congrArg (Option.map _) joined⟩
    | pair beyond lead trail =>
      have valid : c.toNat < 0xD800 ∨ (0xDFFF < c.toNat ∧ c.toNat < 0x110000) := c.valid
      have first := PieceForm.unit lead
      have second := PieceForm.unit trail
      rw [Piece.ofUnit, if_pos (by omega)] at first
      rw [Piece.ofUnit, if_neg (by omega), if_pos (by omega)] at second
      have written := Pieces.cons first (.cons second form)
      rw [← List.append_assoc] at written
      refine ⟨_, written, ?_⟩
      rw [Piece.join, joined, Option.map_some, show 0x10000 +
        (0xD800 + (c.toNat - 0x10000) / 0x400 - 0xD800) * 0x400 +
        (0xDC00 + (c.toNat - 0x10000) % 0x400 - 0xDC00) = c.toNat by omega, Char.ofNat_toNat]

theorem join_iff {body : List Char} {pieces : List Piece} {text : List Char}
    (form : Pieces body pieces) : Piece.join pieces = some text ↔ Denotes body text := by
  refine ⟨denotes_of_join form, fun denotes => ?_⟩
  -- The pieces are the only ones that are written like this.
  obtain ⟨others, again, joined⟩ := exists_join denotes
  rwa [form.unique again]

theorem Denotes.quotable {body text : List Char} (denotes : Denotes body text) : Quotable body := by
  obtain ⟨pieces, form, -⟩ := exists_join denotes
  exact quotable_iff.mpr ⟨pieces, form⟩

theorem Denotes.unique {body text other : List Char} (denotes : Denotes body text)
    (again : Denotes body other) : text = other := by
  obtain ⟨pieces, form, joined⟩ := exists_join denotes
  exact Option.some.inj (joined.symm.trans ((join_iff form).mpr again))

/-! ### Quoted texts -/

theorem map_ofList_eq_some {chars : Option (List Char)} {text : String} :
    chars.map String.ofList = some text ↔ chars = some text.toList := by
  rw [Option.map_eq_some_iff]
  constructor
  · rintro ⟨found, same, rfl⟩
    rwa [String.toList_ofList]
  · intro same
    exact ⟨text.toList, same, String.ofList_toList⟩

theorem quoted_append {body : List Char} {content : Option String} (quotable : Quotable body)
    (denotes : ∀ text : String, content = some text ↔ Denotes body text.toList)
    (rest : List Char) : quoted (body ++ '"' :: rest) = (.text content, rest) := by
  obtain ⟨pieces, form⟩ := quotable_iff.mp quotable
  have same : (Piece.join pieces).map String.ofList = content := by
    refine Option.ext fun text => ?_
    rw [denotes, ← join_iff form, map_ofList_eq_some]
  rw [quoted, pieces_closed form]
  simp only [same]

theorem quoted_whole {input rest : List Char} {token : Token}
    (read : quoted input = (token, rest)) (whole : token.Whole) :
    ∃ spelled, '"' :: input = spelled ++ rest ∧ Spelled spelled token := by
  unfold quoted at read
  split at read
  case h_1 pieces left closed =>
    obtain ⟨rfl, rfl⟩ := Prod.mk.inj read
    obtain ⟨body, rfl, form⟩ := exists_pieces closed
    refine ⟨_, ?_, .text (quotable_iff.mpr ⟨pieces, form⟩) fun text => ?_⟩
    · rw [List.cons_append, List.append_assoc]
      rfl
    · rw [← join_iff form, map_ofList_eq_some]
  case h_2 =>
    obtain ⟨rfl, -⟩ := Prod.mk.inj read
    exact whole.elim

/-! ### The spelling of the writer -/

theorem hexUnit_control {n : Nat} (control : n < 32) :
    HexUnit ['0', '0', Token.hexDigit (n / 16), Token.hexDigit (n % 16)] n := by
  have found : ∀ n < 32,
      unitOfHex? '0' '0' (Token.hexDigit (n / 16)) (Token.hexDigit (n % 16)) = some n := by
    decide
  exact hexUnit_of_digits (found n control)

theorem pieceForm_escape (c : Char) : PieceForm (Token.escape c) (.char c) := by
  unfold Token.escape
  split
  case h_8 quote backslash _ _ _ _ _ =>
    split
    case isTrue control =>
      have form := PieceForm.unit (hexUnit_control control)
      exact Piece.ofUnit_toNat c (Nat.lt_trans control (by decide)) ▸ form
    case isFalse printed => exact .plain ⟨Char.not_lt.mp printed, quote, backslash⟩
  all_goals exact .escape (by decide)

theorem letter_escape (c : Char) : Letter (Token.escape c) c := by
  rcases (pieceForm_escape c).inversion with ⟨_, ⟨⟩, letter⟩ | ⟨_, _, -, -, ⟨⟨⟩, -⟩ | ⟨⟨⟩, -⟩⟩
  exact letter

theorem denotes_escape (text : List Char) : Denotes (text.flatMap Token.escape) text := by
  induction text with
  | nil => exact .nil
  | cons c text ih => exact .cons (letter_escape c) ih

theorem spelled_quote (text : String) : Spelled (Token.quote text) (.text (some text)) := by
  have denotes := denotes_escape text.toList
  refine .text denotes.quotable fun other => ⟨?_, fun again => ?_⟩
  · rintro ⟨⟩
    exact denotes
  · exact congrArg some (String.toList_injective (denotes.unique again))

end ScopedGrants.Json
