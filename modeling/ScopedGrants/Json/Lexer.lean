import ScopedGrants.Json.Token

/-!
Cutting a text into tokens. Every token takes at least one character, and a broken one takes all
that is left.
-/

namespace ScopedGrants.Json

/-! ### Quoted texts -/

inductive Piece where
  | char (c : Char)
  | lead (unit : Nat)
  | trail (unit : Nat)
deriving DecidableEq, Repr

def Piece.ofUnit (unit : Nat) : Piece :=
  if 0xD800 ≤ unit ∧ unit < 0xDC00 then lead unit
  else if 0xDC00 ≤ unit ∧ unit < 0xE000 then trail unit
  else char (Char.ofNat unit)

/-- The characters of some pieces, if every half pair meets its other half. -/
def Piece.join : List Piece → Option (List Char)
  | [] => some []
  | char c :: rest => (join rest).map (c :: ·)
  | lead high :: trail low :: rest =>
    (join rest).map (Char.ofNat (0x10000 + (high - 0xD800) * 0x400 + (low - 0xDC00)) :: ·)
  | _ :: _ => none

def unitOfHex? (a b c d : Char) : Option Nat :=
  if [a, b, c, d].all (Text.isDigitIn 16) then some (Text.ofDigits 16 [a, b, c, d]) else none

def unescape? : Char → Option Char
  | '"' => some '"'
  | '\\' => some '\\'
  | '/' => some '/'
  | 'b' => some '\x08'
  | 'f' => some '\x0C'
  | 'n' => some '\n'
  | 'r' => some '\r'
  | 't' => some '\t'
  | _ => none

inductive TextEnd where
  | closed (rest : List Char)
  | cut (fault : Fault)
deriving DecidableEq, Repr

/-- Reads the pieces of a text after its opening quote. The digits of an escape are counted in
bytes: with fewer than four left the text ends too early, whatever they are. -/
def pieces : List Char → List Piece × TextEnd
  | [] => ([], .cut .truncated)
  | '"' :: rest => ([], .closed rest)
  | '\\' :: 'u' :: a :: b :: c :: d :: rest =>
    match unitOfHex? a b c d with
    | some unit =>
      let (more, ending) := pieces rest
      (.ofUnit unit :: more, ending)
    | none => ([], .cut .malformed)
  | '\\' :: 'u' :: short =>
    let bytes := short.foldl (fun total c => total + c.utf8Size) 0
    ([], .cut (if bytes < 4 then .truncated else .malformed))
  | '\\' :: c :: rest =>
    match unescape? c with
    | some c =>
      let (more, ending) := pieces rest
      (.char c :: more, ending)
    | none => ([], .cut .malformed)
  | ['\\'] => ([], .cut .truncated)
  | c :: rest =>
    if c < ' ' then ([], .cut .malformed)
    else
      let (more, ending) := pieces rest
      (.char c :: more, ending)

/-- The pieces without a first half at their end, which was still to be completed. -/
def withoutOpenPair (text : List Piece) : List Piece :=
  match text.getLast? with
  | some (.lead _) => text.dropLast
  | _ => text

/-- The quoted text after its opening quote, and what follows. A half pair that stands alone is
noticed before the fault at which the text breaks off. -/
def quoted (input : List Char) : Token × List Char :=
  match pieces input with
  | (text, .closed rest) => (.text ((Piece.join text).map String.ofList), rest)
  | (text, .cut fault) =>
    let wanted := if (Piece.join (withoutOpenPair text)).isSome then fault else .malformed
    (.brokenText ⟨wanted, fault⟩, [])

/-! ### Numbers and words -/

/-- One or more digits, or the fault that there is none: with nothing left the text ends too
early for a reader that wants the number. -/
def digits (input : List Char) : Except Break (List Char × List Char) :=
  match input.takeWhile Char.isDigit with
  | [] => .error (if input.isEmpty then ⟨.truncated, .malformed⟩ else Fault.malformed.always)
  | found => .ok (found, input.dropWhile Char.isDigit)

/-- The whole digits of a number. A zero is the only one. -/
def wholeDigits (input : List Char) : Except Break (List Char × List Char) :=
  match digits input with
  | .ok ('0' :: _ :: _, _) => .error Fault.malformed.always
  | result => result

def fractionDigits : List Char → Except Break (Option (List Char) × List Char)
  | '.' :: rest => (digits rest).map fun (found, rest) => (some found, rest)
  | input => .ok (none, input)

def exponentSign : List Char → Bool × List Char
  | '-' :: rest => (true, rest)
  | '+' :: rest => (false, rest)
  | input => (false, input)

def exponentPart : List Char → Except Break (Option Exponent × List Char)
  | [] => .ok (none, [])
  | c :: rest =>
    if c = 'e' ∨ c = 'E' then
      let (negative, rest) := exponentSign rest
      (digits rest).map fun (found, rest) => (some ⟨negative, found⟩, rest)
    else .ok (none, c :: rest)

def unsigned (negative : Bool) (input : List Char) : Token × List Char :=
  let result : Except Break (Numeral × List Char) := do
    let (whole, rest) ← wholeDigits input
    let (fraction, rest) ← fractionDigits rest
    let (exponent, rest) ← exponentPart rest
    return (⟨negative, whole, fraction, exponent⟩, rest)
  match result with
  | .ok (number, rest) => (.number number, rest)
  | .error cut => (.broken cut, [])

def word (token : Token) : List Char → List Char → Token × List Char
  | [], input => (token, input)
  | _ :: _, [] => (.broken Fault.truncated.always, [])
  | c :: letters, d :: rest =>
    if c = d then word token letters rest else (.broken Fault.malformed.always, [])

/-! ### The whole text -/

def tokenAt (c : Char) (rest : List Char) : Token × List Char :=
  match c with
  | '[' => (.openArray, rest)
  | ']' => (.closeArray, rest)
  | '\x7b' => (.openObject, rest)
  | '\x7d' => (.closeObject, rest)
  | ',' => (.comma, rest)
  | ':' => (.colon, rest)
  | '"' => quoted rest
  | '-' => unsigned true rest
  | 'n' => word .null ['u', 'l', 'l'] rest
  | 't' => word (.bool true) ['r', 'u', 'e'] rest
  | 'f' => word (.bool false) ['a', 'l', 's', 'e'] rest
  | c => if c.isDigit then unsigned false (c :: rest) else (.broken Fault.malformed.always, [])

theorem pieces_length {input rest : List Char} {text : List Piece}
    (h : pieces input = (text, .closed rest)) : rest.length < input.length := by
  induction input using pieces.induct generalizing text <;> grind [pieces]

theorem quoted_length (input : List Char) : (quoted input).2.length ≤ input.length := by
  unfold quoted
  split
  case h_1 eq => exact Nat.le_of_lt (pieces_length eq)
  case h_2 => simp

theorem digits_length {input found rest : List Char} (h : digits input = .ok (found, rest)) :
    found ≠ [] ∧ found.length + rest.length = input.length := by
  unfold digits at h
  split at h
  case h_1 => simp at h
  case h_2 some =>
    obtain ⟨rfl, rfl⟩ : _ ∧ _ := by simpa using h
    refine ⟨some, ?_⟩
    rw [← List.length_append, List.takeWhile_append_dropWhile]

theorem wholeDigits_length {input found rest : List Char}
    (h : wholeDigits input = .ok (found, rest)) : rest.length < input.length := by
  unfold wholeDigits at h
  split at h
  case h_1 => simp at h
  case h_2 =>
    obtain ⟨some, total⟩ := digits_length h
    have := List.length_pos_iff.2 some
    omega

theorem fractionDigits_length {input rest : List Char} {found : Option (List Char)}
    (h : fractionDigits input = .ok (found, rest)) : rest.length ≤ input.length := by
  unfold fractionDigits at h
  split at h
  case h_1 after =>
    cases eq : digits after with
    | error => simp [eq, Except.map] at h
    | ok result =>
      obtain ⟨-, rfl⟩ : _ ∧ result.2 = rest := by simpa [eq, Except.map] using h
      have := (digits_length eq).2
      simp only [List.length_cons]
      omega
  case h_2 => simp_all

theorem exponentSign_length (input : List Char) :
    (exponentSign input).2.length ≤ input.length := by
  unfold exponentSign
  split <;> simp

theorem exponentPart_length {input rest : List Char} {found : Option Exponent}
    (h : exponentPart input = .ok (found, rest)) : rest.length ≤ input.length := by
  unfold exponentPart at h
  split at h
  case h_1 => simp_all
  case h_2 c after =>
    split at h
    case isFalse => simp_all
    case isTrue =>
      cases eq : digits (exponentSign after).2 with
      | error => simp [eq, Except.map] at h
      | ok result =>
        obtain ⟨-, rfl⟩ : _ ∧ result.2 = rest := by simpa [eq, Except.map] using h
        have := (digits_length eq).2
        have := exponentSign_length after
        simp only [List.length_cons]
        omega

theorem unsigned_length (negative : Bool) (input : List Char) :
    (unsigned negative input).2.length ≤ input.length - 1 := by
  unfold unsigned
  cases whole : wholeDigits input with
  | error => simp [bind, Except.bind]
  | ok result =>
    have := wholeDigits_length whole
    cases fraction : fractionDigits result.2 with
    | error => simp [bind, Except.bind, fraction]
    | ok result =>
      have := fractionDigits_length fraction
      cases exponent : exponentPart result.2 with
      | error => simp [bind, Except.bind, fraction, exponent]
      | ok result =>
        have := exponentPart_length exponent
        simp only [bind, Except.bind, fraction, exponent, pure, Except.pure]
        omega

theorem word_length (token : Token) (letters input : List Char) :
    (word token letters input).2.length ≤ input.length := by
  induction letters generalizing input with
  | nil => simp [word]
  | cons c letters ih =>
    cases input with
    | nil => simp [word]
    | cons d rest =>
      unfold word
      split
      · exact Nat.le_trans (ih rest) (Nat.le_succ _)
      · simp

theorem tokenAt_length (c : Char) (rest : List Char) :
    (tokenAt c rest).2.length ≤ rest.length := by
  unfold tokenAt
  split
  case h_7 => exact quoted_length rest
  case h_8 => exact Nat.le_trans (unsigned_length true rest) (Nat.sub_le ..)
  case h_9 | h_10 | h_11 => exact word_length ..
  case h_12 =>
    split
    · exact unsigned_length false (c :: rest)
    · simp
  all_goals simp

def tokens : List Char → List Token
  | [] => []
  | c :: rest =>
    if isSpace c then tokens rest
    else (tokenAt c rest).1 :: tokens (tokenAt c rest).2
termination_by input => input.length
decreasing_by
  · simp
  · exact Nat.lt_succ_of_le (tokenAt_length c rest)

end ScopedGrants.Json
