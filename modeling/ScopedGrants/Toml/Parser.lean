import ScopedGrants.Text.Timestamp
import ScopedGrants.Toml.Document
import ScopedGrants.Toml.Lexical

/-!
Reading TOML 1.0. A text that breaks any rule has no reading at all.
-/

namespace ScopedGrants.Toml

/-! ### Numbers, dates and words -/

/-- Digits in a base, with an underscore between any two of them. -/
def digitRun (base : Nat) (input : List Char) : Option (List Char × List Char) :=
  let isDigit := Text.isDigitIn base
  let run := input.takeWhile fun c => isDigit c || c = '_'
  let rest := input.dropWhile fun c => isDigit c || c = '_'
  let parted := (run.zip (run.drop 1)).all fun (a, b) => isDigit a || isDigit b
  if parted ∧ run.head?.any isDigit ∧ run.getLast?.any isDigit then
    some (run.filter isDigit, rest)
  else none

def sign : List Char → Bool × List Char
  | '-' :: rest => (true, rest)
  | '+' :: rest => (false, rest)
  | input => (false, input)

/-- Decimal digits without a needless zero in front. -/
def wholeRun (input : List Char) : Option (List Char × List Char) :=
  match input with
  | '0' :: rest => some (['0'], rest)
  | input => digitRun 10 input

def integer (input : List Char) : Option (List Char) := do
  let within (negative : Bool) (magnitude : Nat) : Bool :=
    if negative then magnitude ≤ Nat.pow 2 63 else magnitude < Nat.pow 2 63
  let based (base : Nat) (input : List Char) : Option (List Char) := do
    let (digits, rest) ← digitRun base input
    if within false (Text.ofDigits base digits) then some rest else none
  match input with
  | '0' :: 'x' :: input => based 16 input
  | '0' :: 'o' :: input => based 8 input
  | '0' :: 'b' :: input => based 2 input
  | input =>
    let (negative, input) := sign input
    let (digits, rest) ← wholeRun input
    if within negative (Text.ofDigits 10 digits) then some rest else none

def fractionRun : List Char → Option (List Char × List Char)
  | '.' :: rest => digitRun 10 rest
  | input => some ([], input)

def exponentRun (input : List Char) : Option (Option Int × List Char) :=
  match input with
  | c :: rest =>
    if c = 'e' ∨ c = 'E' then do
      let (negative, rest) := sign rest
      let (digits, rest) ← digitRun 10 rest
      let magnitude := Text.ofDigits 10 digits
      return (some (if negative then -magnitude else magnitude), rest)
    else some (none, input)
  | [] => some (none, [])

/-- A double that is not too large can hold the number that digits spell with a power of ten. -/
def holds (digits : List Char) (power : Int) : Bool :=
  let significand := Text.ofDigits 10 digits
  let size := (digits.dropWhile (· = '0')).length + power
  if significand = 0 ∨ size < 309 then true
  else if 309 < size then false
  else
    let limit := Nat.pow 2 1024 - Nat.pow 2 970
    if 0 ≤ power then significand * Nat.pow 10 power.toNat < limit
    else significand < limit * Nat.pow 10 (-power).toNat

/-- A number with a fraction or an exponent or both. One that is too large is none, one that is
too small counts as infinite. -/
def float (input : List Char) : Option (List Char) := do
  let (negative, input) := sign input
  match input with
  | 'i' :: 'n' :: 'f' :: rest | 'n' :: 'a' :: 'n' :: rest => some rest
  | input =>
    let (whole, rest) ← wholeRun input
    let (fraction, rest) ← fractionRun rest
    let (exponent, rest) ← exponentRun rest
    if fraction.isEmpty ∧ exponent.isNone then none
    else if negative ∨ holds (whole ++ fraction) (exponent.getD 0 - fraction.length) then some rest
    else none

def moment (input : List Char) : Option (List Char) := do
  match Text.Timestamp.date input with
  | none => Text.Timestamp.time input
  | some rest =>
    match (do Text.Timestamp.time (← Text.Timestamp.mark rest)) with
    | none => some rest
    | some rest => some ((Text.Timestamp.zone rest).getD rest)

def scalar (input : List Char) : Option (Node × List Char) :=
  match input with
  | '"' :: _ | '\'' :: _ => (quotedText input).map fun (text, rest) => (.text text, rest)
  | 't' :: 'r' :: 'u' :: 'e' :: rest => some (.flag true, rest)
  | 'f' :: 'a' :: 'l' :: 's' :: 'e' :: rest => some (.flag false, rest)
  | input =>
    match moment input with
    | some rest => some (.moment, rest)
    | none => ((float input).or (integer input)).map fun rest => (.number, rest)

/-! ### Arrays and tables between braces -/

abbrev Reader := List Char → Option (Node × List Char)

def arrayItems (value : Reader) : Nat → List Char → Option (List Node × List Char)
  | 0, _ => none
  | fuel + 1, input =>
    match skipGap input with
    | ']' :: rest => some ([], rest)
    | input => do
      let (item, rest) ← value input
      match skipGap rest with
      | ']' :: rest => some ([item], rest)
      | ',' :: rest =>
        let (items, rest) ← arrayItems value fuel rest
        return (item :: items, rest)
      | _ => none

def keyValue (value : Reader) (input : List Char) :
    Option (List String × String × Node × List Char) := do
  let (path, key, rest) ← keyParts depthLimit input
  match rest with
  | '=' :: rest =>
    let (node, rest) ← value (skipBlanks rest)
    return (path, key, node, skipBlanks rest)
  | _ => none

def inlineEntries (value : Reader) : Nat → Entries → List Char → Option (Entries × List Char)
  | 0, _, _ => none
  | fuel + 1, entries, input => do
    let (path, key, node, rest) ← keyValue value input
    let entries ← entries.define path key node .inline
    match rest with
    | '\x7d' :: rest => some (entries, rest)
    | ',' :: rest => inlineEntries value fuel entries rest
    | _ => none

def value : Nat → Reader
  | 0, input => scalar input
  | depth + 1, input =>
    match input with
    | '[' :: rest => do
      let (items, rest) ← arrayItems (value depth) (rest.length + 1) rest
      return (.array items, rest)
    | '\x7b' :: rest => do
      let (entries, rest) ← match skipBlanks rest with
        | '\x7d' :: rest => some ([], rest)
        | rest => inlineEntries (value depth) (rest.length + 1) [] rest
      return (.table .inline entries, rest)
    | input => scalar input

/-! ### Documents -/

structure State where
  entries : Entries := []
  header : List String := []

def header (isItem : Bool) (state : State) (input : List Char) : Option (State × List Char) := do
  let (path, key, rest) ← keyParts depthLimit input
  let closed : Option (List Char) := match isItem, rest with
    | false, ']' :: rest | true, ']' :: ']' :: rest => some rest
    | _, _ => none
  let entries ← if isItem then state.entries.openItem path key else state.entries.openTable path key
  return ({ entries, header := path ++ [key] }, ← lineEnd (← closed))

/-- One line that is not blank, or more if its value takes more. -/
def expression (state : State) (input : List Char) : Option (State × List Char) :=
  match input with
  | '[' :: '[' :: rest => header true state rest
  | '[' :: rest => header false state rest
  | input => do
    let (path, key, node, rest) ← keyValue (value depthLimit) input
    let entries ← state.entries.defineUnder state.header path key node
    return ({ state with entries }, ← lineEnd rest)

def lines : Nat → State → List Char → Option Entries
  | 0, _, _ => none
  | fuel + 1, state, input =>
    match skipBlanks input with
    | [] => some state.entries
    | '#' :: rest => do lines fuel state (← lineEnd ('#' :: rest))
    | c :: rest =>
      match lineBreak (c :: rest) with
      | some rest => lines fuel state rest
      | none => do
        let (state, rest) ← expression state (c :: rest)
        lines fuel state rest

/-- The entries of a document, which may begin with a byte order mark. -/
def parse? (text : String) : Option Entries :=
  let input := match text.toList with
    | '\uFEFF' :: rest => rest
    | input => input
  lines (input.length + 1) {} input

end ScopedGrants.Toml
