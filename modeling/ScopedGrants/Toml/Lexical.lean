import ScopedGrants.Text.Digits

/-!
The smallest parts of TOML texts: blanks, comments, line ends and quoted texts. Each reader takes
what it can from the front of a text and gives what follows.
-/

namespace ScopedGrants.Toml

def isBlank (c : Char) : Bool := c = ' ' || c = '\t'

def isVisible (c : Char) : Bool := c = '\t' || ' ' ≤ c && c ≠ '\x7F'

def skipBlanks (input : List Char) : List Char := input.dropWhile isBlank

def lineBreak : List Char → Option (List Char)
  | '\n' :: rest | '\r' :: '\n' :: rest => some rest
  | _ => none

def skipComment : List Char → List Char
  | '#' :: rest => rest.dropWhile isVisible
  | input => input

/-- Nothing but blanks and a comment up to the end of the line or of the text. -/
def lineEnd (input : List Char) : Option (List Char) :=
  match skipComment (skipBlanks input) with
  | [] => some []
  | rest => lineBreak rest

def skipLines : Nat → List Char → List Char
  | 0, input => input
  | fuel + 1, input =>
    match lineBreak (skipComment (skipBlanks input)) with
    | some rest => skipLines fuel rest
    | none => skipBlanks input

def skipGap (input : List Char) : List Char := skipLines input.length input

/-! ### Quoted texts -/

def codePoint (width : Nat) (input : List Char) : Option (Char × List Char) :=
  let digits := input.take width
  let code := Text.ofDigits 16 digits
  if digits.length = width ∧ digits.all (Text.isDigitIn 16) ∧ code.isValidChar then
    some (Char.ofNat code, input.drop width)
  else none

def escaped : List Char → Option (Char × List Char)
  | 'b' :: rest => some ('\x08', rest)
  | 't' :: rest => some ('\t', rest)
  | 'n' :: rest => some ('\n', rest)
  | 'f' :: rest => some ('\x0C', rest)
  | 'r' :: rest => some ('\r', rest)
  | '"' :: rest => some ('"', rest)
  | '\\' :: rest => some ('\\', rest)
  | 'u' :: rest => codePoint 4 rest
  | 'U' :: rest => codePoint 8 rest
  | _ => none

/-- The rest of a text on one line after its opening quote. With escapes it is in double quotes,
without in single ones. -/
def lineText (escapes : Bool) : Nat → List Char → Option (List Char × List Char)
  | 0, _ | _, [] => none
  | fuel + 1, c :: rest =>
    if c = (if escapes then '"' else '\'') then some ([], rest)
    else if escapes ∧ c = '\\' then do
      let (c, rest) ← escaped rest
      let (text, rest) ← lineText escapes fuel rest
      return (c :: text, rest)
    else if isVisible c then do
      let (text, rest) ← lineText escapes fuel rest
      return (c :: text, rest)
    else none

/-- What follows a backslash at the end of a line: no blank and no line break. -/
def continued (input : List Char) : Option (List Char) := do
  let rest ← lineBreak (skipBlanks input)
  return skipBreaks rest.length rest
where
  skipBreaks : Nat → List Char → List Char
    | 0, input => input
    | fuel + 1, input =>
      match lineBreak (skipBlanks input) with
      | some rest => skipBreaks fuel rest
      | none => skipBlanks input

/-- The rest of a text over several lines after its opening quotes. It may end in one or two
quotes of its own before the closing three. -/
def blockText (escapes : Bool) : Nat → List Char → Option (List Char × List Char)
  | 0, _ | _, [] => none
  | fuel + 1, c :: rest =>
    let quote := if escapes then '"' else '\''
    let next (c : Char) (rest : List Char) : Option (List Char × List Char) := do
      let (text, rest) ← blockText escapes fuel rest
      return (c :: text, rest)
    if c = quote then
      match rest.takeWhile (· = quote) with
      | [_, _] => some ([], rest.drop 2)
      | [_, _, _] => some ([quote], rest.drop 3)
      | _ :: _ :: _ :: _ :: _ => some ([quote, quote], rest.drop 4)
      | _ => next c rest
    else if escapes ∧ c = '\\' then
      match continued rest with
      | some rest => blockText escapes fuel rest
      | none => do
        let (c, rest) ← escaped rest
        next c rest
    else
      match lineBreak (c :: rest) with
      | some rest => next '\n' rest
      | none => if isVisible c then next c rest else none

def quotedText (input : List Char) : Option (String × List Char) := do
  let opened (rest : List Char) : List Char := (lineBreak rest).getD rest
  let (text, rest) ← match input with
    | '"' :: '"' :: '"' :: rest => blockText true (rest.length + 1) (opened rest)
    | '\'' :: '\'' :: '\'' :: rest => blockText false (rest.length + 1) (opened rest)
    | '"' :: rest => lineText true rest.length rest
    | '\'' :: rest => lineText false rest.length rest
    | _ => none
  return (String.ofList text, rest)

/-! ### Keys -/

def isBare (c : Char) : Bool := c.isAlphanum || c = '-' || c = '_'

def keyPart (input : List Char) : Option (String × List Char) :=
  match skipBlanks input with
  | [] => none
  | c :: rest =>
    if c = '"' then finish (lineText true rest.length rest)
    else if c = '\'' then finish (lineText false rest.length rest)
    else if isBare c then
      finish (some ((c :: rest).takeWhile isBare, (c :: rest).dropWhile isBare))
    else none
where
  finish (found : Option (List Char × List Char)) : Option (String × List Char) :=
    found.map fun (part, rest) => (String.ofList part, skipBlanks rest)

/-- The most that arrays and tables may lie within each other, and that a key may have parts. -/
def depthLimit : Nat := 79

/-- The parts of a key but the last, the last, and what follows. -/
def keyParts : Nat → List Char → Option (List String × String × List Char)
  | 0, _ => none
  | limit + 1, input => do
    let (part, rest) ← keyPart input
    match rest with
    | '.' :: rest =>
      let (path, last, rest) ← keyParts limit rest
      return (part :: path, last, rest)
    | rest => return ([], part, rest)

end ScopedGrants.Toml
