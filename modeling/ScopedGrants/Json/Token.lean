import ScopedGrants.Json.Numeral

/-!
The tokens of a JSON text and how each is spelled. A text may stop being JSON inside a token; what
is left of it is then the last token.
-/

namespace ScopedGrants.Json

inductive Token where
  | openArray
  | closeArray
  | openObject
  | closeObject
  | comma
  | colon
  | null
  | bool (value : Bool)
  | number (value : Numeral)
  /-- A quoted text. One that holds half of an escaped surrogate pair has the right form, but no
  content. -/
  | text (content : Option String)
  /-- A quoted text that breaks off. -/
  | brokenText (cut : Break)
  /-- Anything else that is no token, or breaks off. -/
  | broken (cut : Break)
deriving DecidableEq, Repr

def isSpace (c : Char) : Bool := c = ' ' || c = '\t' || c = '\n' || c = '\r'

namespace Token

def hexDigit (n : Nat) : Char := if n < 10 then Char.ofNat (48 + n) else Char.ofNat (87 + n)

def escape (c : Char) : List Char :=
  match c with
  | '"' => ['\\', '"']
  | '\\' => ['\\', '\\']
  | '\x08' => ['\\', 'b']
  | '\x0C' => ['\\', 'f']
  | '\n' => ['\\', 'n']
  | '\r' => ['\\', 'r']
  | '\t' => ['\\', 't']
  | c =>
    if c < ' ' then ['\\', 'u', '0', '0', hexDigit (c.toNat / 16), hexDigit (c.toNat % 16)]
    else [c]

def quote (text : String) : List Char := '"' :: (text.toList.flatMap escape ++ ['"'])

end Token

def Numeral.spell (number : Numeral) : List Char :=
  (if number.negative then ['-'] else []) ++ number.whole
    ++ (match number.fraction with
      | none => []
      | some digits => '.' :: digits)
    ++ (match number.exponent with
      | none => []
      | some exponent => 'e' :: ((if exponent.negative then ['-'] else []) ++ exponent.digits))

/-- The token as text; a broken one has none. -/
def Token.spell : Token → List Char
  | openArray => ['[']
  | closeArray => [']']
  | openObject => ['\x7b']
  | closeObject => ['\x7d']
  | comma => [',']
  | colon => [':']
  | null => ['n', 'u', 'l', 'l']
  | bool true => ['t', 'r', 'u', 'e']
  | bool false => ['f', 'a', 'l', 's', 'e']
  | number value => value.spell
  | text content => quote (content.getD "")
  | brokenText _ | broken _ => []

end ScopedGrants.Json
