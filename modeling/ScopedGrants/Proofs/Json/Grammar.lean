import ScopedGrants.Json.Lexer
import ScopedGrants.Json.Tree
import ScopedGrants.Proofs.Json.Numeral

/-!
The grammar of JSON: how each token may be spelled, and a text as tokens with white space between
them. Nothing here says how a text is read.
-/

namespace ScopedGrants.Json

/-! ### Quoted texts -/

def escapes : List (Char × Char) :=
  [('"', '"'), ('\\', '\\'), ('/', '/'), ('b', '\x08'), ('f', '\x0C'), ('n', '\n'), ('r', '\r'),
    ('t', '\t')]

structure HexUnit (digits : List Char) (unit : Nat) : Prop where
  length : digits.length = 4
  hex : ∀ digit ∈ digits, Text.isDigitIn 16 digit = true
  value : Text.ofDigits 16 digits = unit

def Plain (c : Char) : Prop := ' ' ≤ c ∧ c ≠ '"' ∧ c ≠ '\\'

/-- A part of what stands between quotes. Any unit may be escaped, also half of a surrogate pair. -/
inductive Part : List Char → Prop
  | plain {c : Char} (plain : Plain c) : Part [c]
  | escape {letter c : Char} (pair : (letter, c) ∈ escapes) : Part ['\\', letter]
  | unit {digits : List Char} {unit : Nat} (hex : HexUnit digits unit) :
      Part ('\\' :: 'u' :: digits)

inductive Quotable : List Char → Prop
  | nil : Quotable []
  | cons {part body : List Char} (first : Part part) (rest : Quotable body) :
      Quotable (part ++ body)

inductive Letter : List Char → Char → Prop
  | plain {c : Char} (plain : Plain c) : Letter [c] c
  | escape {letter c : Char} (pair : (letter, c) ∈ escapes) : Letter ['\\', letter] c
  | unit {digits : List Char} {c : Char} (hex : HexUnit digits c.toNat) :
      Letter ('\\' :: 'u' :: digits) c
  | pair {high low : List Char} {c : Char} (beyond : 0x10000 ≤ c.toNat)
      (first : HexUnit high (0xD800 + (c.toNat - 0x10000) / 0x400))
      (second : HexUnit low (0xDC00 + (c.toNat - 0x10000) % 0x400)) :
      Letter ('\\' :: 'u' :: (high ++ '\\' :: 'u' :: low)) c

inductive Denotes : List Char → List Char → Prop
  | nil : Denotes [] []
  | cons {part body : List Char} {c : Char} {text : List Char} (first : Letter part c)
      (rest : Denotes body text) : Denotes (part ++ body) (c :: text)

/-! ### Numbers -/

inductive Sign : List Char → Bool → Prop
  | minus : Sign ['-'] true
  | plus : Sign ['+'] false
  | unsigned : Sign [] false

def spellFraction : Option (List Char) → List Char
  | none => []
  | some digits => '.' :: digits

inductive ExponentForm : List Char → Option Exponent → Prop
  | none : ExponentForm [] none
  | some {letter : Char} {sign : List Char} {exponent : Exponent}
      (begins : letter = 'e' ∨ letter = 'E') (signed : Sign sign exponent.negative) :
      ExponentForm (letter :: (sign ++ exponent.digits)) (some exponent)

inductive NumberForm : List Char → Numeral → Prop
  | of {number : Numeral} {exponent : List Char} (grammatical : number.Grammatical)
      (form : ExponentForm exponent number.exponent) :
      NumberForm ((if number.negative then ['-'] else []) ++
        (number.whole ++ (spellFraction number.fraction ++ exponent))) number

/-! ### Whole texts -/

def Token.Whole : Token → Prop
  | brokenText _ | broken _ => False
  | _ => True

inductive Spelled : List Char → Token → Prop
  | number {spelled : List Char} {value : Numeral} (form : NumberForm spelled value) :
      Spelled spelled (.number value)
  | text {body : List Char} {content : Option String} (quotable : Quotable body)
      (denotes : ∀ text : String, content = some text ↔ Denotes body text.toList) :
      Spelled ('"' :: (body ++ ['"'])) (.text content)
  | nullWord : Spelled ['n', 'u', 'l', 'l'] .null
  | trueWord : Spelled ['t', 'r', 'u', 'e'] (.bool true)
  | falseWord : Spelled ['f', 'a', 'l', 's', 'e'] (.bool false)
  | openArray : Spelled ['['] .openArray
  | closeArray : Spelled [']'] .closeArray
  | openObject : Spelled ['\x7b'] .openObject
  | closeObject : Spelled ['\x7d'] .closeObject
  | comma : Spelled [','] .comma
  | colon : Spelled [':'] .colon

def Space (input : List Char) : Prop := ∀ c ∈ input, c ∈ [' ', '\t', '\n', '\r']

inductive Spelling : List Char → List Token → Prop
  | done {space : List Char} (blank : Space space) : Spelling space []
  | token {space spelled rest : List Char} {token : Token} {tokens : List Token}
      (blank : Space space) (first : Spelled spelled token) (others : Spelling rest tokens) :
      Spelling (space ++ (spelled ++ rest)) (token :: tokens)

/-- The text is the value, spelled in one of the ways there are. -/
def Tree.SpelledBy (tree : Tree) (text : String) : Prop := Spelling text.toList tree.tokens

end ScopedGrants.Json
