import ScopedGrants.Text.Unprintable

/-!
Texts as they are quoted in descriptions of settings and of failed requests: between double
quotes, with what cannot be seen shown by the number of its code point.
-/

namespace ScopedGrants.Text

def describeChar (c : Char) : List Char :=
  match c with
  | '\x00' => ['\\', '0']
  | '\t' => ['\\', 't']
  | '\r' => ['\\', 'r']
  | '\n' => ['\\', 'n']
  | '"' => ['\\', '"']
  | '\\' => ['\\', '\\']
  | c =>
    if isUnprintable c then
      ['\\', 'u', '\x7b'] ++ Nat.toDigits 16 c.toNat ++ ['\x7d']
    else [c]

def describe (text : String) : String :=
  String.ofList ('"' :: (text.toList.flatMap describeChar ++ ['"']))

end ScopedGrants.Text
