import ScopedGrants.Json.Decode

/-!
Names out of a fixed choice. A name is spelled as a text, or as an object whose only member has
the name for its key and null for its value.
-/

namespace ScopedGrants.Json.Variant

/-- Reads a text where a name is wanted. Nothing else may stand there, whether it is a value or
not. -/
def name : List Token → Except Fault (String × List Token)
  | [] => .error .truncated
  | .text (some content) :: rest => .ok (content, rest)
  | .brokenText cut :: _ => .error cut.wanted
  | _ :: _ => .error .malformed

def past (token : Token) : List Token → Except Fault (List Token)
  | [] => .error .truncated
  | found :: rest => if found = token then .ok rest else .error .malformed

def read {α : Type} (ofName? : String → Option α) :
    List Token → Except Fault (α × List Token)
  | [] => .error .truncated
  | .openObject :: rest => do
    let (name, rest) ← name rest
    let choice ← required (ofName? name)
    let (value, rest) := Tree.ofTokens (← past .colon rest)
    decodeNull value
    return (choice, ← past .closeObject rest)
  | .text content :: rest => do
    let (name, rest) ← name (.text content :: rest)
    return (← required (ofName? name), rest)
  | .brokenText cut :: _ => .error cut.wanted
  | _ :: _ => .error .malformed

def decode {α : Type} (ofName? : String → Option α) (text : String) : Except Fault α := do
  let (choice, rest) ← read ofName? (tokens text.toList)
  if rest.isEmpty then return choice else .error .malformed

end ScopedGrants.Json.Variant
