import ScopedGrants.Json.Token

/-!
JSON values as trees. A tree tells where its text stopped being JSON, so that a reader who works
through it meets every fault in the order of the text: at a fault the innermost value is broken,
and every array and object around it is cut off there.
-/

namespace ScopedGrants.Json

mutual

inductive Tree where
  | null
  | bool (value : Bool)
  | number (value : Numeral)
  | text (content : Option String)
  | array (items : Items)
  | object (members : Members)
  | broken (cut : Break)
deriving DecidableEq, Repr

inductive Items where
  | closed
  | cutOff (cut : Break)
  | item (value : Tree) (rest : Items)
deriving DecidableEq, Repr

inductive Members where
  | closed
  | cutOff (cut : Break)
  | member (key : Option String) (value : Tree) (rest : Members)
deriving DecidableEq, Repr

end

instance : Inhabited Tree := ⟨.null⟩

namespace Tree

def ofInt (n : Int) : Tree := number (.ofInt n)

def ofText (text : String) : Tree := Tree.text (some text)

def ofList (values : List Tree) : Tree := array (values.foldr .item .closed)

def ofMembers (members : List (String × Tree)) : Tree :=
  object (members.foldr (fun entry rest => .member (some entry.1) entry.2 rest) .closed)

end Tree

mutual

def Tree.tokens : Tree → List Token
  | .null => [.null]
  | .bool value => [.bool value]
  | .number value => [.number value]
  | .text content => [.text content]
  | .array items => .openArray :: items.tokens true
  | .object members => .openObject :: members.tokens true
  | .broken cut => [.broken cut]

/-- The tokens after an item, or after the opening bracket. -/
def Items.tokens (first : Bool) : Items → List Token
  | .closed => [.closeArray]
  | .cutOff cut => [.broken cut]
  | .item value rest =>
    (if first then [] else [.comma]) ++ (value.tokens ++ rest.tokens false)

/-- The tokens after a member, or after the opening brace. -/
def Members.tokens (first : Bool) : Members → List Token
  | .closed => [.closeObject]
  | .cutOff cut => [.broken cut]
  | .member key value rest =>
    (if first then [] else [.comma]) ++ (.text key :: .colon :: (value.tokens ++ rest.tokens false))

end

def Tree.write (tree : Tree) : String := String.ofList (tree.tokens.flatMap Token.spell)

end ScopedGrants.Json
