import ScopedGrants.Json.Lexer
import ScopedGrants.Json.Tree

/-!
Reading a tree off the tokens of a text. One pass keeps the arrays and objects that are still open
on a stack, so that values may nest to any depth.
-/

namespace ScopedGrants.Json

inductive Frame where
  | array (before : List Tree)
  | object (before : List (Option String × Tree)) (key : Option String)
deriving DecidableEq, Repr

inductive Expected where
  | value
  /-- The first item of an array, or its end. -/
  | itemOrEnd
  /-- The first key of an object, or its end. -/
  | keyOrEnd
  | key (before : List (Option String × Tree))
  | colon (before : List (Option String × Tree)) (key : Option String)
  | afterItem (before : List Tree)
  | afterMember (before : List (Option String × Tree))
deriving DecidableEq, Repr

/-- An array of items, the latest first, with what follows them. -/
def arrayOf (before : List Tree) (rest : Items) : Tree :=
  .array (before.foldl (fun rest value => .item value rest) rest)

def objectOf (before : List (Option String × Tree)) (rest : Members) : Tree :=
  .object (before.foldl (fun rest member => .member member.1 member.2 rest) rest)

/-- A value whose text broke off, within whatever is still open. -/
def breakOff (cut : Break) (tree : Tree) : List Frame → Tree
  | [] => tree
  | .array before :: stack => breakOff cut (arrayOf (tree :: before) (.cutOff cut)) stack
  | .object before key :: stack =>
    breakOff cut (objectOf ((key, tree) :: before) (.cutOff cut)) stack

def abandon (cut : Break) (stack : List Frame) : Expected → Tree
  | .value => breakOff cut (.broken cut) stack
  | .itemOrEnd => breakOff cut (.array (.cutOff cut)) stack
  | .keyOrEnd => breakOff cut (.object (.cutOff cut)) stack
  | .key before | .afterMember before => breakOff cut (objectOf before (.cutOff cut)) stack
  | .colon before key =>
    breakOff cut (objectOf ((key, .broken cut) :: before) (.cutOff cut)) stack
  | .afterItem before => breakOff cut (arrayOf before (.cutOff cut)) stack

inductive Progress where
  | reading (expected : Expected) (stack : List Frame)
  | done (tree : Tree)
deriving DecidableEq, Repr

def deliver (tree : Tree) : List Frame → Progress
  | [] => .done tree
  | .array before :: stack => .reading (.afterItem (tree :: before)) stack
  | .object before key :: stack => .reading (.afterMember ((key, tree) :: before)) stack

def beginValue (stack : List Frame) : Token → Progress
  | .null => deliver .null stack
  | .bool value => deliver (.bool value) stack
  | .number value => deliver (.number value) stack
  | .text content => deliver (.text content) stack
  | .openArray => .reading .itemOrEnd stack
  | .openObject => .reading .keyOrEnd stack
  | .brokenText cut | .broken cut => .done (abandon cut stack .value)
  | .closeArray | .closeObject | .comma | .colon =>
    .done (abandon Fault.malformed.always stack .value)

/-- Reads a key; a token that is no text is out of place. -/
def beginMember (before : List (Option String × Tree)) (stack : List Frame) : Token → Progress
  | .text content => .reading (.colon before content) stack
  | .brokenText cut => .done (abandon cut stack (.key before))
  | _ => .done (abandon Fault.malformed.always stack (.key before))

def Expected.read (expected : Expected) (stack : List Frame) (token : Token) : Progress :=
  match expected, token with
  | .value, token => beginValue stack token
  | .itemOrEnd, .closeArray => deliver (.array .closed) stack
  | .itemOrEnd, token => beginValue (.array [] :: stack) token
  | .keyOrEnd, .closeObject => deliver (.object .closed) stack
  | .keyOrEnd, token => beginMember [] stack token
  | .key before, token => beginMember before stack token
  | .colon before name, .colon => .reading .value (.object before name :: stack)
  | .afterItem before, .comma => .reading .value (.array before :: stack)
  | .afterItem before, .closeArray => deliver (arrayOf before .closed) stack
  | .afterMember before, .comma => .reading (.key before) stack
  | .afterMember before, .closeObject => deliver (objectOf before .closed) stack
  | expected, _ => .done (abandon Fault.malformed.always stack expected)

def readTree (expected : Expected) (stack : List Frame) : List Token → Tree × List Token
  | [] => (abandon Fault.truncated.always stack expected, [])
  | token :: rest =>
    match expected.read stack token with
    | .reading expected stack => readTree expected stack rest
    | .done tree => (tree, rest)

def Tree.ofTokens (tokens : List Token) : Tree × List Token := readTree .value [] tokens

end ScopedGrants.Json
