import ScopedGrants.Json.Reader

/-!
Reading values of given types out of trees. A reader stops at the first thing wrong in the order
of the text: a value of the wrong type counts as soon as it has been read, an array or object of
the wrong type as soon as it begins.
-/

namespace ScopedGrants.Json

abbrev Decoder (α : Type) := Tree → Except Fault α

namespace Tree

def misfit : Tree → Fault
  | broken cut => cut.wanted
  | text none => .malformed
  | number value => value.misfit
  | _ => .mistyped

end Tree

def Items.skip : Items → Except Fault Unit
  | closed => .ok ()
  | cutOff cut => .error cut.skipped
  | item _ rest => rest.skip

def Members.skip : Members → Except Fault Unit
  | closed => .ok ()
  | cutOff cut => .error cut.skipped
  | member _ _ rest => rest.skip

def skip : Decoder Unit
  | .broken cut => .error cut.skipped
  | .array items => items.skip
  | .object members => members.skip
  | _ => .ok ()

/-- A text that has a content. -/
def decodeText : Decoder String
  | .text (some content) => .ok content
  | tree => .error tree.misfit

def decodeInt64 : Decoder Int64
  | .number value => value.toInt64
  | tree => .error tree.misfit

def decodeNull : Decoder Unit
  | .null => .ok ()
  | tree => .error tree.misfit

def decodeOptional {α : Type} (decode : Decoder α) : Decoder (Option α)
  | .null => .ok none
  | tree => some <$> decode tree

/-! ### Values of any type -/

/-- The most arrays and objects, one within the other, that are read. What is only passed over may
nest deeper. -/
def depthLimit : Nat := 127

mutual

/-- Reads a value of any type with everything in it, down to so many levels. -/
def Tree.readAll (levels : Nat) : Tree → Except Fault Unit
  | .null | .bool _ | .text (some _) => .ok ()
  | .text none => .error .malformed
  | .number value => if value.overflows then .error .malformed else .ok ()
  | .array items => if levels = 0 then .error .malformed else items.readAll (levels - 1)
  | .object members => if levels = 0 then .error .malformed else members.readAll (levels - 1)
  | .broken cut => .error cut.wanted

def Items.readAll (levels : Nat) : Items → Except Fault Unit
  | .closed => .ok ()
  | .cutOff cut => .error cut.wanted
  | .item value rest => do
    value.readAll levels
    rest.readAll levels

def Members.readAll (levels : Nat) : Members → Except Fault Unit
  | .closed => .ok ()
  | .cutOff cut => .error cut.wanted
  | .member none _ _ => .error .malformed
  | .member (some _) value rest => do
    value.readAll levels
    rest.readAll levels

end

def decodeAny (within : Nat) : Decoder Unit := Tree.readAll (depthLimit - within)

/-! ### Arrays -/

namespace Items

variable {α : Type}

def decode (read : Decoder α) : Items → Except Fault (List α)
  | closed => .ok []
  | cutOff cut => .error cut.wanted
  | item value rest => do
    let first ← read value
    let others ← rest.decode read
    return first :: others

def next? (read : Decoder α) : Items → Except Fault (Option α × Items)
  | closed => .ok (none, closed)
  | cutOff cut => .error cut.wanted
  | item value rest => do return (some (← read value), rest)

def next (read : Decoder α) (items : Items) : Except Fault (α × Items) := do
  match ← items.next? read with
  | (some value, rest) => return (value, rest)
  | (none, _) => .error .mistyped

def finish : Items → Except Fault Unit
  | closed => .ok ()
  | cutOff cut => .error cut.wanted
  | item .. => .error .malformed

end Items

def decodeList {α : Type} (decode : Decoder α) : Decoder (List α)
  | .array items => items.decode decode
  | tree => .error tree.misfit

/-! ### Objects -/

def Members.fold {σ : Type} (step : σ → String → Tree → Except Fault σ) (state : σ) :
    Members → Except Fault σ
  | closed => .ok state
  | cutOff cut => .error cut.wanted
  | member none _ _ => .error .malformed
  | member (some key) value rest => do rest.fold step (← step state key value)

/-- Reads a field that an object may name but once. -/
def once {α : Type} (seen : Option α) (decode : Decoder α) (value : Tree) :
    Except Fault (Option α) :=
  if seen.isSome then .error .mistyped else some <$> decode value

def required {α : Type} : Option α → Except Fault α
  | some value => .ok value
  | none => .error .mistyped

/-! ### Whole texts -/

/-- Reads a text that holds one value and nothing else. -/
def decode {α : Type} (read : Decoder α) (text : String) : Except Fault α := do
  let (tree, rest) := Tree.ofTokens (tokens text.toList)
  let value ← read tree
  if rest.isEmpty then return value else .error .malformed

end ScopedGrants.Json
