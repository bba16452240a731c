/-!
TOML documents as tables, and the rules by which a document may add to a table. Each table
remembers how it came about: what one part of a document has spelled out in full, no later part
may add to in another way.
-/

namespace ScopedGrants.Toml

inductive Origin where
  /-- Under a header of its own, or as the whole document. -/
  | header
  /-- As part of a longer header. -/
  | implied
  /-- As part of a dotted key. -/
  | dotted
  /-- Between braces. -/
  | inline
deriving DecidableEq, Repr

/-- A value. Numbers are checked when they are read, and then only known to be numbers. -/
inductive Node where
  | text (content : String)
  | flag (value : Bool)
  | number
  | moment
  | array (items : List Node)
  | table (origin : Origin) (entries : List (String × Node))
  /-- Tables under one header in double brackets, the latest first. -/
  | tables (latest : List (String × Node)) (before : List (List (String × Node)))
deriving Repr

abbrev Entries := List (String × Node)

namespace Entries

/-- Puts a node in the place of what is under a key, or at the end if nothing is. -/
def alter (key : String) (change : Option Node → Option Node) : Entries → Option Entries
  | [] => do return [(key, ← change none)]
  | entry :: rest =>
    if entry.1 = key then do return (key, ← change (some entry.2)) :: rest
    else do return entry :: (← alter key change rest)

/-- Works on the entries of the table under a path of keys, given how that table came about.
Tables that are missing are made up, with the given origin. Dotted keys keep out of tables with a
header of their own; nothing leads into a table between braces. -/
def descend (made : Origin) (work : Origin → Entries → Option Entries) :
    List String → Origin → Entries → Option Entries
  | [], origin, entries => work origin entries
  | key :: path, _, entries =>
    entries.alter key fun
      | none => (descend made work path made []).map (.table made)
      | some (.table origin inner) =>
        if origin = .inline ∨ made = .dotted ∧ origin = .header then none
        else (descend made work path origin inner).map (.table origin)
      | some (.tables latest before) =>
        (descend made work path .header latest).map (.tables · before)
      | some _ => none

/-- Adds a value under a dotted key. The last part of the key must be new, and the table it lies
in must have come about by a dotted key if the key has other parts, and not otherwise. -/
def define (path : List String) (key : String) (value : Node) (origin : Origin)
    (entries : Entries) : Option Entries :=
  descend .dotted (fun origin entries =>
    if decide (origin = .dotted) = path.isEmpty then none
    else if entries.any (·.1 = key) then none
    else some (entries ++ [(key, value)])) path origin entries

/-- Opens the table of a header, which may so far have been implied at most. -/
def openTable (path : List String) (key : String) (entries : Entries) : Option Entries :=
  descend .implied (fun _ entries =>
    entries.alter key fun
      | none => some (.table .header [])
      | some (.table .implied inner) => some (.table .header inner)
      | some _ => none) path .header entries

def openItem (path : List String) (key : String) (entries : Entries) : Option Entries :=
  descend .implied (fun _ entries =>
    entries.alter key fun
      | none => some (.tables [] [])
      | some (.tables latest before) => some (.tables [] (latest :: before))
      | some _ => none) path .header entries

def defineUnder (header : List String) (path : List String) (key : String) (value : Node)
    (entries : Entries) : Option Entries :=
  descend .implied (define path key value) header .header entries

end Entries
end ScopedGrants.Toml
