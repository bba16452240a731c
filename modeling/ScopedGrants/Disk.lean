import ScopedGrants.Files

/-!
Files held in memory, in folders, and the paths that lead to them. A path is walked step by step,
and every step but the first sets out from a folder that is really there, even where it leads back
up.
-/

namespace ScopedGrants

/-- Files by the names on the way from the root to them, and the way to the folder that paths start
from. -/
structure Disk where
  home : List String
  files : List (List String × File)

namespace Disk

def steps (path : String) : List String := (path.toList.splitOn '/').map String.ofList

/-- Where a path starts: at the root, if a slash stands at its front, and at home otherwise. -/
def start (home : List String) (path : String) : List String :=
  if path.toList.head? = some '/' then [] else home

/-- Where a step leads to from a folder. Nothing lies above the root. -/
def step (place : List String) (name : String) : List String :=
  if name = "" ∨ name = "." then place
  else if name = ".." then place.dropLast
  else place ++ [name]

def ofList (home : List String) (files : List (String × File)) : Disk where
  home
  files := files.map fun (path, file) => ((steps path).foldl step (start home path), file)

/-- What is at a place. Whatever lies on the way to home or to a file is a folder. -/
def look (disk : Disk) (place : List String) : Option File :=
  if place.isPrefixOf disk.home
      ∨ disk.files.any fun (other, _) => place.isPrefixOf other ∧ place ≠ other then
    some .folder
  else disk.files.lookup place

def walk (disk : Disk) (place : List String) : List String → Option (List String)
  | [] => some place
  | name :: rest =>
    if disk.look place matches some .folder then disk.walk (step place name) rest else none

/-- What a path leads to. The empty path leads nowhere. -/
def find (disk : Disk) (path : String) : Option File :=
  if path = "" then none
  else (disk.walk (start disk.home path) (steps path)).bind disk.look

end Disk
end ScopedGrants
