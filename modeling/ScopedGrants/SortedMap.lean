/-!
Finite maps as lists of entries in strictly ascending order of their keys, so that two maps with
the same contents are equal and every listing is in key order.
-/

namespace ScopedGrants

/-- A finite map whose entries are kept in strictly ascending order of their keys. -/
@[ext] structure SortedMap (κ : Type) (α : Type) [Ord κ] where
  entries : List (κ × α)
  sorted : entries.Pairwise fun a b => compare a.1 b.1 = .lt

namespace SortedMap

variable {κ α : Type} [Ord κ]

instance [DecidableEq κ] [DecidableEq α] : DecidableEq (SortedMap κ α) := fun a b =>
  decidable_of_iff (a.entries = b.entries) SortedMap.ext_iff.symm

def empty : SortedMap κ α := ⟨[], .nil⟩

instance : EmptyCollection (SortedMap κ α) := ⟨empty⟩
instance : Inhabited (SortedMap κ α) := ⟨empty⟩

def get? (map : SortedMap κ α) (key : κ) : Option α :=
  (map.entries.find? fun entry => compare entry.1 key == .eq).map (·.2)

def contains (map : SortedMap κ α) (key : κ) : Bool := (map.get? key).isSome

def size (map : SortedMap κ α) : Nat := map.entries.length

def isEmpty (map : SortedMap κ α) : Bool := map.entries.isEmpty

/-- Puts an entry into an ascending list, in the place of one with an equal key. -/
def place (key : κ) (value : α) : List (κ × α) → List (κ × α)
  | [] => [(key, value)]
  | entry :: rest =>
    match compare key entry.1 with
    | .lt => (key, value) :: entry :: rest
    | .eq => (key, value) :: rest
    | .gt => entry :: place key value rest

theorem of_mem_place {key : κ} {value : α} {entries : List (κ × α)} {entry : κ × α}
    (h : entry ∈ place key value entries) : entry = (key, value) ∨ entry ∈ entries := by
  induction entries with
  | nil => simpa [place] using h
  | cons first rest ih => grind [place]

variable [Std.TransOrd κ]

theorem place_sorted {key : κ} {value : α} {entries : List (κ × α)}
    (h : entries.Pairwise fun a b => compare a.1 b.1 = .lt) :
    (place key value entries).Pairwise fun a b => compare a.1 b.1 = .lt := by
  induction entries with
  | nil => simp [place]
  | cons first rest ih =>
    obtain ⟨below, sorted⟩ := List.pairwise_cons.1 h
    unfold place
    split
    case h_1 order =>
      refine List.pairwise_cons.2 ⟨fun entry member => ?_, h⟩
      rcases List.mem_cons.1 member with rfl | member
      · exact order
      · exact Std.TransCmp.lt_trans order (below entry member)
    case h_2 order =>
      refine List.pairwise_cons.2 ⟨fun entry member => ?_, sorted⟩
      exact Std.TransCmp.lt_of_eq_of_lt order (below entry member)
    case h_3 order =>
      refine List.pairwise_cons.2 ⟨fun entry member => ?_, ih sorted⟩
      rcases of_mem_place member with rfl | member
      · exact Std.OrientedCmp.lt_of_gt order
      · exact below entry member

def insert (map : SortedMap κ α) (key : κ) (value : α) : SortedMap κ α :=
  ⟨place key value map.entries, place_sorted map.sorted⟩

/-- Stores every entry of the list in turn, so that the last one of a key stays. -/
def insertMany (map : SortedMap κ α) (entries : List (κ × α)) : SortedMap κ α :=
  entries.foldl (fun map entry => map.insert entry.1 entry.2) map

def ofList (entries : List (κ × α)) : SortedMap κ α := empty.insertMany entries

end ScopedGrants.SortedMap
