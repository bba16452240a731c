import ScopedGrants.Cluster.Endpoint
import ScopedGrants.Proofs.Json.MergePatch
import ScopedGrants.Proofs.SortedMap

/-!
Manifests under patches. The patch that adds annotations, applied to the manifest of an object,
makes the manifest of the object with these annotations, whatever else the manifest holds.
-/

namespace ScopedGrants.Cluster

open Json

/-! ### Maps of texts -/

def insertText (map : SortedMap String String) (key : String) (value : Tree) :
    Except Fault (SortedMap String String) := do
  return map.insert key (← decodeText value)

theorem field_text (key : String) :
    Field insertText key decodeText fun map text => map.insert key text where
  here map value := by
    rw [insertText, map_eq_pure_bind]
  elsewhere map content other value different := by
    rw [insertText, insertText]
    cases decodeText value with
    | error fault => rfl
    | ok text =>
      refine congrArg Except.ok (SortedMap.ext_get? fun sought => ?_)
      rw [SortedMap.get?_insert, SortedMap.get?_insert, SortedMap.get?_insert,
        SortedMap.get?_insert]
      by_cases first : other = sought
      · have apart : key ≠ sought := fun same => different (first.trans same.symm)
        simp [first, apart]
      · simp [first]
  again map earlier later := by
    refine SortedMap.ext_get? fun sought => ?_
    simp only [SortedMap.get?_insert]
    split <;> rfl

theorem put_texts (texts : List (String × String)) {entries : List (String × Tree)}
    {map : SortedMap String String}
    (accepted : entries.foldlM (takeIn insertText) .empty = .ok map) :
    (texts.foldl (fun entries entry => putField entry.1 (.ofText entry.2) entries)
      entries).foldlM (takeIn insertText) .empty = .ok (map.insertMany texts) := by
  induction texts generalizing entries map with
  | nil => exact accepted
  | cons entry texts ih => exact ih ((field_text entry.1).put rfl accepted)

/-! ### Metadata -/

namespace Manifest

theorem field_annotations : Field metadataStep "annotations" (decodeOptional decodeTextMap)
    fun object annotations => { object with annotations } where
  here object value := by
    show (do return { object with annotations := ← decodeOptional decodeTextMap value }) = _
    rw [map_eq_pure_bind]
  elsewhere object content other value different := by
    unfold metadataStep
    split
    · cases decodeOptional decodeText value <;> rfl
    · cases decodeOptional decodeText value <;> rfl
    · cases decodeOptional decodeTextMap value <;> rfl
    · exact absurd rfl different
    · cases otherMetadata.lookup other with
      | none => cases skip value <;> rfl
      | some decode =>
        dsimp only
        cases checked (decodeOptional decode) value <;> rfl
  again object earlier later := rfl

def readMetadata (tree : Tree) : Except Fault Object :=
  (·.getD {}) <$> decodeOptional decodeMetadata tree

theorem field_metadata (kind : Kind) :
    Field (objectStep kind) "metadata" readMetadata fun _ object => object where
  here object value := by
    show (do return (← decodeOptional decodeMetadata value).getD {}) = _
    rw [readMetadata]
    cases decodeOptional decodeMetadata value <;> rfl
  elsewhere object content other value different := by
    unfold objectStep
    split
    · exact absurd rfl different
    · cases exactly "v1" value <;> rfl
    · cases exactly kind.name value <;> rfl
    · cases (otherFields kind).lookup other with
      | none => cases skip value <;> rfl
      | some decode =>
        dsimp only
        cases checked (decodeOptional decode) value <;> rfl
  again object earlier later := rfl

end Manifest

/-! ### The patch that adds annotations -/

namespace Endpoint

def textsOf (annotations : Annotations) : Tree :=
  .ofMembers (annotations.entries.map fun entry => (entry.1, .ofText entry.2))

/-- The patch that adds annotations to an object, which messages have as their body. -/
def patchOf (annotations : Annotations) : Tree :=
  .ofMembers [("metadata", .ofMembers [("annotations", textsOf annotations)])]

theorem patchOf_grammatical (annotations : Annotations) : (patchOf annotations).Grammatical := by
  have texts : (textsOf annotations).Grammatical :=
    Tree.ofMembers_grammatical (List.forall_mem_map.mpr fun entry _ => Tree.ofText_grammatical _)
  exact Tree.ofMembers_grammatical (List.forall_mem_singleton.mpr
    (Tree.ofMembers_grammatical (List.forall_mem_singleton.mpr texts)))

end Endpoint

namespace Manifest

open Endpoint

variable {kind : Kind} {tree : Tree} {object : Object} (annotations : Annotations)

theorem texts_patched {kept : Option (SortedMap String String)}
    (read : decodeOptional decodeTextMap tree = .ok kept) :
    decodeOptional decodeTextMap ((textsOf annotations).applyTo tree) =
      .ok (some ((kept.getD .empty).insertMany annotations.entries)) := by
  -- Null has no members, just as the patch takes it.
  have held : tree.entries.foldlM (takeIn insertText) .empty = .ok (kept.getD .empty) := by
    cases tree with
    | null =>
      cases read
      rfl
    | object members =>
      obtain ⟨map, folded, rfl⟩ := map_eq_ok.mp read
      exact Members.fold_entries folded
    | _ => cases read
  refine map_eq_ok.mpr ⟨_, ?_, rfl⟩
  show decodeTextMap (.ofMembers ((Members.ofEntries _).applyTo tree.entries)) = _
  rw [Members.applyTo_texts]
  exact Members.fold_eq_ok.mpr ⟨_, rfl, put_texts annotations.entries held⟩

theorem metadata_patched (read : readMetadata tree = .ok object) :
    readMetadata ((Tree.ofMembers [("annotations", textsOf annotations)]).applyTo tree) =
      .ok (object.annotate annotations) := by
  have held : tree.entries.foldlM (takeIn metadataStep) {} = .ok object := by
    obtain ⟨found, given, rfl⟩ := map_eq_ok.mp read
    cases tree with
    | null =>
      cases given
      rfl
    | object members =>
      obtain ⟨object, folded, rfl⟩ := map_eq_ok.mp given
      exact Members.fold_entries folded
    | _ => cases given
  have kept := field_annotations.get (·.annotations) (fun _ _ => rfl) (fun _ => rfl) rfl held
  have folded := field_annotations.put (texts_patched annotations kept) held
  refine map_eq_ok.mpr ⟨some (object.annotate annotations), map_eq_ok.mpr ⟨_, ?_, rfl⟩, rfl⟩
  exact Members.fold_eq_ok.mpr ⟨_, rfl, folded⟩

theorem decode_patched (decoded : decode kind tree = .ok object) :
    decode kind ((patchOf annotations).applyTo tree) = .ok (object.annotate annotations) := by
  cases tree with
  | object members =>
    have held : members.entries.foldlM (takeIn (objectStep kind)) {} = .ok object :=
      Members.fold_entries decoded
    have kept := (field_metadata kind).get id (fun _ _ => rfl) (fun _ => rfl) rfl held
    have folded := (field_metadata kind).put (metadata_patched annotations kept) held
    exact Members.fold_eq_ok.mpr ⟨_, rfl, folded⟩
  | _ => cases decoded

end Manifest

end ScopedGrants.Cluster
