import ScopedGrants.Proofs.Grant.Canonical

/-!
Editing as work on a map. A list in good order stands for a map from principals to grants that
remembers when each principal came in, and every edit of the list is an edit of the map.
-/

namespace ScopedGrants.Grants

structure Ledger where
  principals : List String
  held : String → Option Grant
  distinct : principals.Nodup
  named : "" ∉ principals
  known : ∀ principal, principal ∈ principals ↔ (held principal).isSome
  own : ∀ principal grant, held principal = some grant → grant.principal = principal

namespace Ledger

variable {grants : List Grant} {grant : Grant} {ledger : Ledger}

def list (ledger : Ledger) : List Grant := ledger.principals.filterMap ledger.held

theorem mem_list : grant ∈ ledger.list ↔ ledger.held grant.principal = some grant := by
  rw [list, List.mem_filterMap]
  constructor
  · rintro ⟨principal, -, held⟩
    rw [ledger.own principal grant held]
    exact held
  · intro held
    have known := (ledger.known grant.principal).mpr (by simp [held])
    exact ⟨grant.principal, known, held⟩

theorem list_principals (ledger : Ledger) : ledger.list.map (·.principal) = ledger.principals := by
  have each : ∀ principal ∈ ledger.principals,
      (ledger.held principal).map (·.principal) = some principal := by
    intro principal member
    obtain ⟨grant, held⟩ := Option.isSome_iff_exists.mp ((ledger.known principal).mp member)
    rw [held, Option.map_some, ledger.own principal grant held]
  rw [list, List.map_filterMap, List.filterMap_congr each, List.filterMap_some]

theorem list_canonical (ledger : Ledger) : Canonical ledger.list where
  named grant member nobody := by
    have held := mem_list.mp member
    have known := (ledger.known grant.principal).mpr (by simp [held])
    exact ledger.named (nobody ▸ known)
  distinct := by
    rw [list_principals]
    exact ledger.distinct

/-- A list with the principals of a ledger, each with what it holds there, is the ledger's list. -/
theorem eq_list (order : grants.map (·.principal) = ledger.principals)
    (held : ∀ grant ∈ grants, ledger.held grant.principal = some grant) :
    grants = ledger.list := by
  have looked_up : grants.filterMap (ledger.held ∘ (·.principal)) = grants.filterMap some :=
    List.filterMap_congr held
  rw [list, ← order, List.filterMap_map, looked_up, List.filterMap_some]

def ofList (grants : List Grant) (canonical : Canonical grants) : Ledger where
  principals := grants.map (·.principal)
  held principal := grants.find? (·.principal = principal)
  distinct := canonical.distinct
  named member := by
    obtain ⟨grant, present, nobody⟩ := List.mem_map.mp member
    exact canonical.named grant present nobody
  known principal := by simp
  own principal grant found := by simpa using List.find?_some found

theorem list_ofList (canonical : Canonical grants) : (ofList grants canonical).list = grants := by
  refine (eq_list rfl ?_).symm
  intro grant member
  show grants.find? (·.principal = grant.principal) = some grant
  cases found : grants.find? (·.principal = grant.principal) with
  | none =>
    have missed := List.find?_eq_none.mp found grant member
    simp at missed
  | some other =>
    have present := List.mem_of_find?_eq_some found
    have same : other.principal = grant.principal := by simpa using List.find?_some found
    rw [List.inj_on_of_nodup_map canonical.distinct present member same]

/-! ### Work on the map -/

/-- Puts a grant in the place of what its principal holds, at the end if that is nothing. -/
def put (ledger : Ledger) (grant : Grant) (somebody : grant.principal ≠ "") : Ledger where
  principals :=
    if grant.principal ∈ ledger.principals then ledger.principals
    else ledger.principals ++ [grant.principal]
  held principal := if principal = grant.principal then some grant else ledger.held principal
  distinct := by
    split
    · exact ledger.distinct
    · rename_i new
      exact ledger.distinct.append (List.nodup_singleton _) (by simpa using new)
  named := by
    split
    · exact ledger.named
    · simp [ledger.named, somebody.symm]
  known principal := by
    have known := ledger.known principal
    by_cases same : principal = grant.principal
    · split <;> simp_all
    · split <;> simp_all
  own principal other held := by
    split at held
    · rename_i same
      cases held
      exact same.symm
    · exact ledger.own principal other held

def erase (ledger : Ledger) (drop : Grant → Bool) : Ledger where
  principals := ledger.principals.filter fun principal => (ledger.held principal).all (! drop ·)
  held principal := (ledger.held principal).filter (! drop ·)
  distinct := ledger.distinct.filter _
  named member := ledger.named (List.mem_filter.mp member).1
  known principal := by
    rw [List.mem_filter, ledger.known]
    cases ledger.held principal <;> simp
  own principal grant held := ledger.own principal grant (Option.filter_eq_some_iff.mp held).1

/-- Puts a grant in where its principal holds none, or one of a strictly lower role. -/
def raise (ledger : Ledger) (grant : Grant) (somebody : grant.principal ≠ "") : Ledger :=
  match ledger.held grant.principal with
  | none => ledger.put grant somebody
  | some kept => if kept.role < grant.role then ledger.put grant somebody else ledger

def replace (ledger : Ledger) (grant : Grant) (somebody : grant.principal ≠ "") : Ledger :=
  (ledger.erase (·.principal = grant.principal)).put grant somebody

def apply (ledger : Ledger) : Edit → Except InvalidGrant Ledger
  | .deduplicate => .ok ledger
  | .upsert grant =>
    if blank : Text.blank grant.principal then .error .blankPrincipal
    else .ok (ledger.raise grant (ne_nobody (by simpa using blank)))
  | .set grant =>
    if blank : Text.blank grant.principal then .error .blankPrincipal
    else .ok (ledger.replace grant (ne_nobody (by simpa using blank)))
  | .revoke principal => .ok (ledger.erase fun grant => Principal.Same grant.principal principal)
  | .prune now => .ok (ledger.erase fun grant => grant.expires.any (· ≤ now))

def next (ledger : Ledger) (edit : Edit) : Ledger :=
  match ledger.apply edit with
  | .ok edited => edited
  | .error _ => ledger

def run (ledger : Ledger) : List Edit → Ledger
  | [] => ledger
  | edit :: rest => (ledger.next edit).run rest

/-! ### What becomes of the list -/

variable {somebody : grant.principal ≠ ""}

theorem held_put (principal : String) : (ledger.put grant somebody).held principal =
    if principal = grant.principal then some grant else ledger.held principal := rfl

theorem list_put_new (new : ledger.held grant.principal = none) :
    (ledger.put grant somebody).list = ledger.list ++ [grant] := by
  have absent : grant.principal ∉ ledger.principals := by simp [ledger.known, new]
  refine (eq_list ?_ ?_).symm
  · rw [List.map_append, list_principals]
    exact (if_neg absent).symm
  · intro other member
    rw [held_put]
    rcases List.mem_append.mp member with earlier | last
    · have held := mem_list.mp earlier
      have different : other.principal ≠ grant.principal := by
        intro same
        rw [same, new] at held
        cases held
      rw [if_neg different, held]
    · rw [List.mem_singleton.mp last, if_pos rfl]

theorem list_erase (ledger : Ledger) (drop : Grant → Bool) :
    (ledger.erase drop).list = ledger.list.filter (! drop ·) := by
  refine (eq_list ?_ ?_).symm
  · show _ = ledger.principals.filter fun principal => (ledger.held principal).all (! drop ·)
    rw [← list_principals, List.filter_map]
    congr 1
    apply List.filter_congr
    intro grant member
    rw [Function.comp_apply, mem_list.mp member, Option.all_some]
  · intro grant member
    obtain ⟨present, kept⟩ := List.mem_filter.mp member
    show (ledger.held grant.principal).filter (! drop ·) = some grant
    rw [mem_list.mp present, Option.filter_some, if_pos kept]

theorem raise_new (new : ledger.held grant.principal = none) :
    ledger.raise grant somebody = ledger.put grant somebody := by
  unfold raise
  rw [new]

theorem raise_known {kept : Grant} (held : ledger.held grant.principal = some kept) :
    ledger.raise grant somebody =
      if kept.role < grant.role then ledger.put grant somebody else ledger := by
  unfold raise
  rw [held]

theorem list_raise : (ledger.raise grant somebody).list = absorb grant ledger.list := by
  cases held : ledger.held grant.principal with
  | none =>
    have new : ∀ other ∈ ledger.list, other.principal ≠ grant.principal := by
      intro other member same
      have found := mem_list.mp member
      rw [same, held] at found
      cases found
    rw [raise_new held, list_put_new held, absorb_new new]
  | some kept =>
    have own := ledger.own grant.principal kept held
    have present : kept ∈ ledger.list := mem_list.mpr (own ▸ held)
    have known : grant.principal ∈ ledger.principals := by simp [ledger.known, held]
    have distinct := ledger.list_canonical.distinct
    rw [raise_known held]
    refine (eq_list ?_ ?_).symm
    · rw [absorb_principals, list_principals, if_pos known]
      split
      · exact (if_pos known).symm
      · rfl
    · intro other member
      rcases (mem_absorb distinct).mp member with ⟨stays, outranks⟩ | ⟨rfl, above⟩
      · have found := mem_list.mp stays
        split
        case isTrue lower =>
          have different : other.principal ≠ grant.principal := by
            intro same
            rw [same, held] at found
            cases found
            exact absurd lower (not_lt.mpr (outranks same.symm))
          rw [held_put, if_neg different, found]
        case isFalse => exact found
      · rw [if_pos (above kept present own), held_put, if_pos rfl]

theorem list_replace : (ledger.replace grant somebody).list =
    ledger.list.filter (·.principal ≠ grant.principal) ++ [grant] := by
  have gone : (ledger.erase (·.principal = grant.principal)).held grant.principal = none := by
    show (ledger.held grant.principal).filter _ = none
    rw [Option.filter_eq_none_iff]
    intro other held
    simp [ledger.own grant.principal other held]
  rw [replace, list_put_new gone, list_erase]
  simp

/-- Every edit does to the list what it does to the ledger, and both turn away the same grants. -/
theorem apply_list (ledger : Ledger) (edit : Edit) :
    edit.apply ledger.list = (ledger.apply edit).map list := by
  have canonical := ledger.list_canonical
  cases edit with
  | deduplicate => exact congrArg Except.ok canonical.deduplicate
  | upsert grant =>
    show upsert ledger.list grant = _
    simp only [apply]
    split
    case isTrue blank => exact upsert_rejected blank
    case isFalse named =>
      rw [canonical.upsert (by simpa using named), ← list_raise]
      rfl
  | set grant =>
    show set ledger.list grant = _
    simp only [apply]
    split
    case isTrue blank => exact set_rejected blank
    case isFalse named =>
      rw [canonical.set (by simpa using named), ← list_replace]
      rfl
  | revoke principal =>
    show Except.ok (revoke ledger.list principal) = Except.ok _
    rw [list_erase, revoke]
    simp
  | prune now =>
    show Except.ok (prune ledger.list now) = Except.ok _
    rw [list_erase, prune]
    simp [Grant.expiredAt]

theorem next_list (ledger : Ledger) (edit : Edit) :
    edit.next ledger.list = (ledger.next edit).list := by
  rw [Edit.next, next, apply_list]
  cases ledger.apply edit <;> rfl

theorem run_list (ledger : Ledger) (edits : List Edit) :
    Grants.run ledger.list edits = (ledger.run edits).list := by
  induction edits generalizing ledger with
  | nil => rfl
  | cons edit rest ih => rw [Grants.run, next_list, ih, run]

end Ledger

/-- Editing refines a map that remembers the order of its keys. What has been deduplicated, raised
or replaced is in good order, and from there on every edit does to the list what it does to the
ledger of the list, whatever edits have come before, and turns away what the ledger turns away. -/
theorem edits_refine_ledger :
    (∀ grants, Canonical (deduplicate grants)) ∧
    (∀ grants grant edited, upsert grants grant = .ok edited → Canonical edited) ∧
    (∀ grants grant edited, set grants grant = .ok edited → Canonical edited) ∧
    ∀ (grants : List Grant) (canonical : Canonical grants),
      deduplicate grants = grants ∧
      (∀ principal, Canonical (revoke grants principal)) ∧
      (∀ now, Canonical (prune grants now)) ∧
      ∀ edits,
        let ledger := (Ledger.ofList grants canonical).run edits
        run grants edits = ledger.list ∧
          ∀ edit : Edit, edit.apply (run grants edits) = (ledger.apply edit).map Ledger.list := by
  refine ⟨deduplicate_canonical, fun _ _ _ => edited_canonical, fun _ _ _ => edited_canonical, ?_⟩
  intro grants canonical
  refine ⟨canonical.deduplicate, fun _ => canonical.filter _, fun _ => canonical.filter _, ?_⟩
  intro edits ledger
  have same : run grants edits = ledger.list := by
    rw [← Ledger.run_list, Ledger.list_ofList]
  refine ⟨same, fun edit => ?_⟩
  rw [same]
  exact ledger.apply_list edit

/-- One grant is raised in its place, one put at the end and revoked there in another case, and one
turned away. -/
theorem edits_refine_ledger_ann :
    ∃ canonical : Canonical [⟨"bob", .owner, none, none⟩, ⟨"ann", .viewer, none, none⟩],
      ((Ledger.ofList _ canonical).run [.upsert ⟨"ann", .editor, none, some 5⟩,
        .set ⟨"bob", .viewer, none, none⟩, .upsert ⟨"carol", .viewer, none, none⟩,
        .set ⟨" ", .owner, none, none⟩, .revoke "BOB"]).list =
        [⟨"ann", .editor, none, some 5⟩, ⟨"carol", .viewer, none, none⟩] := by
  have canonical : Canonical [⟨"bob", .owner, none, none⟩, ⟨"ann", .viewer, none, none⟩] :=
    ⟨by decide, by decide⟩
  have refined := (edits_refine_ledger.2.2.2 _ canonical).2.2.2
    [.upsert ⟨"ann", .editor, none, some 5⟩, .set ⟨"bob", .viewer, none, none⟩,
      .upsert ⟨"carol", .viewer, none, none⟩, .set ⟨" ", .owner, none, none⟩, .revoke "BOB"]
  exact ⟨canonical, refined.1.symm.trans (by decide +kernel)⟩

end ScopedGrants.Grants
