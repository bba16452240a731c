import Mathlib.Data.List.Count
import ScopedGrants.Proofs.Access.Authorizer

/-!
What revoking takes away. A principal that is revoked loses everything it held, in whatever case it
was stored, and nobody else loses or gains anything.
-/

namespace ScopedGrants

open Grants

variable {caller : Caller} {permission : Permission} {now : Instant}

/-! ### The list -/

namespace Grants

variable {grant : Grant} {principal : String}

theorem mem_revoke {grants : List Grant} :
    grant ∈ revoke grants principal ↔
      grant ∈ grants ∧ ¬ Principal.Same grant.principal principal := by
  rw [revoke, List.mem_filter, decide_eq_true_eq]

theorem revoke_deduplicate (grants : List Grant) (principal : String) :
    revoke (deduplicate grants) principal = deduplicate (revoke grants principal) := by
  apply filter_deduplicate
  intro one other same
  rw [same]

theorem count_revoke (grants : List Grant) (principal : String) (grant : Grant) :
    (revoke grants principal).count grant =
      if Principal.Same grant.principal principal then 0 else grants.count grant := by
  split
  · rename_i revoked
    apply List.count_eq_zero.mpr
    intro member
    exact (mem_revoke.mp member).2 revoked
  · rename_i spared
    exact List.count_filter (decide_eq_true spared)

theorem permits_revoke {grants : List Grant} {other : String} :
    (∃ grant ∈ revoke grants principal, grant.Permits other permission now) ↔
      ¬ Principal.Same other principal ∧ ∃ grant ∈ grants, grant.Permits other permission now := by
  constructor
  · rintro ⟨grant, member, live, named, granted⟩
    obtain ⟨present, spared⟩ := mem_revoke.mp member
    exact ⟨fun revoked => spared (named.trans revoked), grant, present, live, named, granted⟩
  · rintro ⟨spared, grant, present, live, named, granted⟩
    have member := mem_revoke.mpr ⟨present, fun revoked => spared (named.symm.trans revoked)⟩
    exact ⟨grant, member, live, named, granted⟩

end Grants

/-! ### The resource -/

namespace ResourceGrants

variable {grants : ResourceGrants} {principal : String}

def revokeUser (grants : ResourceGrants) (principal : String) : ResourceGrants :=
  { grants with users := revoke grants.users principal }

def revokeGroup (grants : ResourceGrants) (principal : String) : ResourceGrants :=
  { grants with groups := revoke grants.groups principal }

theorem permit_revokeUser_other (spared : ¬ Principal.Same caller.email principal) :
    (grants.revokeUser principal).Permit caller permission now ↔
      grants.Permit caller permission now := by
  refine or_congr_left ?_
  exact permits_revoke.trans (and_iff_right spared)

theorem permit_revokeUser_self (revoked : Principal.Same caller.email principal) :
    (grants.revokeUser principal).Permit caller permission now ↔
      ({ grants with users := [] } : ResourceGrants).Permit caller permission now := by
  refine or_congr_left ?_
  constructor
  · intro permitted
    exact absurd revoked (permits_revoke.mp permitted).1
  · rintro ⟨grant, member, -⟩
    exact absurd member List.not_mem_nil

theorem permit_revokeGroup :
    (grants.revokeGroup principal).Permit caller permission now ↔
      grants.Permit { caller with groups := caller.groups.filter (¬ Principal.Same · principal) }
        permission now := by
  refine or_congr_right (exists_congr fun group => ?_)
  rw [List.mem_filter, decide_eq_true_eq, and_assoc]
  exact and_congr_right fun _ => permits_revoke

end ResourceGrants

/-! ### Checks -/

namespace Authorizer

variable {ε : Type} {authorizer : Authorizer ε}

/-- Nothing that the caller asks tells the grants from the others, be they those of a project, of a
secret or of the project around a secret. -/
structure SameAccess (authorizer : Authorizer ε) (caller : Caller) (now : Instant)
    (grants others : ResourceGrants) : Prop where
  bestRole : authorizer.bestRole caller grants now = authorizer.bestRole caller others now
  project : ∀ (project : Project) (permission : Permission),
    authorizer.checkProject caller { project with grants := grants } permission now =
      authorizer.checkProject caller { project with grants := others } permission now
  secret : ∀ (secret : Secret) (permission : Permission),
    authorizer.checkSecret caller { secret with grants := grants } permission now =
      authorizer.checkSecret caller { secret with grants := others } permission now
  around : ∀ (secret : Secret) (permission : Permission),
    authorizer.checkSecret caller { secret with project.grants := grants } permission now =
      authorizer.checkSecret caller { secret with project.grants := others } permission now

theorem sameAccess {grants others : ResourceGrants}
    (same : ∀ permission, grants.Permit caller permission now ↔ others.Permit caller permission now) :
    authorizer.SameAccess caller now grants others := by
  have role : caller.bestRole (grants.active now) = caller.bestRole (others.active now) :=
    le_antisymm (bestRole_le fun permission => (same permission).mp)
      (bestRole_le fun permission => (same permission).mpr)
  have decide : ∀ permission, caller.decide (grants.active now) permission =
      caller.decide (others.active now) permission := by
    intro permission
    rw [Caller.decide_eq, Caller.decide_eq, role]
  refine ⟨role, fun project permission => ?_, fun secret permission => ?_,
    fun secret permission => ?_⟩
  · simp only [checkProject, Check.project, decide]
  · simp only [checkSecret, Check.secret, decide]
  · simp only [checkSecret, Check.secret, decide]

/-- Revoking a user or a group takes from those it names all that they held by it, and changes
nothing for anybody else. In the list it leaves everything else in order. -/
theorem revoke_exact (authorizer : Authorizer ε) (grants : ResourceGrants) (principal : String)
    (now : Instant) :
    (∀ caller : Caller, ¬ Principal.Same caller.email principal →
      authorizer.SameAccess caller now (grants.revokeUser principal) grants) ∧
    (∀ caller : Caller, Principal.Same caller.email principal →
      authorizer.SameAccess caller now (grants.revokeUser principal) { grants with users := [] }) ∧
    (∀ caller : Caller, (∀ group ∈ caller.groups, ¬ Principal.Same group principal) →
      authorizer.SameAccess caller now (grants.revokeGroup principal) grants) ∧
    (∀ caller : Caller, authorizer.bestRole caller (grants.revokeGroup principal) now =
      authorizer.bestRole
        { caller with groups := caller.groups.filter (¬ Principal.Same · principal) } grants now) ∧
    ∀ stored : List Grant,
      revoke (deduplicate stored) principal = deduplicate (revoke stored principal) ∧
      (∀ other, revoke (revoke stored principal) other = revoke (revoke stored other) principal) ∧
      (revoke stored principal).Sublist stored ∧
      ∀ grant, (revoke stored principal).count grant =
        if Principal.Same grant.principal principal then 0 else stored.count grant := by
  refine ⟨?_, ?_, ?_, ?_, ?_⟩
  · intro caller spared
    exact sameAccess fun _ => ResourceGrants.permit_revokeUser_other spared
  · intro caller revoked
    exact sameAccess fun _ => ResourceGrants.permit_revokeUser_self revoked
  · intro caller spared
    have stays : caller.groups.filter (¬ Principal.Same · principal) = caller.groups :=
      List.filter_eq_self.mpr fun group belongs => decide_eq_true (spared group belongs)
    apply sameAccess
    intro permission
    rw [ResourceGrants.permit_revokeGroup, stays]
  · intro caller
    exact le_antisymm (bestRole_le fun _ => ResourceGrants.permit_revokeGroup.mp)
      (bestRole_le fun _ => ResourceGrants.permit_revokeGroup.mpr)
  · intro stored
    refine ⟨revoke_deduplicate stored principal, ?_, List.filter_sublist,
      count_revoke stored principal⟩
    intro other
    exact List.filter_comm _ _ stored

/-- Ann is revoked in other letters than she is stored in, and so is a group. Bob and the other group
keep what they have. -/
theorem revoke_exact_ann :
    ((⟨{}, none⟩ : Authorizer Unit).checkProject ⟨"ann", []⟩ ⟨"shop", none,
      ResourceGrants.revokeUser ⟨[⟨"Ann", .owner, none, none⟩, ⟨"bob", .viewer, none, none⟩], []⟩
        "ANN"⟩ (.project .read) 7).decision = .denied ∧
    ((⟨{}, none⟩ : Authorizer Unit).checkProject ⟨"bob", []⟩ ⟨"shop", none,
      ResourceGrants.revokeUser ⟨[⟨"Ann", .owner, none, none⟩, ⟨"bob", .viewer, none, none⟩], []⟩
        "ANN"⟩ (.project .read) 7).decision = .allowed ∧
    ((⟨{}, none⟩ : Authorizer Unit).checkProject ⟨"cid", ["dev"]⟩ ⟨"shop", none,
      ResourceGrants.revokeGroup ⟨[], [⟨"Ops", .owner, none, none⟩, ⟨"Dev", .viewer, none, none⟩]⟩
        "OPS"⟩ (.project .read) 7).decision = .allowed := by
  have users := revoke_exact (⟨{}, none⟩ : Authorizer Unit)
    ⟨[⟨"Ann", .owner, none, none⟩, ⟨"bob", .viewer, none, none⟩], []⟩ "ANN" 7
  have groups := revoke_exact (⟨{}, none⟩ : Authorizer Unit)
    ⟨[], [⟨"Ops", .owner, none, none⟩, ⟨"Dev", .viewer, none, none⟩]⟩ "OPS" 7
  have ann := (users.2.1 ⟨"ann", []⟩ (by decide +kernel)).project ⟨"shop", none, {}⟩
    (.project .read)
  have bob := (users.1 ⟨"bob", []⟩ (by decide +kernel)).project ⟨"shop", none, {}⟩
    (.project .read)
  have cid := (groups.2.2.1 ⟨"cid", ["dev"]⟩ (by decide +kernel)).project ⟨"shop", none, {}⟩
    (.project .read)
  refine ⟨?_, ?_, ?_⟩
  · rw [ann]
    decide +kernel
  · rw [bob]
    decide +kernel
  · rw [cid]
    decide +kernel

end Authorizer
end ScopedGrants
