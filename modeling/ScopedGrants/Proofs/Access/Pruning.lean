import Mathlib.Data.List.Count
import ScopedGrants.Proofs.Access.Authorizer
import ScopedGrants.Proofs.Grant.HighestLive

/-!
Dropping what has expired. No record that is dropped could ever be used again, so nothing that is
asked from then on tells pruned lists from those they were made of, be they the grants of a project,
of a secret or of an organization.
-/

namespace ScopedGrants

open Grants

variable {since now : Instant}

/-! ### One record -/

namespace Grant

variable {grant : Grant}

theorem expiredAt_iff :
    grant.expiredAt now = true ↔ ∃ expiry, grant.expires = some expiry ∧ expiry ≤ now := by
  rw [expiredAt, Option.any_eq_true]
  simp only [decide_eq_true_eq]

theorem expiredAt_mono (later : since ≤ now) (expired : grant.expiredAt since = true) :
    grant.expiredAt now = true := by
  obtain ⟨expiry, bound, passed⟩ := expiredAt_iff.mp expired
  exact expiredAt_iff.mpr ⟨expiry, bound, Int64.le_trans passed later⟩

theorem not_inWindow_of_expiredAt (later : since ≤ now) (expired : grant.expiredAt since = true) :
    ¬ grant.InWindow now := by
  intro window
  obtain ⟨expiry, bound, passed⟩ := expiredAt_iff.mp (expiredAt_mono later expired)
  exact Int64.not_lt.mpr passed (window.lasting expiry bound)

structure PendingAt (grant : Grant) (now : Instant) : Prop where
  ahead : ∃ start, grant.notBefore = some start ∧ now < start
  lasting : ∀ expiry, grant.expires = some expiry → now < expiry

theorem PendingAt.not_expiredAt (pending : grant.PendingAt now) : ¬ grant.expiredAt now = true := by
  intro expired
  obtain ⟨expiry, bound, passed⟩ := expiredAt_iff.mp expired
  exact Int64.not_lt.mpr passed (pending.lasting expiry bound)

theorem PendingAt.not_inWindow (pending : grant.PendingAt now) : ¬ grant.InWindow now := by
  intro window
  obtain ⟨start, bound, later⟩ := pending.ahead
  exact Int64.not_lt.mpr (window.begun start bound) later

end Grant

/-! ### The list -/

namespace Grants

variable {grants : List Grant} {grant : Grant}

theorem mem_prune :
    grant ∈ prune grants since ↔ grant ∈ grants ∧ ¬ grant.expiredAt since = true := by
  rw [prune, List.mem_filter, decide_eq_true_eq]

theorem count_prune (grants : List Grant) (since : Instant) (grant : Grant) :
    (prune grants since).count grant = if grant.expiredAt since then 0 else grants.count grant := by
  split
  case isTrue expired =>
    apply List.count_eq_zero.mpr
    intro member
    exact (mem_prune.mp member).2 expired
  case isFalse lasting => exact List.count_filter (decide_eq_true lasting)

theorem prune_prune (grants : List Grant) (later : since ≤ now) :
    prune (prune grants since) now = prune grants now := by
  rw [prune, prune, prune, List.filter_filter]
  apply List.filter_congr
  intro grant _
  rw [Bool.and_eq_left_iff_imp, decide_eq_true_eq, decide_eq_true_eq]
  exact mt (Grant.expiredAt_mono later)

theorem prune_comm (grants : List Grant) (since now : Instant) :
    prune (prune grants since) now = prune (prune grants now) since :=
  List.filter_comm _ _ grants

theorem liveRoles_prune (grants : List Grant) (later : since ≤ now) :
    liveRoles (prune grants since) now = liveRoles grants now := by
  apply liveRoles_congr
  intro grant window
  rw [mem_prune]
  exact and_iff_left fun expired => Grant.not_inWindow_of_expiredAt later expired window

end Grants

/-! ### The resource -/

structure ResourceGrants.Pruned (since : Instant) (grants pruned : ResourceGrants) : Prop where
  users : pruned.users = grants.users ∨ pruned.users = prune grants.users since
  groups : pruned.groups = grants.groups ∨ pruned.groups = prune grants.groups since

theorem ResourceGrants.Pruned.active {grants pruned : ResourceGrants}
    (dropped : grants.Pruned since pruned) (later : since ≤ now) :
    pruned.active now = grants.active now := by
  have same : ∀ {stored kept : List Grant}, kept = stored ∨ kept = prune stored since →
      liveRoles kept now = liveRoles stored now := by
    rintro stored kept (rfl | rfl)
    · rfl
    · exact liveRoles_prune stored later
  rw [ResourceGrants.active, ResourceGrants.active, same dropped.users, same dropped.groups]

/-! ### Checks -/

variable {ε : Type}

/-- From the instant on one source of organization grants answers as the other does, or with what
pruned grants come to where the other answers with what the grants themselves do. -/
def Resolver.Pruned (since : Instant) (resolver pruned : Resolver ε) : Prop :=
  ∀ name now, since ≤ now → pruned name now = resolver name now ∨
    ∃ stored kept : ResourceGrants, stored.Pruned since kept ∧
      resolver name now = .ok (stored.active now) ∧ pruned name now = .ok (kept.active now)

theorem Resolver.Pruned.eq {resolver pruned : Resolver ε}
    (dropped : Resolver.Pruned since resolver pruned) (later : since ≤ now) (name : String) :
    pruned name now = resolver name now := by
  rcases dropped name now later with same | ⟨stored, kept, fewer, answer, answer'⟩
  · exact same
  · rw [answer, answer', fewer.active later]

theorem Check.settle_pruned {resolver pruned : Option (Resolver ε)}
    (dropped : Option.Rel (Resolver.Pruned since) resolver pruned) (later : since ≤ now)
    (check : Check) : check.settle pruned now = check.settle resolver now := by
  cases check with
  | decided decision => rfl
  | ask name resume =>
    cases dropped with
    | none => rfl
    | some fewer => simp only [Check.settle, fewer.eq later]

namespace Authorizer

/-- Pruning is not seen from its instant on: not in who can use which role, nor in any best role or
check, whichever of the grants of a project, a secret and the organizations have been pruned. It
drops the records that have expired, none of which is ever in its window again, and keeps all others
in order. Those that are yet to begin are kept too, though they are of no use so far, unless their
window ends before it begins: such a record is dropped once it has expired. Pruning for an earlier
instant adds nothing to pruning for a later one. -/
theorem prune_unseen (since : Instant) :
    (∀ grants pruned : ResourceGrants, grants.Pruned since pruned → ∀ now, since ≤ now →
      pruned.active now = grants.active now) ∧
    (∀ (ε : Type) (settings : Settings) (resolver others : Option (Resolver ε)),
      Option.Rel (Resolver.Pruned since) resolver others → ∀ (caller : Caller) (now : Instant),
      since ≤ now →
      let before : Authorizer ε := ⟨settings, resolver⟩
      let after : Authorizer ε := ⟨settings, others⟩
      (∀ grants pruned, grants.Pruned since pruned →
        after.bestRole caller pruned now = before.bestRole caller grants now) ∧
      (∀ name permission, after.checkOrganization caller name permission now =
        before.checkOrganization caller name permission now) ∧
      (∀ (project : Project) (pruned : ResourceGrants) (permission : Permission),
        project.grants.Pruned since pruned →
        after.checkProject caller { project with grants := pruned } permission now =
          before.checkProject caller project permission now) ∧
      ∀ (secret : Secret) (own outer : ResourceGrants) (permission : Permission),
        secret.grants.Pruned since own → secret.project.grants.Pruned since outer →
        after.checkSecret caller { secret with grants := own, project.grants := outer }
            permission now =
          before.checkSecret caller secret permission now) ∧
    ∀ stored : List Grant,
      (∀ grant ∈ stored, grant ∉ prune stored since → ∀ now, since ≤ now → ¬ grant.InWindow now) ∧
      (∀ grant ∈ stored, grant.PendingAt since →
        ¬ grant.InWindow since ∧ grant ∈ prune stored since) ∧
      (prune stored since).Sublist stored ∧
      (∀ grant, (prune stored since).count grant =
        if grant.expiredAt since then 0 else stored.count grant) ∧
      ∀ now, since ≤ now → prune (prune stored since) now = prune stored now ∧
        prune (prune stored now) since = prune stored now := by
  refine ⟨fun _ _ dropped _ later => dropped.active later, ?_, ?_⟩
  · intro ε settings resolver others sources caller now later before after
    refine ⟨?_, ?_, ?_, ?_⟩
    · intro grants pruned dropped
      rw [bestRole, bestRole, dropped.active later]
    · intro name permission
      exact Check.settle_pruned sources later _
    · intro project pruned permission dropped
      rw [checkProject, checkProject, Check.settle_pruned sources later, Check.project,
        Check.project, dropped.active later]
    · intro secret own outer permission dropped around
      simp only [checkSecret, Check.secret, dropped.active later, around.active later]
  · intro stored
    refine ⟨?_, ?_, List.filter_sublist, count_prune stored since, ?_⟩
    · intro grant member gone now later
      have expired : grant.expiredAt since = true := by
        by_contra lasting
        exact gone (mem_prune.mpr ⟨member, lasting⟩)
      exact Grant.not_inWindow_of_expiredAt later expired
    · intro grant member pending
      exact ⟨pending.not_inWindow, mem_prune.mpr ⟨member, pending.not_expiredAt⟩⟩
    · intro now later
      have earlier := prune_prune stored later
      exact ⟨earlier, (prune_comm stored now since).trans earlier⟩

/-- Ann lapses as an owner in the instant of the pruning, and her grant as an editor ends before it
begins. What remains of both lists is a viewer who is yet to begin. -/
theorem prune_unseen_ann :
    let stored : ResourceGrants := ⟨[⟨"ann", .owner, none, some 5⟩,
      ⟨"ann", .editor, some 9, some 4⟩, ⟨"Ann", .viewer, some 6, none⟩], []⟩
    let pruned : ResourceGrants := ⟨[⟨"Ann", .viewer, some 6, none⟩], []⟩
    (⟨{}, some fun _ now => .ok (pruned.active now)⟩ : Authorizer Unit).checkProject ⟨"ann", []⟩
        ⟨"shop", some "acme", pruned⟩ (.project .write) 7 =
      (⟨{}, some fun _ now => .ok (stored.active now)⟩ : Authorizer Unit).checkProject ⟨"ann", []⟩
        ⟨"shop", some "acme", stored⟩ (.project .write) 7 ∧
    ⟨"Ann", .viewer, some 6, none⟩ ∈ prune stored.users 5 := by
  intro stored pruned
  have dropped : stored.Pruned 5 pruned := ⟨.inr (by decide), .inl rfl⟩
  have pending : Grant.PendingAt ⟨"Ann", .viewer, some 6, none⟩ 5 := ⟨⟨6, rfl, by decide⟩, nofun⟩
  obtain ⟨-, checks, lists⟩ := prune_unseen 5
  have sources : Option.Rel (Resolver.Pruned 5)
      (some fun _ now => (.ok (stored.active now) : Except Unit ActiveGrants))
      (some fun _ now => .ok (pruned.active now)) :=
    .some fun _ _ _ => .inr ⟨stored, pruned, dropped, rfl, rfl⟩
  obtain ⟨-, -, project, -⟩ := checks Unit {} _ _ sources ⟨"ann", []⟩ 7 (by decide)
  exact ⟨project ⟨"shop", some "acme", stored⟩ pruned _ dropped,
    ((lists stored.users).2.1 _ (by decide) pending).2⟩

end Authorizer
end ScopedGrants
