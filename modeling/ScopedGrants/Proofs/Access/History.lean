import ScopedGrants.Proofs.Access.Dominance
import ScopedGrants.Proofs.Grant.History

/-!
Access by grants that have been edited. However a list was edited, it allows nothing that it would
not have allowed as it was at first with everything that was submitted since.
-/

namespace ScopedGrants

open Grants

structure ResourceHistory where
  start : ResourceGrants := {}
  users : List Edit := []
  groups : List Edit := []

namespace ResourceHistory

def final (history : ResourceHistory) : ResourceGrants where
  users := run history.start.users history.users
  groups := run history.start.groups history.groups

/-- The grants as they were with all that were submitted behind them. -/
def gathered (history : ResourceHistory) : ResourceGrants where
  users := history.start.users ++ submitted history.users
  groups := history.start.groups ++ submitted history.groups

end ResourceHistory

variable {ε : Type} {caller : Caller} {permission : Permission} {now : Instant}

theorem Grants.dominates_of_mem {more fewer : List Grant} (now : Instant)
    (there : ∀ grant ∈ fewer, grant ∈ more) : Dominates more fewer now := by
  intro grant member live
  exact ⟨grant, there grant member, live.2, Principal.Same.refl _, le_refl grant.role⟩

theorem ResourceHistory.dominates (history : ResourceHistory) (now : Instant) :
    history.gathered.Dominates history.final now where
  users := Grants.dominates_of_mem now fun _ => mem_submitted
  groups := Grants.dominates_of_mem now fun _ => mem_submitted

/-- Wherever one source of organization grants has an answer the other has one too: the same, or
one from gathered grants where the first has it from their edited list. -/
def Resolver.Gathers (gathered edited : Option (Resolver ε)) (now : Instant) : Prop :=
  ∀ name active, Check.answers edited now name = some active →
    ∃ other, Check.answers gathered now name = some other ∧
      (other = active ∨ ∃ history : ResourceHistory,
        active = history.final.active now ∧ other = history.gathered.active now)

theorem Resolver.Gathers.informs {gathered edited : Option (Resolver ε)}
    (gathers : Gathers gathered edited now) (caller : Caller) :
    Check.Informs caller caller (Check.answers gathered now) (Check.answers edited now) := by
  intro name active found
  obtain ⟨other, told, rfl | ⟨history, rfl, rfl⟩⟩ := gathers name active found
  · exact ⟨other, told, fun _ => id⟩
  · refine ⟨_, told, fun permission permit => ?_⟩
    have stored := active_permit.mp permit
    exact active_permit.mpr ((history.dominates now).permit (.refl caller) stored)

theorem settle_mono {gathered edited : Option (Resolver ε)} {check other : Check}
    (upward : check.Allows (Check.answers edited now) → other.Allows (Check.answers gathered now))
    (allowed : (check.settle edited now).decision = .allowed) :
    (other.settle gathered now).decision = .allowed :=
  Check.settle_allowed.mpr (upward (Check.settle_allowed.mp allowed))

/-- Edits neither invent nor bring back authority. Every grant of an edited list was there at first
or was submitted as it stands, and nothing that went through since then was aimed at it; a principal
that is revoked holds nothing until it is granted something again; and no check is allowed that
would not be by the grants as they were with all that were submitted. -/
theorem edits_invent_nothing :
    (∀ (edit : Edit) (grants : List Grant),
      (∃ edited, edit.apply grants = .ok edited) ↔ edit.goesThrough) ∧
    (∀ grants edits, ∀ grant ∈ run grants edits, Origin Edit.goesThrough grants edits grant) ∧
    (∀ grants principal before after,
      (∀ edit ∈ after, edit.goesThrough → ∀ grant, edit.grant? = some grant →
        ¬ Principal.Same grant.principal principal) →
      ∀ grant ∈ run grants (before ++ .revoke principal :: after),
        ¬ Principal.Same grant.principal principal) ∧
    ∀ (ε : Type) (settings : Settings) (gathered edited : Option (Resolver ε)) (caller : Caller)
      (permission : Permission) (now : Instant), Resolver.Gathers gathered edited now →
      (∀ name, ((⟨settings, edited⟩ : Authorizer ε).checkOrganization caller name permission
          now).decision = .allowed →
        ((⟨settings, gathered⟩ : Authorizer ε).checkOrganization caller name permission
          now).decision = .allowed) ∧
      (∀ name organization (history : ResourceHistory),
        ((⟨settings, edited⟩ : Authorizer ε).checkProject caller
          ⟨name, organization, history.final⟩ permission now).decision = .allowed →
        ((⟨settings, gathered⟩ : Authorizer ε).checkProject caller
          ⟨name, organization, history.gathered⟩ permission now).decision = .allowed) ∧
      ∀ name home organization (own outer : ResourceHistory),
        ((⟨settings, edited⟩ : Authorizer ε).checkSecret caller
          ⟨name, own.final, ⟨home, organization, outer.final⟩⟩ permission now).decision = .allowed →
        ((⟨settings, gathered⟩ : Authorizer ε).checkSecret caller
          ⟨name, own.gathered, ⟨home, organization, outer.gathered⟩⟩ permission
          now).decision = .allowed := by
  refine ⟨apply_ok_iff, fun _ _ _ => run_origin, fun _ _ _ _ idle _ => run_revoked idle, ?_⟩
  intro ε settings gathered edited caller permission now gathers
  have informs := gathers.informs caller
  refine ⟨?_, ?_, ?_⟩
  · intro name allowed
    exact settle_mono (Check.organization_mono informs) allowed
  · intro name organization history allowed
    apply settle_mono _ allowed
    exact Check.project_mono (.refl caller) informs rfl (history.dominates now)
  · intro name home organization own outer allowed
    exact Check.secret_mono (.refl caller) (own.dominates now) (outer.dominates now) allowed

/-- Only what goes through can take a grant's place: a principal of white space keeps its grant,
since the one that is to replace it is turned away. -/
theorem run_keeps_blank :
    ⟨" ", .viewer, none, none⟩ ∈
        run [⟨" ", .viewer, none, none⟩] [.set ⟨" ", .owner, none, none⟩] ∧
      ¬ Origin (fun _ => true) [⟨" ", .viewer, none, none⟩] [.set ⟨" ", .owner, none, none⟩]
        ⟨" ", .viewer, none, none⟩ := by
  refine ⟨by decide +kernel, ?_⟩
  rintro (⟨-, spared⟩ | ⟨before, edit, after, split, stored, -⟩)
  · exact spared (.set ⟨" ", .owner, none, none⟩) (.head _) rfl rfl
  · have only : edit ∈ [.set ⟨" ", .owner, none, none⟩] := by simp [split]
    rw [List.mem_singleton.mp only] at stored
    simp [Edit.grant?] at stored

/-- Both records of a principal go, and what is granted to another since then brings none back. -/
theorem edits_invent_nothing_revoked :
    ∀ grant ∈ run [⟨"Ann", .owner, none, none⟩, ⟨"ann", .viewer, none, none⟩]
        ([.deduplicate] ++ .revoke "ANN" :: [.upsert ⟨"bob", .editor, none, some 9⟩]),
      ¬ Principal.Same grant.principal "ANN" := by
  apply edits_invent_nothing.2.2.1
  intro edit later _ grant granted
  rw [List.mem_singleton.mp later] at granted
  cases granted
  show ¬ Principal.Same "bob" "ANN"
  decide +kernel

end ScopedGrants
