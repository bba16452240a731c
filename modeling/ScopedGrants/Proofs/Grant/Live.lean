import ScopedGrants.Grant.Active
import ScopedGrants.Proofs.Grant.Deduplicate
import ScopedGrants.Proofs.RoleMap

/-!
The roles that stored grants amount to at an instant. Every role in the map is that of a grant that
can be used, and every such grant is upheld by a role in the map that ranks no lower.
-/

namespace ScopedGrants

def Grant.Live (grant : Grant) (now : Instant) : Prop :=
  grant.principal ≠ "" ∧ grant.activeAt now = true

namespace Grants

variable {grants : List Grant} {now : Instant}

theorem live_of_kept {grant : Grant}
    (member : grant ∈ deduplicate (grants.filter (·.activeAt now))) :
    grant ∈ grants ∧ grant.Live now := by
  obtain ⟨named, leads⟩ := mem_deduplicate.mp member
  obtain ⟨present, active⟩ := List.mem_filter.mp leads.mem
  exact ⟨present, named, active⟩

theorem mem_liveRoles {entry : String × Role} :
    entry ∈ (liveRoles grants now).entries ↔
      ∃ grant ∈ deduplicate (grants.filter (·.activeAt now)),
        (grant.principal, grant.role) = entry := by
  have whole : (deduplicate (grants.filter (·.activeAt now))).filter
      (fun grant => grant.principal ≠ "" ∧ grant.activeAt now) =
        deduplicate (grants.filter (·.activeAt now)) :=
    List.filter_eq_self.mpr fun grant member => by simpa [Grant.Live] using (live_of_kept member).2
  have distinct := deduplicate_distinct (grants.filter (·.activeAt now))
  rw [liveRoles, activeRoles, whole,
    RoleMap.mem_ofList (by simpa [Function.comp_def] using distinct), List.mem_map]
  constructor
  · exact fun h => h.2
  · rintro ⟨grant, member, rfl⟩
    exact ⟨(live_of_kept member).2.1, grant, member, rfl⟩

theorem liveRoles_origin {entry : String × Role} (member : entry ∈ (liveRoles grants now).entries) :
    ∃ grant ∈ grants, grant.Live now ∧ grant.principal = entry.1 ∧ grant.role = entry.2 := by
  obtain ⟨grant, kept, rfl⟩ := mem_liveRoles.mp member
  obtain ⟨present, live⟩ := live_of_kept kept
  exact ⟨grant, present, live, rfl, rfl⟩

/-- No live grant is hidden by another one, whatever the order and the windows of the others. -/
theorem liveRoles_upholds {grant : Grant} (member : grant ∈ grants) (live : grant.Live now) :
    ∃ role, (grant.principal, role) ∈ (liveRoles grants now).entries ∧ grant.role ≤ role := by
  obtain ⟨named, active⟩ := live
  have present : grant ∈ grants.filter (·.activeAt now) := List.mem_filter.mpr ⟨member, active⟩
  obtain ⟨holder, kept, same, above⟩ := deduplicate_upholds present named
  exact ⟨holder.role, mem_liveRoles.mpr ⟨holder, kept, by rw [same]⟩, above⟩

theorem get?_liveRoles {grant : Grant} (leads : Leads grants grant) (live : grant.Live now) :
    (liveRoles grants now).get? grant.principal = some grant.role := by
  obtain ⟨named, active⟩ := live
  have kept : grant ∈ deduplicate (grants.filter (·.activeAt now)) :=
    mem_deduplicate.mpr ⟨named, leads.filter active⟩
  exact RoleMap.get?_eq_some.mpr (mem_liveRoles.mpr ⟨grant, kept, rfl⟩)

/-- Once a list has been deduplicated nothing counts for a principal but the grant that leads. -/
theorem get?_liveRoles_deduplicate {grant : Grant} (now : Instant) (leads : Leads grants grant)
    (named : grant.principal ≠ "") :
    (liveRoles (deduplicate grants) now).get? grant.principal =
      if grant.activeAt now then some grant.role else none := by
  have distinct := deduplicate_distinct grants
  have kept : grant ∈ deduplicate grants := mem_deduplicate.mpr ⟨named, leads⟩
  split
  case isTrue active => exact get?_liveRoles ((leads_of_distinct distinct).mpr kept) ⟨named, active⟩
  case isFalse lapsed =>
    refine Option.eq_none_iff_forall_not_mem.mpr fun role found => lapsed ?_
    obtain ⟨other, present, ⟨-, active⟩, same, -⟩ :=
      liveRoles_origin (RoleMap.get?_eq_some.mp found)
    exact List.inj_on_of_nodup_map distinct present kept same ▸ active

end Grants
end ScopedGrants
