import ScopedGrants.Grant.Basic
import ScopedGrants.Principal
import ScopedGrants.Text.Blank

/-!
Editing a list of grants. A list in good order holds one grant per principal, the highest it was
ever given, in the order in which the principals first came up. Principals that differ in case
stay apart here; only revoking compares them by their lower-case forms.
-/

namespace ScopedGrants

inductive InvalidGrant where
  | blankPrincipal
deriving DecidableEq, Repr

def InvalidGrant.message : InvalidGrant → String
  | blankPrincipal => "invalid grant: principal must not be empty"

namespace Grants

/-- Takes a grant into a list with one grant per principal: at its end if the principal is new,
else in the place of the principal's grant if the role is strictly higher. -/
def absorb (grant : Grant) : List Grant → List Grant
  | [] => [grant]
  | kept :: rest =>
    if kept.principal = grant.principal then
      (if kept.role < grant.role then grant else kept) :: rest
    else kept :: absorb grant rest

/-- One grant per principal: the first of its highest role. Grants to nobody are dropped. -/
def deduplicate (grants : List Grant) : List Grant :=
  grants.foldl (fun kept grant => if grant.principal = "" then kept else absorb grant kept) []

def accepted (grant : Grant) : Except InvalidGrant Grant :=
  if Text.blank grant.principal then .error .blankPrincipal else .ok grant

/-- Adds a grant unless its principal already has one of an equal or higher role. -/
def upsert (grants : List Grant) (grant : Grant) : Except InvalidGrant (List Grant) := do
  return deduplicate (grants ++ [← accepted grant])

/-- Puts a grant in the place of everything stored under exactly its principal. -/
def set (grants : List Grant) (grant : Grant) : Except InvalidGrant (List Grant) := do
  let grant ← accepted grant
  return deduplicate (grants.filter (·.principal ≠ grant.principal) ++ [grant])

/-- Takes every grant from a principal, in whatever case it is stored. -/
def revoke (grants : List Grant) (principal : String) : List Grant :=
  grants.filter fun grant => ¬ Principal.Same grant.principal principal

def prune (grants : List Grant) (now : Instant) : List Grant := grants.filter (¬ ·.expiredAt now)

inductive Edit where
  | deduplicate
  | upsert (grant : Grant)
  | set (grant : Grant)
  | revoke (principal : String)
  | prune (now : Instant)
deriving DecidableEq, Repr

def Edit.apply (grants : List Grant) : Edit → Except InvalidGrant (List Grant)
  | deduplicate => .ok (Grants.deduplicate grants)
  | upsert grant => Grants.upsert grants grant
  | set grant => Grants.set grants grant
  | revoke principal => .ok (Grants.revoke grants principal)
  | prune now => .ok (Grants.prune grants now)

end Grants
end ScopedGrants
