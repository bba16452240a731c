import ScopedGrants.Grant.Codec

/-!
Editing a list of grants as a text: what is asked for comes as words and seconds, and the edited
list is written in place of the one that was read.
-/

namespace ScopedGrants.Grants

structure Wish where
  principal : String
  roleName : String
  notBefore : Option Instant := none
  expires : Option Instant := none
  /-- The grant is to replace what the principal has, even if that is higher. -/
  replace : Bool := false
deriving DecidableEq, Repr

inductive Action where
  | deduplicate
  | grant (wish : Wish)
  | revoke (principal : String)
  | prune
deriving DecidableEq, Repr

inductive ActionError where
  | malformed (error : MalformedGrants)
  | unknownRole (name : String)
  | offCalendar (instant : Instant)
  | invalid (error : InvalidGrant)
deriving DecidableEq, Repr

def ActionError.message : ActionError → String
  | malformed error => error.message
  | unknownRole name => "unknown role '" ++ name ++ "', expected viewer, editor, or owner"
  | offCalendar instant => "timestamp " ++ toString instant.toInt ++ " is out of range"
  | invalid error => error.message

def namedRole (name : String) : Except ActionError Role :=
  if Role.ofName name = .unspecified then .error (.unknownRole name) else .ok (Role.ofName name)

/-- A bound for the window of a grant, which has to be on the calendar. -/
def bound (instant : Option Instant) : Except ActionError (Option Instant) :=
  match instant with
  | none => .ok none
  | some instant =>
    if instant.OnCalendar then .ok (some instant) else .error (.offCalendar instant)

def Wish.edit (wish : Wish) : Except ActionError Edit := do
  let role ← namedRole wish.roleName
  let notBefore ← bound wish.notBefore
  let expires ← bound wish.expires
  let grant : Grant := { principal := wish.principal, role, notBefore, expires }
  return if wish.replace then .set grant else .upsert grant

def Action.edit (now : Instant) : Action → Except ActionError Edit
  | deduplicate => .ok .deduplicate
  | grant wish => wish.edit
  | revoke principal => .ok (.revoke principal)
  | prune => .ok (.prune now)

def Action.apply (action : Action) (text : String) (now : Instant) : Except ActionError String := do
  let grants ← (read "input" (some text)).mapError .malformed
  let edit ← action.edit now
  return write (← (edit.apply grants).mapError .invalid)

end ScopedGrants.Grants
