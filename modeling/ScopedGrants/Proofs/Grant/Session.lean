import ScopedGrants.Grant.Text
import ScopedGrants.Proofs.Grant.History
import ScopedGrants.Proofs.Grant.Language

/-!
Editing a text again and again. Each output, with the end of line that a terminal puts after it, is
the next input. Whatever is done in this way comes to the same as editing the list that the first
text holds, and an action fails on its own account or not at all.
-/

namespace ScopedGrants

open Json

theorem Json.Spelling.append_space {input space : List Char} {tokens : List Token}
    (spelling : Spelling input tokens) (blank : Space space) :
    Spelling (input ++ space) tokens := by
  induction spelling with
  | done before =>
    exact .done (List.forall_mem_append.mpr ⟨before, blank⟩)
  | token before first _ ih =>
    rw [List.append_assoc, List.append_assoc]
    exact .token before first ih

namespace Grants

/-! ### Actions as edits -/

structure Wish.Admissible (wish : Wish) : Prop where
  role : wish.roleName.toLower ∈ ["viewer", "editor", "owner"]
  notBefore : ∀ instant ∈ wish.notBefore, instant.OnCalendar
  expires : ∀ instant ∈ wish.expires, instant.OnCalendar
  named : Text.blank wish.principal = false

/-- Only a wish can be refused for what it says. -/
def Action.Admissible : Action → Prop
  | grant wish => wish.Admissible
  | deduplicate | revoke _ | prune => True

def Wish.grant (wish : Wish) : Grant where
  principal := wish.principal
  role := .ofName wish.roleName
  notBefore := wish.notBefore
  expires := wish.expires

def Action.operation (now : Instant) : Action → Edit
  | deduplicate => .deduplicate
  | grant wish => if wish.replace then .set wish.grant else .upsert wish.grant
  | revoke principal => .revoke principal
  | prune => .prune now

-- Written with `all`, as an instant is one of finitely many: bounded quantifiers would be decided by
-- going through all of them.
instance (wish : Wish) : Decidable wish.Admissible :=
  decidable_of_iff (wish.roleName.toLower ∈ ["viewer", "editor", "owner"] ∧
      wish.notBefore.all (·.OnCalendar) = true ∧ wish.expires.all (·.OnCalendar) = true ∧
      Text.blank wish.principal = false) <| by
    simp only [Option.all_eq_true, decide_eq_true_eq]
    exact ⟨fun ⟨role, begins, ends, named⟩ => ⟨role, begins, ends, named⟩,
      fun ⟨role, begins, ends, named⟩ => ⟨role, begins, ends, named⟩⟩

instance (action : Action) : Decidable action.Admissible :=
  match action with
  | .grant wish => inferInstanceAs (Decidable wish.Admissible)
  | .deduplicate | .revoke _ | .prune => inferInstanceAs (Decidable True)

variable {text output : String} {grants edited : List Grant} {action : Action} {wish : Wish}
  {now : Instant} {edit : Edit}

theorem ofName_unspecified {name : String} :
    Role.ofName name = .unspecified ↔ name.toLower ∉ ["viewer", "editor", "owner"] := by
  unfold Role.ofName
  split <;> simp_all

theorem namedRole_eq_ok {name : String} {role : Role} :
    namedRole name = .ok role ↔
      name.toLower ∈ ["viewer", "editor", "owner"] ∧ Role.ofName name = role := by
  unfold namedRole
  by_cases unknown : Role.ofName name = .unspecified
  · simp [unknown, ofName_unspecified.mp unknown]
  · have known := mt ofName_unspecified.mpr unknown
    rw [not_not] at known
    simp [unknown, known]

theorem bound_eq_ok {instant shown : Option Instant} :
    bound instant = .ok shown ↔ (∀ instant' ∈ instant, instant'.OnCalendar) ∧ instant = shown := by
  cases instant with
  | none => simp [bound]
  | some instant => by_cases on : instant.OnCalendar <;> simp [bound, on]

theorem goesThrough_operation :
    ((Action.grant wish).operation now).goesThrough = ! Text.blank wish.principal := by
  dsimp only [Action.operation]
  split <;> rfl

theorem wish_edit_eq_ok (now : Instant) :
    wish.edit = .ok edit ↔ wish.roleName.toLower ∈ ["viewer", "editor", "owner"] ∧
      (∀ instant ∈ wish.notBefore, instant.OnCalendar) ∧
      (∀ instant ∈ wish.expires, instant.OnCalendar) ∧
      (Action.grant wish).operation now = edit := by
  simp only [Wish.edit, bind_eq_ok, namedRole_eq_ok, bound_eq_ok]
  constructor
  · rintro ⟨role, ⟨known, rfl⟩, _, ⟨begins, rfl⟩, _, ⟨ends, rfl⟩, same⟩
    exact ⟨known, begins, ends, Except.ok.inj same⟩
  · rintro ⟨known, begins, ends, rfl⟩
    exact ⟨_, ⟨known, rfl⟩, _, ⟨begins, rfl⟩, _, ⟨ends, rfl⟩, rfl⟩

theorem edit_eq_ok :
    action.edit now = .ok edit ∧ edit.goesThrough ↔
      action.Admissible ∧ action.operation now = edit := by
  cases action with
  | grant wish =>
    rw [Action.edit, wish_edit_eq_ok now]
    constructor
    · rintro ⟨⟨known, begins, ends, rfl⟩, through⟩
      rw [goesThrough_operation, Bool.not_eq_true'] at through
      exact ⟨⟨known, begins, ends, through⟩, rfl⟩
    · rintro ⟨⟨known, begins, ends, named⟩, rfl⟩
      refine ⟨⟨known, begins, ends, rfl⟩, ?_⟩
      rw [goesThrough_operation, named, Bool.not_false]
  | deduplicate | revoke | prune =>
    simp only [Action.edit, Action.operation, Action.Admissible, Except.ok.injEq, true_and]
    constructor
    · exact And.left
    · rintro rfl
      exact ⟨rfl, rfl⟩

theorem operation_ok (admissible : action.Admissible) (now : Instant) (grants : List Grant) :
    (action.operation now).apply grants = .ok ((action.operation now).next grants) := by
  obtain ⟨-, through⟩ := edit_eq_ok.mpr ⟨admissible, rfl⟩
  obtain ⟨edited, ran⟩ := (apply_ok_iff (action.operation now) grants).mpr through
  rw [Edit.next, ran]

theorem action_eq_ok :
    action.apply text now = .ok output ↔ ∃ grants, read "input" (some text) = .ok grants ∧
      action.Admissible ∧ write ((action.operation now).next grants) = output := by
  simp only [Action.apply, bind_eq_ok, mapError_eq_ok]
  refine exists_congr fun grants => and_congr_right fun _ => ?_
  constructor
  · rintro ⟨edit, found, edited, ran, same⟩
    have through := (apply_ok_iff edit grants).mp ⟨edited, ran⟩
    obtain ⟨admissible, rfl⟩ := edit_eq_ok.mp ⟨found, through⟩
    rw [operation_ok admissible] at ran
    cases ran
    exact ⟨admissible, Except.ok.inj same⟩
  · rintro ⟨admissible, rfl⟩
    obtain ⟨found, -⟩ := edit_eq_ok.mpr ⟨admissible, rfl⟩
    exact ⟨_, found, _, operation_ok admissible now grants, rfl⟩

theorem action_fails_iff :
    (∃ error, action.apply text now = .error error) ↔
      (∃ error, read "input" (some text) = .error error) ∨ ¬ action.Admissible := by
  rw [exists_error_iff_not_ok, exists_error_iff_not_ok, ← not_and_or, not_iff_not]
  simp only [action_eq_ok]
  constructor
  · rintro ⟨_, grants, found, admissible, -⟩
    exact ⟨⟨grants, found⟩, admissible⟩
  · rintro ⟨⟨grants, found⟩, admissible⟩
    exact ⟨_, grants, found, admissible, rfl⟩

/-! ### The end of a line -/

theorem isBlank_of_space {c : Char} (space : c ∈ [' ', '\t', '\n', '\r']) :
    Text.isBlank c = true := by
  simp only [List.mem_cons, List.not_mem_nil, or_false] at space
  rcases space with rfl | rfl | rfl | rfl <;> decide

theorem Language.append_space {space : String} (language : Language text grants)
    (blank : Space space.toList) : Language (text ++ space) grants := by
  rcases language with ⟨nothing, rfl⟩ | ⟨tree, spelled, form⟩
  · refine Or.inl ⟨?_, rfl⟩
    rw [Text.blank, String.toList_append, List.all_append, Bool.and_eq_true]
    exact ⟨nothing, List.all_eq_true.mpr fun c member => isBlank_of_space (blank c member)⟩
  · refine Or.inr ⟨tree, ?_, form⟩
    rw [Tree.SpelledBy, String.toList_append]
    exact Spelling.append_space spelled blank

theorem read_line (grants : List Grant) :
    read "input" (some (write grants ++ "\n")) = .ok grants := by
  have language := read_eq_ok.mp (read_write "input" grants)
  have blank : Space "\n".toList := by simp [Space]
  exact read_eq_ok.mpr (language.append_space blank)

/-! ### Sessions -/

/-- What a text has become after some actions, each at its own instant. An action that fails leaves
the text as it was. -/
def textAfter (text : String) : List (Action × Instant) → String
  | [] => text
  | (action, now) :: rest =>
    match action.apply text now with
    | .ok output => textAfter (output ++ "\n") rest
    | .error _ => textAfter text rest

/-- The edits that some actions are meant to be, without those that are not admissible. -/
def operations (actions : List (Action × Instant)) : List Edit :=
  (actions.filter (·.1.Admissible)).map fun (action, now) => action.operation now

theorem read_textAfter {actions : List (Action × Instant)}
    (found : read "input" (some text) = .ok grants) :
    read "input" (some (textAfter text actions)) = .ok (run grants (operations actions)) := by
  induction actions generalizing text grants with
  | nil => exact found
  | cons entry rest ih =>
    obtain ⟨action, now⟩ := entry
    by_cases admissible : action.Admissible
    · have ran : action.apply text now = .ok (write ((action.operation now).next grants)) :=
        action_eq_ok.mpr ⟨grants, found, admissible, rfl⟩
      rw [textAfter, ran]
      simpa [operations, admissible, run] using ih (read_line ((action.operation now).next grants))
    · obtain ⟨error, failed⟩ : ∃ error, action.apply text now = .error error :=
        action_fails_iff.mpr (Or.inr admissible)
      rw [textAfter, failed]
      simpa [operations, admissible] using ih found

theorem textAfter_malformed {actions : List (Action × Instant)} {error : MalformedGrants}
    (malformed : read "input" (some text) = .error error) : textAfter text actions = text := by
  induction actions with
  | nil => rfl
  | cons entry rest ih =>
    obtain ⟨action, now⟩ := entry
    obtain ⟨error, failed⟩ : ∃ error, action.apply text now = .error error :=
      action_fails_iff.mpr (Or.inl ⟨_, malformed⟩)
    rw [textAfter, failed]
    exact ih

theorem malformed_textAfter {actions : List (Action × Instant)} :
    (∃ error, read "input" (some (textAfter text actions)) = .error error) ↔
      ∃ error, read "input" (some text) = .error error := by
  constructor
  · intro failed
    rw [exists_error_iff_not_ok] at failed ⊢
    rintro ⟨grants, found⟩
    exact failed ⟨_, read_textAfter found⟩
  · rintro ⟨error, malformed⟩
    rw [textAfter_malformed malformed]
    exact ⟨error, malformed⟩

/-- A session with a text is one with the list that it holds. Whatever has been done to the text
before, an action fails exactly if the first text was malformed or the action is not admissible, and
otherwise puts out the text of the list after the same edits. -/
theorem session_simulates (raw : String) (before : List (Action × Instant)) (action : Action)
    (now : Instant) :
    ((∃ error, action.apply (textAfter raw before) now = .error error) ↔
      (∃ error, read "input" (some raw) = .error error) ∨ ¬ action.Admissible) ∧
    ∀ grants, read "input" (some raw) = .ok grants → action.Admissible →
      ∃ edited, (action.operation now).apply (run grants (operations before)) = .ok edited ∧
        action.apply (textAfter raw before) now = .ok (write edited) := by
  refine ⟨?_, fun grants found admissible => ?_⟩
  · rw [action_fails_iff, malformed_textAfter]
  · refine ⟨_, operation_ok admissible now _, ?_⟩
    exact action_eq_ok.mpr ⟨_, read_textAfter found, admissible, rfl⟩

/-- Ann is revoked, and Bob then made a viewer for some time. -/
theorem session_simulates_revoked :
    Action.apply (.grant ⟨"bob", "Viewer", some 10, some 20, true⟩)
      (textAfter (write [⟨"Ann", .owner, none, none⟩, ⟨"bob", .editor, none, none⟩])
        [(.revoke "ann", 5)]) 7 = .ok (write [⟨"bob", .viewer, some 10, some 20⟩]) := by
  have admissible : (Action.grant ⟨"bob", "Viewer", some 10, some 20, true⟩).Admissible := by
    decide +kernel
  obtain ⟨edited, ran, output⟩ := (session_simulates
    (write [⟨"Ann", .owner, none, none⟩, ⟨"bob", .editor, none, none⟩]) [(.revoke "ann", 5)]
    (.grant ⟨"bob", "Viewer", some 10, some 20, true⟩) 7).2 _ (read_write _ _) admissible
  have made : (Action.operation 7 (.grant ⟨"bob", "Viewer", some 10, some 20, true⟩)).apply
      (run [⟨"Ann", .owner, none, none⟩, ⟨"bob", .editor, none, none⟩]
        (operations [(.revoke "ann", 5)])) = .ok [⟨"bob", .viewer, some 10, some 20⟩] := by
    decide +kernel
  have same := ran.symm.trans made
  cases same
  exact output

end Grants
end ScopedGrants
