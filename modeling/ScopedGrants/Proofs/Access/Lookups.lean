import ScopedGrants.Proofs.Access.Authorizer

/-!
Which organizations are looked up for checks, and when. That hangs on the checks themselves and the
grants handed in with them, never on what the source of organization grants answers or how it
changes meanwhile. A decision depends on the source by the answers to these lookups alone.
-/

namespace ScopedGrants

instance (grant : Grant) (principal : String) (permission : Permission) (now : Instant) :
    Decidable (grant.Permits principal permission now) :=
  inferInstanceAs (Decidable ((_ ≠ _ ∧ _ = _) ∧ _ ∧ _ = _))

instance (grants : ResourceGrants) (caller : Caller) (permission : Permission) (now : Instant) :
    Decidable (grants.Permit caller permission now) :=
  inferInstanceAs (Decidable ((∃ grant ∈ grants.users, _) ∨
    ∃ group ∈ caller.groups, ∃ grant ∈ grants.groups, _))

variable {ε ε' σ σ' : Type}

/-! ### Checks that are asked for -/

inductive Inquiry where
  | organization (caller : Caller) (name : String) (permission : Permission) (now : Instant)
  | project (caller : Caller) (project : Project) (permission : Permission) (now : Instant)
  | secret (caller : Caller) (secret : Secret) (permission : Permission) (now : Instant)

namespace Inquiry

def rule (authorizer : Authorizer ε) : Inquiry → Ruling
  | organization caller name permission now =>
    authorizer.checkOrganization caller name permission now
  | project caller target permission now => authorizer.checkProject caller target permission now
  | secret caller target permission now => authorizer.checkSecret caller target permission now

def now : Inquiry → Instant
  | organization _ _ _ now | project _ _ _ now | secret _ _ _ now => now

/-- The organization that has to be known: the one the check is on, or that of a project whose own
records do not permit what is asked. -/
def wants (cascade : Bool) : Inquiry → Option String
  | organization _ name permission _ =>
    if permission.scope = .organization then some name else none
  | project caller target permission now =>
    if permission.scope = .project ∧ ¬ target.grants.Permit caller permission now ∧
        cascade = true then target.organization
    else none
  | secret .. => none

end Inquiry

/-- The organizations to look up for some checks, each with the instant it is looked up for. -/
def lookups (cascade : Bool) (inquiries : List Inquiry) : List (String × Instant) :=
  inquiries.flatMap fun inquiry => (inquiry.wants cascade).toList.map (·, inquiry.now)

theorem mem_lookups {cascade : Bool} {inquiries : List Inquiry} {inquiry : Inquiry} {name : String}
    (member : inquiry ∈ inquiries) (wanted : inquiry.wants cascade = some name) :
    (name, inquiry.now) ∈ lookups cascade inquiries := by
  refine List.mem_flatMap.mpr ⟨inquiry, member, ?_⟩
  rw [wanted]
  exact List.mem_singleton_self _

/-! ### Checks by what they ask -/

def Check.asks : Check → Option String
  | decided _ => none
  | ask name _ => some name

theorem settle_asked (check : Check) (answer : Resolver ε) (now : Instant) :
    (check.settle (some answer) now).asked = check.asks.toList := by
  cases check with
  | decided decision => rfl
  | ask name resume =>
    rw [Check.settle]
    cases answer name now <;> rfl

theorem settle_congr {check : Check} {resolver : Option (Resolver ε)}
    {other : Option (Resolver ε')} {now : Instant}
    (agree : ∀ name, check.asks = some name →
      Check.answers resolver now name = Check.answers other now name) :
    (check.settle resolver now).decision = (check.settle other now).decision := by
  refine Decision.eq_of_allowed_iff ?_
  rw [Check.settle_allowed, Check.settle_allowed]
  cases check with
  | decided decision => rfl
  | ask name resume =>
    have same := agree name rfl
    simp only [Check.Allows, same]

theorem organization_asks (caller : Caller) (name : String) (permission : Permission) :
    (Check.organization caller name permission).asks =
      if permission.scope = .organization then some name else none := by
  unfold Check.organization
  split <;> rfl

theorem project_asks (cascade : Bool) (caller : Caller) (project : Project)
    (permission : Permission) (now : Instant) :
    (Check.project cascade caller project permission now).asks =
      if permission.scope = .project ∧ ¬ project.grants.Permit caller permission now ∧
        cascade = true then project.organization
      else none := by
  cases permission with
  | secret verb => rfl
  | organization verb => rfl
  | project verb =>
    have scope : (Permission.project verb).scope = .project := rfl
    rw [Check.project, if_neg (not_not_intro scope)]
    by_cases own : project.grants.Permit caller (.project verb) now
    · rw [if_pos (decide_active_allowed.mpr own), if_neg (fun wanted => wanted.2.1 own)]
      rfl
    · rw [if_neg (mt decide_active_allowed.mp own)]
      cases cascade with
      | false => simp [Check.asks]
      | true =>
        rw [if_pos rfl, if_pos ⟨scope, own, rfl⟩]
        cases project.organization <;> rfl

namespace Inquiry

def check (cascade : Bool) : Inquiry → Check
  | organization caller name permission _ => Check.organization caller name permission
  | project caller target permission now => Check.project cascade caller target permission now
  | secret caller target permission now => .decided (Check.secret caller target permission now)

theorem rule_eq_settle (settings : Settings) (resolver : Option (Resolver ε)) (inquiry : Inquiry) :
    inquiry.rule ⟨settings, resolver⟩ =
      (inquiry.check settings.organizationCascade).settle resolver inquiry.now := by
  cases inquiry <;> rfl

theorem asks_check (cascade : Bool) (inquiry : Inquiry) :
    (inquiry.check cascade).asks = inquiry.wants cascade := by
  cases inquiry with
  | organization caller name permission now => exact organization_asks caller name permission
  | project caller target permission now =>
    exact project_asks cascade caller target permission now
  | secret caller target permission now => rfl

theorem asked_rule (settings : Settings) (answer : Resolver ε) (inquiry : Inquiry) :
    (inquiry.rule ⟨settings, some answer⟩).asked =
      (inquiry.wants settings.organizationCascade).toList := by
  rw [rule_eq_settle, settle_asked, asks_check]

theorem rule_congr {settings : Settings} {inquiry : Inquiry} {resolver : Option (Resolver ε)}
    {other : Option (Resolver ε')}
    (agree : ∀ name, inquiry.wants settings.organizationCascade = some name →
      Check.answers resolver inquiry.now name = Check.answers other inquiry.now name) :
    (inquiry.rule ⟨settings, resolver⟩).decision = (inquiry.rule ⟨settings, other⟩).decision := by
  rw [rule_eq_settle, rule_eq_settle]
  apply settle_congr
  rwa [asks_check]

end Inquiry

/-! ### Sources that change -/

/-- A source of organization grants with a state of its own, which may change at every lookup. -/
structure Backend (ε σ : Type) where
  serve : σ → String → Instant → Except ε ActiveGrants × σ

namespace Backend

variable {backend : Backend ε σ} {other : Backend ε' σ'} {settings : Settings}

def resolver (backend : Backend ε σ) (state : σ) : Resolver ε :=
  fun name now => (backend.serve state name now).1

def after (backend : Backend ε σ) (state : σ) (now : Instant) (names : List String) : σ :=
  names.foldl (fun state name => (backend.serve state name now).2) state

/-- The rulings on checks one after the other, while the source changes under the lookups. -/
def rule (backend : Backend ε σ) (settings : Settings) (state : σ) : List Inquiry → List Ruling
  | [] => []
  | inquiry :: rest =>
    let ruling := inquiry.rule ⟨settings, some (backend.resolver state)⟩
    ruling :: backend.rule settings (backend.after state inquiry.now ruling.asked) rest

/-- The answers to lookups one after the other. A lookup that fails has none. -/
def replies (backend : Backend ε σ) (state : σ) :
    List (String × Instant) → List (Option ActiveGrants)
  | [] => []
  | lookup :: rest =>
    let reply := backend.serve state lookup.1 lookup.2
    reply.1.toOption :: backend.replies reply.2 rest

theorem asked_rules (backend : Backend ε σ) (settings : Settings) (state : σ)
    (inquiries : List Inquiry) :
    (backend.rule settings state inquiries).flatMap (·.asked) =
      inquiries.flatMap fun inquiry => (inquiry.wants settings.organizationCascade).toList := by
  induction inquiries generalizing state with
  | nil => rfl
  | cons inquiry rest ih =>
    rw [rule, List.flatMap_cons, List.flatMap_cons, ih, Inquiry.asked_rule]

theorem decisions_congr {state : σ} {state' : σ'} {inquiries : List Inquiry}
    (same : backend.replies state (lookups settings.organizationCascade inquiries) =
      other.replies state' (lookups settings.organizationCascade inquiries)) :
    (backend.rule settings state inquiries).map (·.decision) =
      (other.rule settings state' inquiries).map (·.decision) := by
  induction inquiries generalizing state state' with
  | nil => rfl
  | cons inquiry rest ih =>
    rw [rule, rule, List.map_cons, List.map_cons, Inquiry.asked_rule, Inquiry.asked_rule]
    rw [lookups, List.flatMap_cons] at same
    have decided : (∀ name, inquiry.wants settings.organizationCascade = some name →
        Check.answers (some (backend.resolver state)) inquiry.now name =
          Check.answers (some (other.resolver state')) inquiry.now name) →
        (inquiry.rule ⟨settings, some (backend.resolver state)⟩).decision =
          (inquiry.rule ⟨settings, some (other.resolver state')⟩).decision := Inquiry.rule_congr
    cases wanted : inquiry.wants settings.organizationCascade with
    | none =>
      -- Nothing is asked, so neither source has moved.
      rw [wanted] at same decided
      exact congrArg₂ List.cons (decided nofun) (ih same)
    | some name =>
      rw [wanted] at same decided
      obtain ⟨reply, later⟩ := List.cons.inj same
      have here := decided fun asked found => by
        obtain rfl := Option.some.inj found
        exact reply
      exact congrArg₂ List.cons here (ih later)

/-- The organizations looked up are those that the checks want, in order, each once for its check,
whatever the source answers and however it changes. Sources that answer these lookups alike, one of
which may be missing where there are none, lead to the same decisions. -/
theorem lookups_exact (backend : Backend ε σ) (settings : Settings) (state : σ)
    (inquiries : List Inquiry) :
    ((backend.rule settings state inquiries).flatMap (·.asked) =
      inquiries.flatMap fun inquiry => (inquiry.wants settings.organizationCascade).toList) ∧
    (∀ answer : Resolver ε,
      (inquiries.flatMap fun inquiry => (inquiry.rule ⟨settings, some answer⟩).asked) =
        inquiries.flatMap fun inquiry => (inquiry.wants settings.organizationCascade).toList) ∧
    (∀ caller name permission now,
      ((⟨settings, some (backend.resolver state)⟩ : Authorizer ε).checkOrganization caller name
          permission now).decision = .allowed ↔
        permission.scope = .organization ∧ ∃ active,
          (backend.serve state name now).1 = .ok active ∧ active.Permit caller permission) ∧
    (∀ (ε' : Type) (resolver : Option (Resolver ε)) (other : Option (Resolver ε')),
      (∀ lookup ∈ lookups settings.organizationCascade inquiries,
        Check.answers resolver lookup.2 lookup.1 = Check.answers other lookup.2 lookup.1) →
      (inquiries.map fun inquiry => (inquiry.rule ⟨settings, resolver⟩).decision) =
        inquiries.map fun inquiry => (inquiry.rule ⟨settings, other⟩).decision) ∧
    ∀ (ε' σ' : Type) (other : Backend ε' σ') (state' : σ'),
      backend.replies state (lookups settings.organizationCascade inquiries) =
        other.replies state' (lookups settings.organizationCascade inquiries) →
      (backend.rule settings state inquiries).map (·.decision) =
        (other.rule settings state' inquiries).map (·.decision) := by
  refine ⟨backend.asked_rules settings state inquiries, ?_, ?_, ?_, ?_⟩
  · intro answer
    simp only [Inquiry.asked_rule]
  · intro caller name permission now
    rw [Authorizer.checkOrganization, Check.settle_allowed, Check.organization_allows]
    simp only [Check.answers_eq_some, Option.some.injEq, exists_eq_left']
    rfl
  · intro ε' resolver other agree
    refine List.map_congr_left fun inquiry member => Inquiry.rule_congr fun name wanted => ?_
    exact agree _ (mem_lookups member wanted)
  · intro ε' σ' other state' same
    exact decisions_congr same

/-- A viewer of a project reads it without any lookup. What she may not do by herself takes one,
which fails now with nothing to say and now with a count of the lookups. -/
theorem lookups_exact_failing :
    let inquiries : List Inquiry :=
      [.project { email := "ann" } { name := "shop", organization := some "acme", grants :=
          { users := [{ principal := "Ann", role := .viewer }] } } (.project .read) 7,
        .project { email := "ann" } { name := "shop", organization := some "acme", grants :=
          { users := [{ principal := "Ann", role := .viewer }] } } (.project .write) 7]
    ((⟨fun _ _ _ => (.error (), ())⟩ : Backend Unit Unit).rule {} () inquiries).map (·.decision) =
      ((⟨fun count _ _ => (.error count, count + 1)⟩ : Backend Nat Nat).rule {} 0
        inquiries).map (·.decision) :=
  (lookups_exact ⟨fun _ _ _ => (.error (), ())⟩ {} () _).2.2.2.2 Nat Nat
    ⟨fun count _ _ => (.error count, count + 1)⟩ 0 (by decide +kernel)

end Backend

end ScopedGrants
