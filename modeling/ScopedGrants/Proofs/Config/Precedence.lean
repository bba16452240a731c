import Mathlib.Data.List.Induction
import Mathlib.Data.List.Nodup
import ScopedGrants.Proofs.Config.Validation

/-!
Precedence of sources. Every value of a configuration is decided on its own: by the topmost of the
sources that set it, whatever else those set. If a source fails, then the lowest one that does is
what the configuration fails by.
-/

namespace ScopedGrants.Config

/-! ### Values one by one -/

inductive Setting where
  | cascade
  | userKey
  | groupKey
  | legacyGroupKey
  | organizationLabel
  | projectLabel
  | logLevel
deriving DecidableEq, Repr

namespace Setting

abbrev Kind : Setting → Type
  | cascade => Bool
  | _ => String

def inLayer? (layer : Layer) : (setting : Setting) → Option setting.Kind
  | cascade => layer.access.bind (·.cascade)
  | userKey => layer.access.bind (·.userKey)
  | groupKey => layer.access.bind (·.groupKey)
  | legacyGroupKey => layer.access.bind (·.legacyGroupKey)
  | organizationLabel => layer.labels.bind (·.organization)
  | projectLabel => layer.labels.bind (·.project)
  | logLevel => layer.log.bind (·.level)

def default : (setting : Setting) → setting.Kind
  | cascade => true
  | userKey => "warden.dev/user-grants"
  | groupKey => "warden.dev/group-grants"
  | legacyGroupKey => "warden.dev/role-grants"
  | organizationLabel => "warden.dev/organization"
  | projectLabel => "warden.dev/project"
  | logLevel => "info"

def value (config : Resolved) : (setting : Setting) → setting.Kind
  | cascade => config.access.organizationCascade
  | userKey => config.access.keys.user
  | groupKey => config.access.keys.group
  | legacyGroupKey => config.access.keys.legacyGroup
  | organizationLabel => config.labels.organization
  | projectLabel => config.labels.project
  | logLevel => config.logLevel

theorem inLayer?_merge (setting : Setting) (below above : Layer) :
    setting.inLayer? (below.merge above) =
      (setting.inLayer? above).or (setting.inLayer? below) := by
  obtain ⟨access, labels, log⟩ := below
  obtain ⟨access', labels', log'⟩ := above
  cases setting with
  | cascade | userKey | groupKey | legacyGroupKey =>
    cases access <;> cases access' <;> simp [inLayer?, Layer.merge, AccessLayer.merge]
  | organizationLabel | projectLabel =>
    cases labels <;> cases labels' <;> simp [inLayer?, Layer.merge, LabelLayer.merge]
  | logLevel => cases log <;> cases log' <;> simp [inLayer?, Layer.merge, LogLayer.merge]

theorem value_finish (setting : Setting) (layer : Layer) :
    setting.value layer.finish = (setting.inLayer? layer).getD setting.default := by
  obtain ⟨access, labels, log⟩ := layer
  cases setting with
  | cascade | userKey | groupKey | legacyGroupKey => cases access <;> rfl
  | organizationLabel | projectLabel => cases labels <;> rfl
  | logLevel => cases log <;> rfl

end Setting

namespace Source

def fails (source : Source) : Bool := source.layer.toOption.isNone

def set? (setting : Setting) (source : Source) : Option setting.Kind :=
  source.layer.toOption.bind setting.inLayer?

theorem layer_of_yields {source : Source} (yields : source.fails = false) :
    ∃ layer, source.layer = .ok layer := by
  cases found : source.layer with
  | ok layer => exact ⟨layer, rfl⟩
  | error error => simp [fails, found, Except.toOption] at yields

theorem error_of_fails {source : Source} (fails : source.fails) :
    ∃ error, source.layer = .error error := by
  cases found : source.layer with
  | ok layer => simp [Source.fails, found, Except.toOption] at fails
  | error error => exact ⟨error, rfl⟩

end Source

/-! ### Which source comes first and which last -/

/-- Of the sources of some kind, this one comes first: no other lies lower, and none before it lies
as low. -/
def First (kind : Source → Bool) (sources : List Source) (source : Source) : Prop :=
  ∃ before after, sources = before ++ source :: after ∧ kind source ∧
    (∀ other ∈ before, kind other → source.precedence.rank < other.precedence.rank) ∧
    ∀ other ∈ after, kind other → source.precedence.rank ≤ other.precedence.rank

/-- Of the sources of some kind, this one comes last: no other lies higher, and none after it lies
as high. -/
def Last (kind : Source → Bool) (sources : List Source) (source : Source) : Prop :=
  ∃ before after, sources = before ++ source :: after ∧ kind source ∧
    (∀ other ∈ before, kind other → other.precedence.rank ≤ source.precedence.rank) ∧
    ∀ other ∈ after, kind other → other.precedence.rank < source.precedence.rank

/-- What the sources amount to for a value: the last that sets it decides, or else the default. -/
def Amounts (sources : List Source) (setting : Setting) (value : setting.Kind) : Prop :=
  (∃ source, Last (fun other => (other.set? setting).isSome) sources source ∧
    source.set? setting = some value) ∨
  ((∀ source ∈ sources, source.set? setting = none) ∧ value = setting.default)

/-- The sources in an order of their ranks, those of one rank as they stand in another list. -/
structure Arranged (order : Nat → Nat → Prop) (sorted sources : List Source) : Prop where
  ordered : sorted.Pairwise fun a b => order a.precedence.rank b.precedence.rank
  stable : ∀ rank, sorted.filter (·.precedence.rank = rank) =
    sources.filter (·.precedence.rank = rank)

def ranked (sources : List Source) : List Source :=
  sources.mergeSort fun a b => a.precedence.rank ≤ b.precedence.rank

variable {order : Nat → Nat → Prop} {sources sorted others : List Source} {source : Source}
  {kind : Source → Bool} {setting : Setting}

namespace Arranged

theorem mem_iff (arranged : Arranged order sorted sources) :
    source ∈ sorted ↔ source ∈ sources := by
  have stable := arranged.stable source.precedence.rank
  have same := congrArg (source ∈ ·) stable
  simpa using same

theorem reverse (arranged : Arranged order sorted sources) :
    Arranged (fun a b => order b a) sorted.reverse sources.reverse where
  ordered := List.pairwise_reverse.mpr arranged.ordered
  stable rank := by rw [List.filter_reverse, List.filter_reverse, arranged.stable rank]

/-- The first source of some kind in the arrangement, seen in the list as it was given. -/
theorem find?_eq_some (arranged : Arranged order sorted sources) (refl : ∀ rank, order rank rank)
    (found : sorted.find? kind = some source) :
    ∃ before after, sources = before ++ source :: after ∧ kind source ∧
      (∀ other ∈ before, kind other → order source.precedence.rank other.precedence.rank ∧
        other.precedence.rank ≠ source.precedence.rank) ∧
      ∀ other ∈ after, kind other → order source.precedence.rank other.precedence.rank := by
  obtain ⟨wanted, earlier, later, split, skipped⟩ := List.find?_eq_some_iff_append.mp found
  have ordered := arranged.ordered
  rw [split, List.pairwise_append, List.pairwise_cons] at ordered
  have foremost : ∀ other ∈ sources, kind other →
      order source.precedence.rank other.precedence.rank := by
    intro other member also
    have there : other ∈ earlier ++ source :: later := split ▸ arranged.mem_iff.mpr member
    rcases List.mem_append.mp there with before | after
    · have passed := skipped other before
      simp [also] at passed
    · rcases List.mem_cons.mp after with rfl | after
      · exact refl _
      · exact ordered.2.1.1 other after
  -- Among the sources of its own rank it is the first in either list.
  have level : (sources.filter (·.precedence.rank = source.precedence.rank)).find? kind =
      some source := by
    rw [← arranged.stable, List.find?_filter, List.find?_eq_some_iff_append]
    refine ⟨by simp [wanted], earlier, later, split, fun other before => ?_⟩
    have passed := skipped other before
    simp at passed
    simp [passed]
  rw [List.find?_filter, List.find?_eq_some_iff_append] at level
  obtain ⟨-, before, after, around, passed⟩ := level
  refine ⟨before, after, around, wanted, fun other member also => ⟨?_, ?_⟩,
    fun other member also => ?_⟩
  · exact foremost other (by simp [around, member]) also
  · intro same
    simpa [same, also] using passed other member
  · exact foremost other (by simp [around, member]) also

theorem ranked (sources : List Source) : Arranged (· ≤ ·) (ranked sources) sources := by
  have trans : ∀ a b c : Source, decide (a.precedence.rank ≤ b.precedence.rank) →
      decide (b.precedence.rank ≤ c.precedence.rank) →
        decide (a.precedence.rank ≤ c.precedence.rank) := by
    intro a b c below above
    simp only [decide_eq_true_eq] at below above ⊢
    omega
  have total : ∀ a b : Source, decide (a.precedence.rank ≤ b.precedence.rank) ||
      decide (b.precedence.rank ≤ a.precedence.rank) := by
    intro a b
    simp only [Bool.or_eq_true, decide_eq_true_eq]
    omega
  refine ⟨?_, fun rank => ?_⟩
  · have ordered := List.pairwise_mergeSort trans total sources
    exact ordered.imp of_decide_eq_true
  · -- Sources of one rank are in order already, so that sorting keeps them as they stand.
    have level : (sources.filter (·.precedence.rank = rank)).Pairwise fun a b =>
        decide (a.precedence.rank ≤ b.precedence.rank) = true := by
      rw [List.pairwise_filter]
      refine List.pairwise_of_forall fun a b left right => ?_
      simp only [decide_eq_true_eq] at left right ⊢
      omega
    have part := (List.sublist_mergeSort trans total level List.filter_sublist).filter
      (·.precedence.rank = rank)
    simp only [List.filter_filter, Bool.and_self] at part
    have shuffled : (Config.ranked sources).Perm sources := List.mergeSort_perm sources _
    exact (part.eq_of_length (shuffled.filter _).length_eq.symm).symm

theorem mem_of_filter {left right : List Source}
    (same : ∀ rank, left.filter (·.precedence.rank = rank) =
      right.filter (·.precedence.rank = rank)) (member : source ∈ left) : source ∈ right := by
  have inside : source ∈ left.filter (·.precedence.rank = source.precedence.rank) := by
    simp [member]
  rw [same] at inside
  exact (List.mem_filter.mp inside).1

theorem eq_of_filter {left right : List Source}
    (leftOrdered : left.Pairwise fun a b => a.precedence.rank ≤ b.precedence.rank)
    (rightOrdered : right.Pairwise fun a b => a.precedence.rank ≤ b.precedence.rank)
    (same : ∀ rank, left.filter (·.precedence.rank = rank) =
      right.filter (·.precedence.rank = rank)) : left = right := by
  induction left generalizing right with
  | nil =>
    refine (List.eq_nil_iff_forall_not_mem.mpr fun source member => ?_).symm
    exact List.not_mem_nil (mem_of_filter (fun rank => (same rank).symm) member)
  | cons first left ih =>
    cases right with
    | nil => exact absurd (mem_of_filter same List.mem_cons_self) List.not_mem_nil
    | cons second right =>
      obtain ⟨leftLeast, leftRest⟩ := List.pairwise_cons.mp leftOrdered
      obtain ⟨rightLeast, rightRest⟩ := List.pairwise_cons.mp rightOrdered
      have below : second.precedence.rank ≤ first.precedence.rank := by
        rcases List.mem_cons.mp (mem_of_filter same List.mem_cons_self) with rfl | later
        · exact Nat.le_refl _
        · exact rightLeast first later
      have above : first.precedence.rank ≤ second.precedence.rank := by
        have back := mem_of_filter (fun rank => (same rank).symm) List.mem_cons_self
        rcases List.mem_cons.mp back with rfl | later
        · exact Nat.le_refl _
        · exact leftLeast second later
      have level : first.precedence.rank = second.precedence.rank := Nat.le_antisymm above below
      obtain rfl : first = second := by
        have heads := same second.precedence.rank
        rw [List.filter_cons_of_pos (by simp [level]), List.filter_cons_of_pos (by simp)] at heads
        exact (List.cons.inj heads).1
      refine congrArg (first :: ·) (ih leftRest rightRest fun rank => ?_)
      have tails := same rank
      by_cases here : first.precedence.rank = rank
      · rw [List.filter_cons_of_pos (by simp [here]), List.filter_cons_of_pos (by simp [here])]
          at tails
        exact (List.cons.inj tails).2
      · rwa [List.filter_cons_of_neg (by simp [here]), List.filter_cons_of_neg (by simp [here])]
          at tails

/-- Nothing but the order among sources of one rank tells two arrangements apart. -/
theorem unique {left right : List Source} (one : Arranged (· ≤ ·) left sources)
    (other : Arranged (· ≤ ·) right others)
    (levels : ∀ rank, sources.filter (·.precedence.rank = rank) =
      others.filter (·.precedence.rank = rank)) : left = right := by
  have same : ∀ rank, left.filter (·.precedence.rank = rank) =
      right.filter (·.precedence.rank = rank) := by
    intro rank
    rw [one.stable, levels, other.stable]
  exact eq_of_filter one.ordered other.ordered same

end Arranged

/-! ### Laying the layers over each other -/

theorem mergeSources_append (sources : List Source) (last : Source) :
    mergeSources (sources ++ [last]) =
      (do return (← mergeSources sources).merge (← last.layer)) := by
  rw [mergeSources, List.foldlM_append]
  refine bind_congr fun below => ?_
  rw [List.foldlM_cons]
  simp only [List.foldlM_nil, bind_pure]

theorem mergeSources_ok (yield : ∀ source ∈ sources, source.fails = false) :
    ∃ layer, mergeSources sources = .ok layer ∧
      ∀ setting : Setting, setting.inLayer? layer =
        sources.reverse.findSome? (·.set? setting) := by
  induction sources using List.reverseRecOn with
  | nil =>
    refine ⟨{}, rfl, fun setting => ?_⟩
    cases setting <;> rfl
  | append_singleton sources last ih =>
    obtain ⟨below, merged, holds⟩ := ih fun source member => yield source (by simp [member])
    obtain ⟨above, brought⟩ := last.layer_of_yields (yield last (by simp))
    refine ⟨below.merge above, ?_, fun setting => ?_⟩
    · rw [mergeSources_append, merged, brought]
      rfl
    · have own : last.set? setting = setting.inLayer? above := by
        rw [Source.set?, brought]
        rfl
      rw [setting.inLayer?_merge, holds, List.reverse_append, List.reverse_singleton,
        List.singleton_append, List.findSome?_cons, own]
      cases setting.inLayer? above <;> rfl

theorem mergeSources_error {error : ConfigError} (found : sources.find? Source.fails = some source)
    (failed : source.layer = .error error) : mergeSources sources = .error error := by
  induction sources using List.reverseRecOn with
  | nil => cases found
  | append_singleton sources last ih =>
    rw [mergeSources_append]
    rw [List.find?_append] at found
    cases earlier : sources.find? Source.fails with
    | some first =>
      rw [earlier] at found
      rw [ih (earlier.trans found)]
      rfl
    | none =>
      have yield : ∀ other ∈ sources, other.fails = false := by
        simpa using List.find?_eq_none.mp earlier
      obtain ⟨below, merged, -⟩ := mergeSources_ok yield
      rw [earlier, Option.none_or] at found
      obtain rfl := List.mem_singleton.mp (List.mem_of_find?_eq_some found)
      rw [merged, failed]
      rfl

/-! ### The configuration of some sources -/

theorem resolve_eq (sources : List Source) :
    resolve sources = (do (← mergeSources (ranked sources)).finish.validate) := rfl

theorem resolve_failed (failing : ∃ source ∈ sources, source.fails) :
    ∃ source error, First Source.fails sources source ∧ source.layer = .error error ∧
      resolve sources = .error error := by
  have arranged := Arranged.ranked sources
  cases found : (ranked sources).find? Source.fails with
  | none =>
    obtain ⟨source, member, fails⟩ := failing
    exact absurd fails (List.find?_eq_none.mp found source (arranged.mem_iff.mpr member))
  | some source =>
    obtain ⟨before, after, split, fails, lower, least⟩ :=
      arranged.find?_eq_some Nat.le_refl found
    obtain ⟨error, failed⟩ := source.error_of_fails fails
    refine ⟨source, error, ⟨before, after, split, fails, fun other member also => ?_, least⟩,
      failed, ?_⟩
    · obtain ⟨below, apart⟩ := lower other member also
      omega
    · rw [resolve_eq, mergeSources_error found failed]
      rfl

theorem amounts_ranked (sources : List Source) (setting : Setting) :
    Amounts sources setting
      (((ranked sources).reverse.findSome? (·.set? setting)).getD setting.default) := by
  have arranged := (Arranged.ranked sources).reverse
  cases found : (ranked sources).reverse.findSome? (·.set? setting) with
  | none =>
    have unset := List.findSome?_eq_none_iff.mp found
    refine Or.inr ⟨fun source member => unset source ?_, rfl⟩
    exact arranged.mem_iff.mpr (List.mem_reverse.mpr member)
  | some value =>
    obtain ⟨above, source, below, split, sets, unset⟩ := List.findSome?_eq_some_iff.mp found
    have top : (ranked sources).reverse.find? (fun other => (other.set? setting).isSome) =
        some source := by
      refine List.find?_eq_some_iff_append.mpr ⟨by simp [sets], above, below, split, ?_⟩
      intro other member
      simp [unset other member]
    obtain ⟨after, before, around, kind, lower, highest⟩ :=
      arranged.find?_eq_some Nat.le_refl top
    refine Or.inl ⟨source, ⟨before.reverse, after.reverse, ?_, kind, ?_, ?_⟩, sets⟩
    · simpa using congrArg List.reverse around
    · intro other member also
      exact highest other (List.mem_reverse.mp member) also
    · intro other member also
      obtain ⟨below, apart⟩ := lower other (List.mem_reverse.mp member) also
      omega

theorem resolve_settled (yield : ∀ source ∈ sources, source.fails = false) :
    ∃ config : Resolved, (∀ setting : Setting, Amounts sources setting (setting.value config)) ∧
      resolve sources = config.validate := by
  have arranged := Arranged.ranked sources
  obtain ⟨layer, merged, holds⟩ :=
    mergeSources_ok fun source member => yield source (arranged.mem_iff.mp member)
  refine ⟨layer.finish, fun setting => ?_, ?_⟩
  · rw [setting.value_finish, holds]
    exact amounts_ranked sources setting
  · rw [resolve_eq, merged]
    rfl

theorem resolve_rearranged (levels : ∀ rank, others.filter (·.precedence.rank = rank) =
    sources.filter (·.precedence.rank = rank)) : resolve others = resolve sources := by
  have same : ranked others = ranked sources :=
    (Arranged.ranked others).unique (Arranged.ranked sources) levels
  rw [resolve_eq, resolve_eq, same]

theorem Precedence.rank_inj {a b : Precedence} (same : a.rank = b.rank) : a = b := by
  cases a <;> cases b <;> first | rfl | cases same

theorem filter_of_distinct (distinct : (sources.map (·.precedence)).Nodup)
    (shuffled : others.Perm sources) (rank : Nat) :
    others.filter (·.precedence.rank = rank) = sources.filter (·.precedence.rank = rank) := by
  have level := shuffled.filter (·.precedence.rank = rank)
  have loose : ∀ list : List Source, list.Pairwise fun _ _ => True :=
    fun _ => List.pairwise_of_forall fun _ _ => trivial
  refine level.eq_of_pairwise ?_ (loose _) (loose _)
  intro a b left right _ _
  obtain ⟨left, here⟩ := List.mem_filter.mp left
  obtain ⟨right, also⟩ := List.mem_filter.mp right
  have same := (of_decide_eq_true here).trans (of_decide_eq_true also).symm
  exact List.inj_on_of_nodup_map distinct (shuffled.mem_iff.mp left) right
    (Precedence.rank_inj same)

/-- The outcome of a set of sources. If one of them fails, then it is the error of the first that
does. Otherwise every value is what the last of the sources that set it sets it to, or else the
default, and this is accepted exactly if it is valid. Sources of distinct precedences can stand in
any order. -/
theorem resolve_precedence (sources : List Source) :
    ((∃ source ∈ sources, source.fails) →
      ∃ source error, First Source.fails sources source ∧ source.layer = .error error ∧
        resolve sources = .error error) ∧
    ((¬ ∃ source ∈ sources, source.fails) →
      ∃ config : Resolved, (∀ setting : Setting, Amounts sources setting (setting.value config)) ∧
        (resolve sources = .ok config ↔ config.Valid) ∧
        (¬ config.Valid → ∃ error, resolve sources = .error error ∧ error.IsValidation)) ∧
    (∀ others, (∀ rank, others.filter (·.precedence.rank = rank) =
        sources.filter (·.precedence.rank = rank)) → resolve others = resolve sources) ∧
    ∀ others, others.Perm sources → (sources.map (·.precedence)).Nodup →
      resolve others = resolve sources := by
  refine ⟨resolve_failed, fun yield => ?_, fun others => resolve_rearranged, ?_⟩
  · have settled : ∀ source ∈ sources, source.fails = false := by simpa using yield
    obtain ⟨config, amounts, outcome⟩ := resolve_settled settled
    refine ⟨config, amounts, ?_, fun invalid => ?_⟩
    · rw [outcome, validate_eq_ok, and_iff_left rfl]
    · rw [outcome]
      exact validate_invalid invalid
  · intro others shuffled distinct
    exact resolve_rearranged (filter_of_distinct distinct shuffled)

/-- A flag from the environment over one from a file that sets a key as well. -/
def layered : List Source :=
  [.fixed .environment { access := some { cascade := some false } },
   .fixed .file { access := some { cascade := some true, userKey := some "acme.io/users" } }]

/-- A variable that does not read, in front of a file that does not either. -/
def unreadable : List Source :=
  [⟨"environment", .environment,
     .error (.invalidValue cascadeVariable "invalid bool value 'maybe'")⟩,
   ⟨"toml-config", .file, .error (.malformedFile systemPath)⟩]

theorem resolve_precedence_layered :
    (∀ setting : Setting, Amounts layered setting (setting.value
      { access := { organizationCascade := false, keys := { user := "acme.io/users" } } })) ∧
    resolve layered.reverse =
      .ok { access := { organizationCascade := false, keys := { user := "acme.io/users" } } } ∧
    resolve unreadable = .error (.malformedFile systemPath) := by
  have sorted : resolve layered.reverse =
      .ok { access := { organizationCascade := false, keys := { user := "acme.io/users" } } } := by
    rw [resolve_of_sorted (by decide)]
    decide +kernel
  have swapped := (resolve_precedence layered).2.2.2 layered.reverse
    (List.reverse_perm layered) (by decide)
  have accepted := swapped.symm.trans sorted
  refine ⟨?_, sorted, ?_⟩
  · obtain ⟨config, amounts, valid, invalid⟩ := (resolve_precedence layered).2.1 (by decide)
    by_cases holds : config.Valid
    · cases accepted.symm.trans (valid.mpr holds)
      exact amounts
    · obtain ⟨error, failed, -⟩ := invalid holds
      cases accepted.symm.trans failed
  · obtain ⟨source, error, ⟨before, after, split, -, -, least⟩, failed, outcome⟩ :=
      (resolve_precedence unreadable).1 ⟨_, List.mem_cons_self, rfl⟩
    rw [outcome]
    rcases before with _ | ⟨first, _ | ⟨second, before⟩⟩
    · cases split
      exact absurd (least _ List.mem_cons_self rfl) (by decide)
    · cases split
      cases failed
      rfl
    · have lengths := congrArg List.length split
      simp [unreadable] at lengths

end ScopedGrants.Config
