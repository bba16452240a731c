import ScopedGrants.Proofs.Json.Shape

/-!
Merge patches, and what a reader of records makes of a value that has been patched. A patch that is
an object changes the members that it names and removes those that it gives as null; any other patch
is the new value.
-/

namespace ScopedGrants.Json

variable {σ β : Type}

/-! ### Members by key -/

/-- The members that have a content under their key. -/
def Members.entries : Members → List (String × Tree)
  | .closed | .cutOff _ => []
  | .member none _ rest => rest.entries
  | .member (some key) value rest => (key, value) :: rest.entries

def Tree.entries : Tree → List (String × Tree)
  | .object members => members.entries
  | _ => []

theorem Members.entries_ofEntries (entries : List (String × Tree)) :
    (ofEntries entries).entries = entries := by
  induction entries with
  | nil => rfl
  | cons entry entries ih => exact congrArg (entry :: ·) ih

theorem Members.entries_grammatical {members : Members} {first : Bool}
    (grammatical : ∀ token ∈ members.tokens first, token.Grammatical) :
    ∀ entry ∈ members.entries, entry.2.Grammatical := by
  fun_induction entries members generalizing first with
  | case1 | case2 => exact List.forall_mem_nil _
  | case3 value rest ih =>
    rw [tokens, List.forall_mem_append, List.forall_mem_cons] at grammatical
    cases grammatical.2.1
  | case4 key value rest ih =>
    rw [tokens, List.forall_mem_append, List.forall_mem_cons, List.forall_mem_cons,
      List.forall_mem_append] at grammatical
    obtain ⟨-, -, -, inside, others⟩ := grammatical
    exact List.forall_mem_cons.mpr ⟨inside, ih others⟩

/-- What counts of the values under a key. -/
def fieldValue? (key : String) (entries : List (String × Tree)) : Option Tree :=
  (valuesAt key entries).getLast?

def dropField (key : String) (entries : List (String × Tree)) : List (String × Tree) :=
  entries.filter (·.1 ≠ key)

def putField (key : String) (value : Tree) (entries : List (String × Tree)) :
    List (String × Tree) := dropField key entries ++ [(key, value)]

/-! ### Patches -/

mutual

def Tree.applyTo : Tree → Tree → Tree
  | .object changes, target => .ofMembers (changes.applyTo target.entries)
  | value, _ => value

def Members.applyTo : Members → List (String × Tree) → List (String × Tree)
  | .closed, entries | .cutOff _, entries => entries
  | .member none _ rest, entries => rest.applyTo entries
  | .member (some key) .null rest, entries => rest.applyTo (dropField key entries)
  | .member (some key) value rest, entries =>
    rest.applyTo (putField key (value.applyTo ((fieldValue? key entries).getD .null)) entries)

end

theorem mem_dropField {key : String} {entries : List (String × Tree)} {entry : String × Tree}
    (member : entry ∈ dropField key entries) : entry ∈ entries := (List.mem_filter.mp member).1

theorem forall_mem_putField {key : String} {value : Tree} {entries : List (String × Tree)}
    {good : Tree → Prop} (new : good value) (old : ∀ entry ∈ entries, good entry.2) :
    ∀ entry ∈ putField key value entries, good entry.2 := by
  rw [putField, List.forall_mem_append]
  exact ⟨fun entry member => old entry (mem_dropField member), List.forall_mem_singleton.mpr new⟩

theorem fieldValue?_mem {key : String} {entries : List (String × Tree)} {value : Tree}
    (found : fieldValue? key entries = some value) : (key, value) ∈ entries := by
  obtain ⟨entry, member, rfl⟩ := List.mem_map.mp (List.mem_of_getLast? found)
  obtain ⟨inside, same⟩ := List.mem_filter.mp member
  obtain rfl : entry.1 = key := by simpa using same
  exact inside

theorem fieldValue?_grammatical (key : String) {entries : List (String × Tree)}
    (grammatical : ∀ entry ∈ entries, entry.2.Grammatical) :
    ((fieldValue? key entries).getD .null).Grammatical := by
  cases found : fieldValue? key entries with
  | none => exact List.forall_mem_singleton.mpr trivial
  | some value => exact grammatical _ (fieldValue?_mem found)

theorem Tree.Grammatical.entries {tree : Tree} (grammatical : tree.Grammatical) :
    ∀ entry ∈ tree.entries, entry.2.Grammatical := by
  cases tree with
  | object members => exact members.entries_grammatical (List.forall_mem_cons.mp grammatical).2
  | _ => exact List.forall_mem_nil _

mutual

theorem Tree.applyTo_grammatical (changes target : Tree) (patch : changes.Grammatical)
    (grammatical : target.Grammatical) : (changes.applyTo target).Grammatical := by
  cases changes with
  | object members =>
    rw [Tree.applyTo]
    have inside := (List.forall_mem_cons.mp patch).2
    exact Tree.ofMembers_grammatical
      (members.applyTo_grammatical true target.entries inside grammatical.entries)
  | _ => exact patch

theorem Members.applyTo_grammatical (members : Members) (first : Bool)
    (entries : List (String × Tree)) (patch : ∀ token ∈ members.tokens first, token.Grammatical)
    (grammatical : ∀ entry ∈ entries, entry.2.Grammatical) :
    ∀ entry ∈ members.applyTo entries, entry.2.Grammatical := by
  cases members with
  | closed => exact grammatical
  | cutOff cut => exact grammatical
  | member key value rest =>
    rw [Members.tokens, List.forall_mem_append, List.forall_mem_cons, List.forall_mem_cons,
      List.forall_mem_append] at patch
    obtain ⟨-, -, -, inside, others⟩ := patch
    have later := fun entries => rest.applyTo_grammatical false entries others
    cases key with
    | none => exact later entries grammatical
    | some key =>
      have changed := value.applyTo_grammatical _ inside (fieldValue?_grammatical key grammatical)
      cases value with
      | null => exact later _ fun entry member => grammatical entry (mem_dropField member)
      | _ => exact later _ (forall_mem_putField changed grammatical)

end

theorem Members.applyTo_texts (texts : List (String × String)) (entries : List (String × Tree)) :
    (ofEntries (texts.map fun entry => (entry.1, Tree.ofText entry.2))).applyTo entries =
      texts.foldl (fun entries entry => putField entry.1 (.ofText entry.2) entries) entries := by
  induction texts generalizing entries with
  | nil => rfl
  | cons entry texts ih => exact ih _

/-! ### Reading what has been patched -/

def takeIn (step : σ → String → Tree → Except Fault σ) (state : σ) (entry : String × Tree) :
    Except Fault σ := step state entry.1 entry.2

theorem Members.fold_entries {step : σ → String → Tree → Except Fault σ} {members : Members}
    {state result : σ} (accepted : members.fold step state = .ok result) :
    members.entries.foldlM (takeIn step) state = .ok result := by
  obtain ⟨entries, rfl, folded⟩ := fold_eq_ok.mp accepted
  rw [entries_ofEntries]
  exact folded

/-- The step sets a field where it meets the key, and nowhere else is the field of any account. -/
structure Field (step : σ → String → Tree → Except Fault σ) (key : String) (read : Decoder β)
    (set : σ → β → σ) : Prop where
  here : ∀ state value, step state key value = set state <$> read value
  elsewhere : ∀ state content other value, other ≠ key →
    step (set state content) other value = (set · content) <$> step state other value
  again : ∀ state earlier later, set (set state earlier) later = set state later

variable {step : σ → String → Tree → Except Fault σ} {key : String} {read : Decoder β}
  {set : σ → β → σ}

/-- Without the members under the key the same comes out but for the field. Any content will do to
tell that it comes out at all. -/
theorem Field.drop (field : Field step key read set) (content : β) {state other result : σ}
    {entries : List (String × Tree)} (alike : ∀ content, set state content = set other content)
    (accepted : entries.foldlM (takeIn step) state = .ok result) :
    ∃ rest, (dropField key entries).foldlM (takeIn step) other = .ok rest ∧
      ∀ content, set result content = set rest content := by
  induction entries generalizing state other with
  | nil =>
    cases accepted
    exact ⟨other, rfl, alike⟩
  | cons entry entries ih =>
    rw [List.foldlM_cons] at accepted
    obtain ⟨next, stepped, accepted⟩ := bind_eq_ok.mp accepted
    by_cases same : entry.1 = key
    · -- What is set here is forgotten as soon as the field is set again.
      rw [takeIn, same, field.here] at stepped
      obtain ⟨found, -, rfl⟩ := map_eq_ok.mp stepped
      have forgotten : ∀ content, set (set state found) content = set other content :=
        fun content => (field.again state found content).trans (alike content)
      have dropped : dropField key (entry :: entries) = dropField key entries := by
        simp [dropField, same]
      rw [dropped]
      exact ih forgotten accepted
    · have both : ∀ content, (set · content) <$> step state entry.1 entry.2 =
          (set · content) <$> step other entry.1 entry.2 := by
        intro content
        rw [← field.elsewhere _ _ _ _ same, ← field.elsewhere _ _ _ _ same, alike]
      have stepped : step state entry.1 entry.2 = .ok next := stepped
      rw [stepped] at both
      obtain ⟨after, taken, -⟩ := map_eq_ok.mp (both content).symm
      have later : ∀ content, set next content = set after content := by
        intro content
        have equal := both content
        rw [taken] at equal
        exact Except.ok.inj equal
      obtain ⟨rest, others, alike⟩ := ih later accepted
      have kept : dropField key (entry :: entries) = entry :: dropField key entries := by
        simp [dropField, same]
      refine ⟨rest, ?_, alike⟩
      rw [kept, List.foldlM_cons]
      exact bind_eq_ok.mpr ⟨after, taken, others⟩

theorem Field.put (field : Field step key read set) {value : Tree} {content : β}
    (found : read value = .ok content) {state result : σ} {entries : List (String × Tree)}
    (accepted : entries.foldlM (takeIn step) state = .ok result) :
    (putField key value entries).foldlM (takeIn step) state = .ok (set result content) := by
  obtain ⟨rest, others, alike⟩ := field.drop content (fun _ => rfl) accepted
  rw [putField, List.foldlM_append]
  refine bind_eq_ok.mpr ⟨rest, others, ?_⟩
  rw [List.foldlM_cons, takeIn, field.here, found, alike]
  rfl

theorem Field.get (field : Field step key read set) (get : σ → β)
    (get_set : ∀ state content, get (set state content) = content)
    (set_get : ∀ state, set state (get state) = state) {state result : σ}
    (absent : read .null = .ok (get state)) {entries : List (String × Tree)}
    (accepted : entries.foldlM (takeIn step) state = .ok result) :
    read ((fieldValue? key entries).getD .null) = .ok (get result) := by
  induction entries using List.reverseRecOn generalizing result with
  | nil =>
    cases accepted
    exact absent
  | append_singleton earlier entry ih =>
    rw [List.foldlM_append] at accepted
    obtain ⟨before, first, accepted⟩ := bind_eq_ok.mp accepted
    rw [List.foldlM_cons] at accepted
    obtain ⟨after, last, accepted⟩ := bind_eq_ok.mp accepted
    cases accepted
    by_cases same : entry.1 = key
    · have counts : fieldValue? key (earlier ++ [entry]) = some entry.2 := by
        simp [fieldValue?, valuesAt, same]
      rw [counts]
      rw [takeIn, same, field.here] at last
      obtain ⟨content, found, rfl⟩ := map_eq_ok.mp last
      rw [get_set]
      exact found
    · have counts : fieldValue? key (earlier ++ [entry]) = fieldValue? key earlier := by
        simp [fieldValue?, valuesAt, same]
      have kept := field.elsewhere before (get before) entry.1 entry.2 same
      have last : step before entry.1 entry.2 = .ok result := last
      rw [set_get, last] at kept
      rw [counts, Except.ok.inj kept, get_set]
      exact ih first

end ScopedGrants.Json
