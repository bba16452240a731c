import ScopedGrants.Proofs.Json.Decode

/-!
What readers of arrays and objects accept. A value that one of them accepts is not cut short, and so
it is an array of some values or an object of some members.
-/

namespace ScopedGrants.Json

variable {α σ : Type}

/-! ### Values that are whole -/

theorem Items.broken_mem {items : Items} (short : items.CutShort) (first : Bool) :
    ∃ cut, Token.broken cut ∈ items.tokens first := by
  cases items with
  | closed => exact short.elim
  | cutOff cut => exact ⟨cut, List.mem_singleton_self _⟩
  | item value rest =>
    obtain ⟨cut, member⟩ := rest.broken_mem short false
    exact ⟨cut, List.mem_append_right _ (List.mem_append_right _ member)⟩

theorem Members.broken_mem {members : Members} (short : members.CutShort) (first : Bool) :
    ∃ cut, Token.broken cut ∈ members.tokens first := by
  cases members with
  | closed => exact short.elim
  | cutOff cut => exact ⟨cut, List.mem_singleton_self _⟩
  | member key value rest =>
    obtain ⟨cut, member⟩ := rest.broken_mem short false
    refine ⟨cut, List.mem_append_right _ ?_⟩
    exact List.mem_cons_of_mem _ (List.mem_cons_of_mem _ (List.mem_append_right _ member))

def Tree.Whole (tree : Tree) : Prop := ∀ token ∈ tree.tokens, token.Whole

theorem Tree.Whole.not_cutShort {tree : Tree} (whole : tree.Whole) : ¬ tree.CutShort := by
  intro short
  cases tree with
  | broken cut => exact whole _ (List.mem_singleton_self _)
  | array items =>
    obtain ⟨cut, member⟩ := Items.broken_mem short true
    exact whole _ (List.mem_cons_of_mem _ member)
  | object members =>
    obtain ⟨cut, member⟩ := Members.broken_mem short true
    exact whole _ (List.mem_cons_of_mem _ member)
  | _ => exact short

theorem skip_eq_ok {tree : Tree} : skip tree = .ok () ↔ ¬ tree.CutShort := by
  have items_skip : ∀ items : Items, items.skip = .ok () ↔ ¬ items.CutShort := by
    intro items
    fun_induction Items.skip items <;> simp_all [Items.CutShort]
  have members_skip : ∀ members : Members, members.skip = .ok () ↔ ¬ members.CutShort := by
    intro members
    fun_induction Members.skip members <;> simp_all [Members.CutShort]
  cases tree with
  | array items => exact items_skip items
  | object members => exact members_skip members
  | _ => simp [skip, Tree.CutShort]

/-- A value of the form stands in a place, or the place is empty and leaves the default. -/
inductive Filled (form : Tree → α → Prop) (default : α) : List Tree → α → Prop
  | missing : Filled form default [] default
  | given {tree : Tree} {value : α} (fits : form tree value) : Filled form default [tree] value

/-! ### Arrays -/

def Items.ofValues (values : List Tree) : Items := values.foldr .item .closed

theorem Items.mem_tokens {values : List Tree} {value : Tree} (member : value ∈ values)
    {token : Token} (inside : token ∈ value.tokens) (first : Bool) :
    token ∈ (ofValues values).tokens first := by
  induction values generalizing first with
  | nil => cases member
  | cons head values ih =>
    refine List.mem_append_right _ ?_
    rcases List.mem_cons.mp member with rfl | later
    · exact List.mem_append_left _ inside
    · exact List.mem_append_right _ (ih later false)

theorem Tree.Whole.value {values : List Tree} (whole : (Tree.ofList values).Whole) {value : Tree}
    (member : value ∈ values) : value.Whole :=
  fun _ inside => whole _ (List.mem_cons_of_mem _ (Items.mem_tokens member inside true))

theorem Items.ofValues_not_cutShort (values : List Tree) : ¬ (ofValues values).CutShort := by
  induction values with
  | nil => exact id
  | cons value values ih => exact ih

theorem Items.decode_eq_ok {read : Decoder α} {items : Items} {result : List α} :
    items.decode read = .ok result ↔ ∃ values, items = ofValues values ∧
      List.Forall₂ (fun value found => read value = .ok found) values result := by
  constructor
  · intro accepted
    fun_induction Items.decode read items generalizing result with
    | case1 =>
      cases accepted
      exact ⟨[], rfl, .nil⟩
    | case2 => cases accepted
    | case3 value rest ih =>
      obtain ⟨first, found, accepted⟩ := bind_eq_ok.mp accepted
      obtain ⟨others, rest_found, accepted⟩ := bind_eq_ok.mp accepted
      cases accepted
      obtain ⟨values, rfl, all⟩ := ih rest_found
      exact ⟨value :: values, rfl, .cons found all⟩
  · rintro ⟨values, rfl, all⟩
    induction all with
    | nil => rfl
    | cons found _ ih =>
      refine bind_eq_ok.mpr ⟨_, found, bind_eq_ok.mpr ⟨_, ih, rfl⟩⟩

section

variable {read : Decoder α} {form : Tree → α → Prop}

theorem Items.next?_filled (fits : ∀ tree value, read tree = .ok value ↔ form tree value)
    (default : α) {items : Items} {later : List Tree} {found : Option α}
    (accepted : items.next? read = .ok (found, ofValues later)) :
    ∃ values, items = ofValues values ∧ values.tail = later ∧
      Filled form default values.head?.toList (found.getD default) := by
  cases items with
  | closed =>
    obtain ⟨rfl, same⟩ := Prod.mk.inj (Except.ok.inj accepted)
    cases later with
    | nil => exact ⟨[], rfl, rfl, .missing⟩
    | cons value later => cases same
  | cutOff cut => cases accepted
  | item value rest =>
    obtain ⟨here, read_here, accepted⟩ := bind_eq_ok.mp accepted
    cases accepted
    exact ⟨value :: later, rfl, rfl, .given ((fits _ _).mp read_here)⟩

theorem Items.filled_next? (fits : ∀ tree value, read tree = .ok value ↔ form tree value)
    {default value : α} {values : List Tree}
    (filled : Filled form default values.head?.toList value) :
    ∃ found, (ofValues values).next? read = .ok (found, ofValues values.tail) ∧
      found.getD default = value := by
  cases values with
  | nil =>
    cases filled
    exact ⟨none, rfl, rfl⟩
  | cons tree values =>
    obtain _ | form := filled
    exact ⟨some value, bind_eq_ok.mpr ⟨value, (fits _ _).mpr form, rfl⟩, rfl⟩

end

theorem Items.finish_eq_ok {items : Items} : items.finish = .ok () ↔ items = ofValues [] := by
  cases items <;> simp [finish, ofValues]

/-! ### Objects -/

def Members.ofEntries (entries : List (String × Tree)) : Members :=
  entries.foldr (fun entry rest => .member (some entry.1) entry.2 rest) .closed

theorem Members.mem_tokens {entries : List (String × Tree)} {entry : String × Tree}
    (member : entry ∈ entries) {token : Token} (inside : token ∈ entry.2.tokens) (first : Bool) :
    token ∈ (ofEntries entries).tokens first := by
  induction entries generalizing first with
  | nil => cases member
  | cons head entries ih =>
    refine List.mem_append_right _ (List.mem_cons_of_mem _ (List.mem_cons_of_mem _ ?_))
    rcases List.mem_cons.mp member with rfl | later
    · exact List.mem_append_left _ inside
    · exact List.mem_append_right _ (ih later false)

theorem Tree.Whole.entry {entries : List (String × Tree)} (whole : (Tree.ofMembers entries).Whole)
    {entry : String × Tree} (member : entry ∈ entries) : entry.2.Whole :=
  fun _ inside => whole _ (List.mem_cons_of_mem _ (Members.mem_tokens member inside true))

theorem Members.fold_eq_ok {step : σ → String → Tree → Except Fault σ} {state result : σ}
    {members : Members} :
    members.fold step state = .ok result ↔ ∃ entries, members = ofEntries entries ∧
      entries.foldlM (fun state entry => step state entry.1 entry.2) state = .ok result := by
  constructor
  · intro accepted
    fun_induction Members.fold step state members with
    | case1 => exact ⟨[], rfl, accepted⟩
    | case2 | case3 => cases accepted
    | case4 state key value rest ih =>
      obtain ⟨next, stepped, accepted⟩ := bind_eq_ok.mp accepted
      obtain ⟨entries, rfl, others⟩ := ih next accepted
      refine ⟨(key, value) :: entries, rfl, ?_⟩
      rw [List.foldlM_cons]
      exact bind_eq_ok.mpr ⟨next, stepped, others⟩
  · rintro ⟨entries, rfl, accepted⟩
    induction entries generalizing state with
    | nil => exact accepted
    | cons entry entries ih =>
      rw [List.foldlM_cons] at accepted
      obtain ⟨next, stepped, others⟩ := bind_eq_ok.mp accepted
      exact bind_eq_ok.mpr ⟨next, stepped, ih others⟩

def valuesAt (key : String) (entries : List (String × Tree)) : List Tree :=
  (entries.filter (·.1 = key)).map (·.2)

theorem valuesAt_cons_self (key : String) (value : Tree) (entries : List (String × Tree)) :
    valuesAt key ((key, value) :: entries) = value :: valuesAt key entries := by
  simp [valuesAt]

theorem valuesAt_cons_of_ne {key : String} {entry : String × Tree} (other : entry.1 ≠ key)
    (entries : List (String × Tree)) : valuesAt key (entry :: entries) = valuesAt key entries := by
  simp [valuesAt, other]

/-- A field that may be named once takes the one value there is, or none. -/
theorem foldlM_once {read : Decoder α} {form : Tree → α → Prop}
    (fits : ∀ tree value, read tree = .ok value ↔ form tree value) {default value : α}
    {values : List Tree} :
    (∃ found, values.foldlM (fun seen value => once seen read value) none = .ok found ∧
      found.getD default = value) ↔ Filled form default values value := by
  constructor
  · rintro ⟨found, accepted, rfl⟩
    obtain _ | ⟨tree, _ | ⟨other, values⟩⟩ := values
    · cases accepted
      exact .missing
    · rw [List.foldlM_cons] at accepted
      obtain ⟨seen, taken, accepted⟩ := bind_eq_ok.mp accepted
      obtain ⟨here, read_here, rfl⟩ := map_eq_ok.mp taken
      cases accepted
      exact .given ((fits _ _).mp read_here)
    · rw [List.foldlM_cons] at accepted
      obtain ⟨seen, taken, accepted⟩ := bind_eq_ok.mp accepted
      obtain ⟨here, -, rfl⟩ := map_eq_ok.mp taken
      cases accepted
  · intro filled
    cases filled with
    | missing => exact ⟨none, rfl, rfl⟩
    | given form =>
      refine ⟨some value, ?_, rfl⟩
      rw [List.foldlM_cons]
      exact bind_eq_ok.mpr ⟨_, map_eq_ok.mpr ⟨value, (fits _ _).mpr form, rfl⟩, rfl⟩

end ScopedGrants.Json
