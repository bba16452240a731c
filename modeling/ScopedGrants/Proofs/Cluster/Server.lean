import Mathlib.Data.List.TakeWhile
import ScopedGrants.Proofs.Cluster.Manifest

/-!
The endpoint of a cluster that keeps a table of manifests. Where an object is there, the client gets
it as its manifest says, and a patch adds annotations to the manifest; where it is missing, the
client is told so.
-/

namespace ScopedGrants.Cluster

open Json

namespace Endpoint

/-! ### Addresses -/

def marks : List Char :=
  ['-', '.', '_', '~', '!', '$', '&', '\'', '(', ')', '*', '+', ',', ';', '=', ':', '@']

def isPlain (c : Char) : Bool :=
  let n := c.toNat
  0x30 ≤ n && n ≤ 0x39 || 0x41 ≤ n && n ≤ 0x5A || 0x61 ≤ n && n ≤ 0x7A || marks.contains c

def IsName (name : String) : Prop := name ≠ "" ∧ name.toList.all isPlain

def Named : Ref → Prop
  | .space name => IsName name
  | .secret space name => IsName space ∧ IsName name

def requestAddress : Request → String
  | .fetch ref => address ref
  | .annotate ref _ => address ref ++ "?&fieldManager=warden"

structure Sendable (request : Request) : Prop where
  named : Named request.ref
  short : (requestAddress request).utf8ByteSize ≤ addressLimit

def message (request : Request) : Message :=
  match request with
  | .fetch _ => { method := "GET", target := requestAddress request }
  | .annotate _ annotations =>
    { method := "PATCH", target := requestAddress request,
      contentType := some "application/merge-patch+json", body := some (patchBody annotations) }

/-- The character belongs to the path of an address wherever it stands. -/
def passes (c : Char) : Bool := inPath c && c ≠ '?' && c ≠ '#'

theorem passes_of_isPlain {c : Char} (plain : isPlain c) : passes c := by
  simp only [isPlain, Bool.or_eq_true, Bool.and_eq_true, decide_eq_true_eq,
    List.contains_iff_mem] at plain
  rcases plain with alphanumeric | listed
  · have inside : inPath c := by
      simp only [inPath, Bool.or_eq_true, Bool.and_eq_true, decide_eq_true_eq]
      omega
    have apart : ∀ mark : Char, mark.toNat < 48 ∨ mark.toNat = 63 → c ≠ mark := by
      rintro mark low rfl
      omega
    simp [passes, inside, apart '?' (by decide), apart '#' (by decide)]
  · have all : marks.all passes = true := by decide
    exact List.all_eq_true.mp all c listed

theorem address_space (name : String) :
    address (.space name) = "/api/v1/namespaces/" ++ name := rfl

theorem address_secret (space name : String) :
    address (.secret space name) = "/api/v1/namespaces/" ++ space ++ "/secrets/" ++ name := rfl

theorem IsName.passes {name : String} (plain : IsName name) : name.toList.all passes := by
  rw [List.all_eq_true]
  intro c member
  exact passes_of_isPlain (List.all_eq_true.mp plain.2 c member)

theorem address_passes {ref : Ref} (named : Named ref) : (address ref).toList.all passes := by
  have folder : "/api/v1/namespaces/".toList.all passes = true := by decide
  have secrets : "/secrets/".toList.all passes = true := by decide
  cases ref with
  | space name =>
    rw [address_space, String.toList_append, List.all_append, folder, named.passes]
    rfl
  | secret space name =>
    rw [address_secret, String.toList_append, String.toList_append, String.toList_append,
      List.all_append, List.all_append, List.all_append, folder, secrets, named.1.passes,
      named.2.passes]
    rfl

theorem takeWhile_query {path query : String} (inside : path.toList.all passes)
    (ends : query.toList.takeWhile (· ≠ '?') = []) :
    (path ++ query).toList.takeWhile (· ≠ '?') = path.toList := by
  have unasked : ∀ c ∈ path.toList, decide (c ≠ '?') = true := by
    intro c member
    have passes := List.all_eq_true.mp inside c member
    simp_all [Endpoint.passes]
  rw [String.toList_append, List.takeWhile_append_of_pos unasked, ends, List.append_nil]

theorem target?_eq_some {path query : String} (inside : path.toList.all passes)
    (ends : query.toList.takeWhile (· ≠ '?') = [])
    (asks : ((query.toList.dropWhile (· ≠ '?')).drop 1).all inQuery)
    (whole : query.toList.all (· ≠ '#'))
    (short : (path ++ query).utf8ByteSize ≤ addressLimit) :
    target? (path ++ query) = some (path ++ query) := by
  have each : ∀ c ∈ path.toList, inPath c ∧ c ≠ '?' ∧ c ≠ '#' := by
    intro c member
    have passes := List.all_eq_true.mp inside c member
    simp_all [Endpoint.passes]
  have sent : (path ++ query).toList.takeWhile (· ≠ '#') = (path ++ query).toList := by
    rw [List.takeWhile_eq_self_iff, String.toList_append]
    intro c member
    rcases List.mem_append.mp member with before | after
    · exact decide_eq_true (each c before).2.2
    · exact List.all_eq_true.mp whole c after
  have after : (path ++ query).toList.dropWhile (· ≠ '?') =
      query.toList.dropWhile (· ≠ '?') := by
    rw [String.toList_append, List.dropWhile_append_of_pos]
    intro c member
    exact decide_eq_true (each c member).2.1
  have fits : path.toList.all inPath := List.all_eq_true.mpr fun c member => (each c member).1
  unfold target?
  dsimp only
  rw [sent, takeWhile_query inside ends, after, if_pos ⟨short, fits, asks⟩, String.ofList_toList]

theorem target?_request {request : Request} (sendable : Sendable request) :
    target? (requestAddress request) = some (requestAddress request) := by
  have inside := address_passes sendable.named
  have short := sendable.short
  cases request with
  | fetch ref =>
    have target : target? (address ref ++ "") = some (address ref ++ "") :=
      target?_eq_some inside rfl rfl rfl (by rwa [String.append_empty])
    rwa [String.append_empty] at target
  | annotate ref annotations => exact target?_eq_some inside rfl (by decide) (by decide) short

theorem message?_eq_some {request : Request} (sendable : Sendable request) :
    message? request = some (message request) := by
  have last : lastName request.ref ≠ "" := by
    have named := sendable.named
    cases ref : request.ref with
    | space name =>
      rw [ref] at named
      exact named.1
    | secret space name =>
      rw [ref] at named
      exact named.2.1
  have target := target?_request sendable
  unfold message?
  rw [if_neg last]
  cases request with
  | fetch ref => exact congrArg (Option.map _) target
  | annotate ref annotations => exact congrArg (Option.map _) target

theorem target?_eq_none {address : String} (long : addressLimit < address.utf8ByteSize) :
    target? address = none := by
  unfold target?
  exact if_neg fun fits => absurd fits.1 (Nat.not_le_of_lt long)

theorem message?_eq_none {request : Request}
    (long : addressLimit < (requestAddress request).utf8ByteSize) : message? request = none := by
  unfold message?
  split
  · rfl
  · cases request with
    | fetch ref => exact congrArg (Option.map _) (target?_eq_none long)
    | annotate ref annotations => exact congrArg (Option.map _) (target?_eq_none long)

instance (name : String) : Decidable (IsName name) := inferInstanceAs (Decidable (_ ∧ _))

instance : (ref : Ref) → Decidable (Named ref)
  | .space name => inferInstanceAs (Decidable (IsName name))
  | .secret space name => inferInstanceAs (Decidable (IsName space ∧ IsName name))

instance (request : Request) : Decidable (Sendable request) :=
  decidable_of_iff (Named request.ref ∧ (requestAddress request).utf8ByteSize ≤ addressLimit)
    ⟨fun both => ⟨both.1, both.2⟩, fun sendable => ⟨sendable.named, sendable.short⟩⟩

end Endpoint

/-! ### Servers -/

abbrev Table := Ref → Option Tree

namespace Endpoint

/-- What is taken for granted of a server. It answers with the manifests that it keeps, in any
spelling, applies a patch before it answers, and says of what is missing that it is. -/
structure Serves (send : Message → StateM Table Reply) : Prop where
  get : ∀ {table : Table} {ref : Ref} {tree : Tree}, Named ref → table ref = some tree →
    tree.Grammatical → ∃ body, tree.SpelledBy body ∧
      (send { method := "GET", target := address ref }).run table = (⟨200, body⟩, table)
  patch : ∀ {table : Table} {ref : Ref} {tree changes : Tree} {body : String}, Named ref →
    table ref = some tree → tree.Grammatical → changes.Grammatical → changes.SpelledBy body →
    ∃ result, (changes.applyTo tree).SpelledBy result ∧
      (send { method := "PATCH", target := address ref ++ "?&fieldManager=warden",
              contentType := some "application/merge-patch+json", body := some body }).run table =
        (⟨200, result⟩, Function.update table ref (some (changes.applyTo tree)))
  missing : ∀ {table : Table} {request : Request}, Named request.ref → table request.ref = none →
    ∃ reply status, (send (message request)).run table = (reply, table) ∧
      400 ≤ reply.code ∧ reply.code < 600 ∧
      Json.decode decodeStatus reply.body = .ok status ∧ status.code = 404

section

variable {send : Message → StateM Table Reply} {table : Table} {ref : Ref} {tree : Tree}
  {object : Object}

theorem client_run {request : Request} (sendable : Sendable request) {reply : Reply}
    {after : Table} (sent : (send (message request)).run table = (reply, after)) :
    (client send request).run table = (answer reply request, after) := by
  unfold client
  rw [message?_eq_some sendable]
  exact congrArg (fun sent : Reply × Table => (answer sent.1 request, sent.2)) sent

theorem client_unaddressable (send : Message → StateM Table Reply) {request : Request}
    (long : addressLimit < (requestAddress request).utf8ByteSize) (table : Table) :
    (client send request).run table = (.error (.trouble .unaddressable), table) := by
  unfold client
  rw [message?_eq_none long]
  rfl

theorem read_spelled {body : String} (spelled : tree.SpelledBy body)
    (decoded : Manifest.decode ref.kind tree = .ok object) : read ref ⟨200, body⟩ = .ok object := by
  have found : Json.decode (Manifest.decode ref.kind) body = .ok object :=
    (decode_spelledBy _ spelled).trans decoded
  have success : ¬ (400 ≤ 200 ∧ 200 < 600) := by decide
  rw [read, if_neg success, found]

theorem answer_error {request : Request} {reply : Reply} {failure : Failure}
    (refused : read request.ref reply = .error failure) :
    answer reply request = .error failure := by
  cases request with
  | fetch ref => exact refused
  | annotate ref annotations => exact congrArg (Except.map _) refused

theorem client_missing (serves : Serves send) {request : Request} (sendable : Sendable request)
    (missing : table request.ref = none) :
    (client send request).run table = (.error request.ref.missing, table) := by
  obtain ⟨reply, status, sent, least, most, decoded, code⟩ := serves.missing sendable.named missing
  have refused : read request.ref reply = .error request.ref.missing := by
    rw [read, if_pos ⟨least, most⟩]
    simp [statusOf, decoded, code]
  rw [client_run sendable sent, answer_error refused]

theorem client_fetch (serves : Serves send) (sendable : Sendable (.fetch ref))
    (kept : table ref = some tree) (grammatical : tree.Grammatical)
    (decoded : Manifest.decode ref.kind tree = .ok object) :
    (client send (.fetch ref)).run table = (.ok object, table) := by
  obtain ⟨body, spelled, sent⟩ := serves.get sendable.named kept grammatical
  rw [client_run sendable sent, answer, read_spelled spelled decoded]

theorem client_annotate (serves : Serves send) {annotations : Annotations}
    (sendable : Sendable (.annotate ref annotations)) (kept : table ref = some tree)
    (grammatical : tree.Grammatical) (decoded : Manifest.decode ref.kind tree = .ok object) :
    (client send (.annotate ref annotations)).run table =
      (.ok (), Function.update table ref (some ((patchOf annotations).applyTo tree))) := by
  have patch := patchOf_grammatical annotations
  obtain ⟨result, spelled, sent⟩ :=
    serves.patch sendable.named kept grammatical patch (Tree.spelledBy_write patch)
  have patched := Manifest.decode_patched annotations decoded
  rw [client_run sendable sent, answer, read_spelled spelled patched]
  rfl

end

/-! ### A server -/

def locate (target : String) : Option Ref :=
  match ((target.toList.takeWhile (· ≠ '?')).splitOn '/').map String.ofList with
  | ["", "api", "v1", "namespaces", name] => some (.space name)
  | ["", "api", "v1", "namespaces", space, "secrets", name] => some (.secret space name)
  | _ => none

theorem noSlash_of_isName {name : String} (plain : IsName name) : '/' ∉ name.toList := by
  intro member
  have impossible := List.all_eq_true.mp plain.2 '/' member
  revert impossible
  decide

theorem locate_address {ref : Ref} (named : Named ref) {query : String}
    (ends : query.toList.takeWhile (· ≠ '?') = []) : locate (address ref ++ query) = some ref := by
  unfold locate
  rw [takeWhile_query (address_passes named) ends]
  have folder : "/api/v1/namespaces/".toList =
      ['/'].intercalate [[], "api".toList, "v1".toList, "namespaces".toList] ++ ['/'] := by decide
  cases ref with
  | space name =>
    have parts : (address (.space name)).toList = ['/'].intercalate
        [[], "api".toList, "v1".toList, "namespaces".toList, name.toList] := by
      rw [address_space, String.toList_append, folder]
      simp [List.intercalate]
    have apart := noSlash_of_isName named
    rw [parts, List.splitOn_intercalate '/' _ (List.cons_ne_nil _ _)]
    · simp
    · simp_all
  | secret space name =>
    have parts : (address (.secret space name)).toList = ['/'].intercalate
        [[], "api".toList, "v1".toList, "namespaces".toList, space.toList, "secrets".toList,
          name.toList] := by
      rw [address_secret, String.toList_append, String.toList_append, String.toList_append, folder]
      simp [List.intercalate]
    have outer := noSlash_of_isName named.1
    have inner := noSlash_of_isName named.2
    rw [parts, List.splitOn_intercalate '/' _ (List.cons_ne_nil _ _)]
    · simp
    · simp_all

theorem locate_request {request : Request} (named : Named request.ref) :
    locate (requestAddress request) = some request.ref := by
  cases request with
  | fetch ref =>
    have located : locate (address ref ++ "") = some ref := locate_address named rfl
    rwa [String.append_empty] at located
  | annotate ref annotations => exact locate_address named rfl

def notFound (ref : Ref) : Reply where
  code := 404
  body := (Tree.ofMembers [("kind", .ofText "Status"), ("apiVersion", .ofText "v1"),
    ("metadata", .ofMembers []), ("status", .ofText "Failure"),
    ("message", .ofText ("\"" ++ lastName ref ++ "\" not found")),
    ("reason", .ofText "NotFound"), ("code", .ofInt 404)]).write

/-- A server that writes manifests without any white space. -/
def serve (message : Message) : StateM Table Reply := fun table =>
  match locate message.target with
  | none => (⟨404, "404 page not found"⟩, table)
  | some ref =>
    match table ref, message.method, message.body with
    | none, _, _ => (notFound ref, table)
    | some tree, "GET", _ => (⟨200, tree.write⟩, table)
    | some tree, "PATCH", some body =>
      match Json.decode Except.ok body with
      | .ok changes =>
        let result := changes.applyTo tree
        (⟨200, result.write⟩, Function.update table ref (some result))
      | .error _ => (⟨400, "400 Bad Request"⟩, table)
    | some _, _, _ => (⟨405, "405 Method Not Allowed"⟩, table)

theorem notFound_status (ref : Ref) :
    Json.decode decodeStatus (notFound ref).body = .ok
      ⟨"Failure", "\"" ++ lastName ref ++ "\" not found", "NotFound", 404⟩ := by
  refine (decode_write _ (Tree.ofMembers_grammatical ?_)).trans rfl
  simp only [List.forall_mem_cons]
  have empty := Tree.ofMembers_grammatical (List.forall_mem_nil _)
  exact ⟨Tree.ofText_grammatical _, Tree.ofText_grammatical _, empty, Tree.ofText_grammatical _,
    Tree.ofText_grammatical _, Tree.ofText_grammatical _, Tree.ofInt_grammatical _,
    List.forall_mem_nil _⟩

theorem serve_serves : Serves serve where
  get := by
    intro table ref tree named kept grammatical
    have located : locate (address ref) = some ref := @locate_request (.fetch ref) named
    refine ⟨tree.write, Tree.spelledBy_write grammatical, ?_⟩
    show serve _ table = _
    simp only [serve, located, kept]
  patch := by
    intro table ref tree changes body named kept grammatical patch spelled
    have located : locate (address ref ++ "?&fieldManager=warden") = some ref :=
      locate_address named rfl
    have whole := Tree.applyTo_grammatical changes tree patch grammatical
    refine ⟨(changes.applyTo tree).write, Tree.spelledBy_write whole, ?_⟩
    show serve _ table = _
    simp only [serve, located, kept, decode_spelledBy _ spelled]
  missing := by
    intro table request named missing
    have located := locate_request named
    have target : (message request).target = requestAddress request := by cases request <;> rfl
    refine ⟨notFound request.ref, _, ?_, Nat.le_of_ble_eq_true rfl, Nat.le_of_ble_eq_true rfl,
      notFound_status _, rfl⟩
    show serve _ table = _
    simp only [serve, target, located, missing]

end Endpoint

end ScopedGrants.Cluster
