import ScopedGrants.Cluster.Manifest
import ScopedGrants.Cluster.Message
import ScopedGrants.Cluster.Program

/-!
The requests to a cluster as messages to its endpoint. Every request is one message, and its
result hangs on the reply alone; a name that cannot be part of an address fails without a message.
-/

namespace ScopedGrants.Cluster

structure Message where
  method : String
  /-- The path with its query. -/
  target : String
  contentType : Option String := none
  body : Option String := none
deriving DecidableEq, Repr

structure Reply where
  code : Nat
  body : String
deriving DecidableEq, Repr

namespace Endpoint

def inPath (c : Char) : Bool :=
  let n := c.toNat
  n = 0x21 || n = 0x22 || 0x24 ≤ n && n ≤ 0x3B || n = 0x3D || 0x40 ≤ n && n ≤ 0x5F
    || 0x61 ≤ n && n ≤ 0x7E || 0x80 ≤ n

def inQuery (c : Char) : Bool :=
  let n := c.toNat
  n = 0x21 || 0x24 ≤ n && n ≤ 0x3B || n = 0x3D || 0x3F ≤ n && n ≠ 0x7F

/-- The most bytes of an address. -/
def addressLimit : Nat := 65534

/-- What is sent of an address that is not too long: the path and the query, if both hold nothing
but what they may, without what a number sign sets off. -/
def target? (address : String) : Option String :=
  let sent := address.toList.takeWhile (· ≠ '#')
  if address.utf8ByteSize ≤ addressLimit ∧ (sent.takeWhile (· ≠ '?')).all inPath
      ∧ ((sent.dropWhile (· ≠ '?')).drop 1).all inQuery then
    some (String.ofList sent)
  else none

def address : Ref → String
  | .space name => "/api/v1/namespaces/" ++ name
  | .secret space name => "/api/v1/namespaces/" ++ space ++ "/secrets/" ++ name

def lastName : Ref → String
  | .space name | .secret _ name => name

def patchBody (annotations : Annotations) : String :=
  let texts := annotations.entries.map fun entry => (entry.1, Json.Tree.ofText entry.2)
  (Json.Tree.ofMembers [("metadata", .ofMembers [("annotations", .ofMembers texts)])]).write

def message? (request : Request) : Option Message :=
  if lastName request.ref = "" then none
  else
    match request with
    | .fetch ref => (target? (address ref)).map fun target => { method := "GET", target }
    | .annotate ref annotations =>
      (target? (address ref ++ "?&fieldManager=warden")).map fun target =>
        { method := "PATCH", target, contentType := some "application/merge-patch+json",
          body := some (patchBody annotations) }

/-! ### Replies -/

def phrases : List (Nat × String) :=
  [(400, "Bad Request"), (401, "Unauthorized"), (402, "Payment Required"), (403, "Forbidden"),
   (404, "Not Found"), (405, "Method Not Allowed"), (406, "Not Acceptable"),
   (407, "Proxy Authentication Required"), (408, "Request Timeout"), (409, "Conflict"),
   (410, "Gone"), (411, "Length Required"), (412, "Precondition Failed"),
   (413, "Payload Too Large"), (414, "URI Too Long"), (415, "Unsupported Media Type"),
   (416, "Range Not Satisfiable"), (417, "Expectation Failed"), (418, "I'm a teapot"),
   (421, "Misdirected Request"), (422, "Unprocessable Entity"), (423, "Locked"),
   (424, "Failed Dependency"), (425, "Too Early"), (426, "Upgrade Required"),
   (428, "Precondition Required"), (429, "Too Many Requests"),
   (431, "Request Header Fields Too Large"), (451, "Unavailable For Legal Reasons"),
   (500, "Internal Server Error"), (501, "Not Implemented"), (502, "Bad Gateway"),
   (503, "Service Unavailable"), (504, "Gateway Timeout"), (505, "HTTP Version Not Supported"),
   (506, "Variant Also Negotiates"), (507, "Insufficient Storage"), (508, "Loop Detected"),
   (510, "Not Extended"), (511, "Network Authentication Required")]

def codeLine (code : Nat) : String :=
  toString code ++ " " ++ (phrases.lookup code).getD "<unknown status code>"

structure StatusFields where
  status : Option String := none
  message : Option String := none
  reason : Option String := none
  code : Option UInt16 := none
deriving DecidableEq, Repr

def StatusFields.status? (fields : StatusFields) : Except Json.Fault Status := do
  return { status := ← Json.required fields.status, message := fields.message.getD "",
           reason := fields.reason.getD "", code := ← Json.required fields.code }

def decodeCode : Json.Decoder UInt16 := fun tree => do
  let code ← Json.decodeInt64 tree
  if 0 ≤ code.toInt ∧ code.toInt < 65536 then return code.toInt.toNat.toUInt16
  else .error .mistyped

def StatusFields.step (fields : StatusFields) (key : String) (value : Json.Tree) :
    Except Json.Fault StatusFields :=
  match key with
  | "status" => do
    return { fields with status := ← Json.once fields.status Json.decodeText value }
  | "message" => do
    return { fields with message := ← Json.once fields.message Json.decodeText value }
  | "reason" => do
    return { fields with reason := ← Json.once fields.reason Json.decodeText value }
  | "code" => do return { fields with code := ← Json.once fields.code decodeCode value }
  | _ => do
    Json.skip value
    return fields

def decodeStatus : Json.Decoder Status
  | .object members => do (← members.fold StatusFields.step {}).status?
  | .array items => do
    let (status, items) ← items.next? Json.decodeText
    let (message, items) ← items.next? Json.decodeText
    let (reason, items) ← items.next? Json.decodeText
    let (code, items) ← items.next? decodeCode
    items.finish
    StatusFields.status? { status, message, reason, code }
  | tree => .error tree.misfit

/-- What a refusal says. A body that is no status is shown as it is. -/
def statusOf (reply : Reply) : Status :=
  match Json.decode decodeStatus reply.body with
  | .ok status => status
  | .error _ =>
    { status := codeLine reply.code, message := Text.describe reply.body,
      reason := "Failed to parse error data", code := reply.code.toUInt16 }

/-- The object in a reply, or the failure it tells of. That an object is missing shows in the code
within the body of a refusal, not in that of the reply. -/
def read (ref : Ref) (reply : Reply) : Except Failure Object :=
  if 400 ≤ reply.code ∧ reply.code < 600 then
    let status := statusOf reply
    if status.code = 404 then .error ref.missing else .error (.trouble (.rejected status))
  else
    match Json.decode (Manifest.decode ref.kind) reply.body with
    | .ok object => .ok object
    | .error _ => .error (.trouble .unreadable)

/-- What a request brings by its reply. One that adds annotations is answered with the object,
which is read too. -/
def answer (reply : Reply) : (request : Request) → Except Failure request.Answer
  | .fetch ref => read ref reply
  | .annotate ref _ => (read ref reply).map fun _ => ()

def client {m : Type → Type} [Monad m] (send : Message → m Reply) : Client m := fun request => do
  match message? request with
  | none => return .error (.trouble .unaddressable)
  | some message => return answer (← send message) request

end Endpoint
end ScopedGrants.Cluster
