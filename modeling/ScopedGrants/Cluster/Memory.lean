import ScopedGrants.Cluster.Program

/-!
A cluster in memory. It counts the requests it gets, and can be made to refuse them all.
-/

namespace ScopedGrants.Cluster

instance namesOrd : Ord (String × String) := lexOrd

structure Memory where
  spaces : SortedMap String Object := .empty
  secrets : SortedMap (String × String) Object := .empty
  /-- The words with which every request is refused. -/
  refusal : Option String := none
  calls : Nat := 0
deriving DecidableEq

namespace Memory

def find? (memory : Memory) : Ref → Option Object
  | .space name => memory.spaces.get? name
  | .secret space name => memory.secrets.get? (space, name)

def put (memory : Memory) (object : Object) : Ref → Memory
  | .space name => { memory with spaces := memory.spaces.insert name object }
  | .secret space name => { memory with secrets := memory.secrets.insert (space, name) object }

def add (memory : Memory) (ref : Ref) (labels : SortedMap String String)
    (annotations : Annotations) : Memory :=
  let (space, name) : Option String × String := match ref with
    | .space name => (none, name)
    | .secret space name => (some space, name)
  memory.put { name := some name, space, labels := some labels, annotations := some annotations }
    ref

def refuse (memory : Memory) (words : String) : Memory := { memory with refusal := some words }

def annotations? (memory : Memory) (ref : Ref) : Option Annotations :=
  (memory.find? ref).map (·.annotationMap)

def serve (memory : Memory) (object : Object) : (request : Request) → request.Answer × Memory
  | .fetch _ => (object, memory)
  | .annotate ref annotations => ((), memory.put (object.annotate annotations) ref)

def answer (memory : Memory) (request : Request) : Except Failure request.Answer × Memory :=
  let memory := { memory with calls := memory.calls + 1 }
  match memory.refusal with
  | some words => (.error (.trouble (.refused words)), memory)
  | none =>
    match memory.find? request.ref with
    | none => (.error request.ref.missing, memory)
    | some object =>
      let (answer, memory) := memory.serve object request
      (.ok answer, memory)

def client : Client (StateM Memory) := fun request memory => memory.answer request

end Memory
end ScopedGrants.Cluster
