import ScopedGrants.Cluster.Object

/-!
Work on a cluster as a value: requests one after the other, each of which may depend on what the
ones before it brought. A client says what a request brings.
-/

namespace ScopedGrants.Cluster

inductive Request where
  | fetch (ref : Ref)
  | annotate (ref : Ref) (annotations : Annotations)
deriving DecidableEq

namespace Request

abbrev Answer : Request → Type
  | fetch _ => Object
  | annotate .. => Unit

def ref : Request → Ref
  | fetch ref | annotate ref _ => ref

end Request

inductive Program (α : Type) where
  | done (value : α)
  | call (request : Request) (resume : Except Failure request.Answer → Program α)

namespace Program

variable {α β : Type}

protected def bind (next : α → Program β) : Program α → Program β
  | done value => next value
  | call request resume => call request fun answer => (resume answer).bind next

instance : Monad Program where
  pure := done
  bind program next := program.bind next

def request (request : Request) : Program (Except Failure request.Answer) := call request done

end Program

abbrev Client (m : Type → Type) := (request : Request) → m (Except Failure request.Answer)

def Program.run {α : Type} {m : Type → Type} [Monad m] (client : Client m) : Program α → m α
  | done value => pure value
  | call request resume => do (resume (← client request)).run client

abbrev Action (α : Type) := ExceptT Failure Program α

namespace Action

def fetch (ref : Ref) : Action Object := ExceptT.mk (Program.request (.fetch ref))

def annotate (ref : Ref) (annotations : Annotations) : Action Unit :=
  ExceptT.mk (Program.request (.annotate ref annotations))

def grants (keys : GrantKeys) (object : Object) : Action ResourceGrants :=
  ExceptT.mk (.done ((ResourceGrants.ofAnnotations keys object.annotationMap).mapError .malformed))

end Action
end ScopedGrants.Cluster
