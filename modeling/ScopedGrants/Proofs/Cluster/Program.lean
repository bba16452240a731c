import ScopedGrants.Cluster.Program

/-!
Carrying out programs step by step. A program made of two is carried out one after the other, and
an action that fails is not carried on.
-/

namespace ScopedGrants.Cluster

variable {α β : Type} {m : Type → Type} [Monad m]

namespace Program

theorem bind_done (program : Program α) : program.bind done = program := by
  induction program with
  | done value => rfl
  | call request resume ih => exact congrArg (call request) (funext ih)

theorem bind_bind {γ : Type} (program : Program α) (next : α → Program β)
    (last : β → Program γ) :
    (program.bind next).bind last = program.bind fun value => (next value).bind last := by
  induction program with
  | done value => rfl
  | call request resume ih => exact congrArg (call request) (funext ih)

instance : LawfulMonad Program := LawfulMonad.mk' Program bind_done (fun _ _ => rfl) bind_bind

theorem run_pure (client : Client m) (value : α) :
    (pure value : Program α).run client = pure value := rfl

variable [LawfulMonad m]

theorem run_bind (client : Client m) (program : Program α) (next : α → Program β) :
    (program >>= next).run client =
      program.run client >>= fun value => (next value).run client := by
  induction program with
  | done value => exact (pure_bind value fun value => (next value).run client).symm
  | call request resume ih =>
    show (client request >>= fun answer => (resume answer >>= next).run client) = _
    rw [run, bind_assoc]
    exact bind_congr ih

theorem run_map (client : Client m) (f : α → β) (program : Program α) :
    (f <$> program).run client = f <$> program.run client := by
  show (program >>= fun value => pure (f value)).run client = _
  rw [run_bind, map_eq_pure_bind]
  exact bind_congr fun value => run_pure client (f value)

end Program

theorem Action.run_bind [LawfulMonad m] (client : Client m) (action : Action α)
    (next : α → Action β) :
    (action >>= next).run.run client =
      action.run.run client >>= fun
        | .ok value => (next value).run.run client
        | .error failure => pure (.error failure) := by
  show (action.run >>= ExceptT.bindCont next).run client = _
  rw [Program.run_bind]
  refine bind_congr fun result => ?_
  cases result <;> rfl

theorem Action.run_bind_ok [LawfulMonad m] {client : Client m} {action : Action α}
    {next : α → Action β} {value : α} (ran : action.run.run client = pure (.ok value)) :
    (action >>= next).run.run client = (next value).run.run client := by
  rw [run_bind, ran, pure_bind]

theorem Action.run_bind_error [LawfulMonad m] {client : Client m} {action : Action α}
    {next : α → Action β} {failure : Failure}
    (failed : action.run.run client = pure (.error failure)) :
    (action >>= next).run.run client = pure (.error failure) := by
  rw [run_bind, failed, pure_bind]

end ScopedGrants.Cluster
