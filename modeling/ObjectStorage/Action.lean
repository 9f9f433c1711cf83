import ObjectStorage.Fault

/-! Computations over a state that may end with a fault. What was done before a fault stays done,
as it does at a store that has answered requests. -/

namespace ObjectStorage

/-- A computation over a state: it ends with a value or a fault, and in a new state either way. -/
def Action (S α : Type) : Type := S → Except Fault α × S

namespace Action

variable {S T α β : Type}

protected def pure (a : α) : Action S α := fun s => (.ok a, s)

protected def bind (x : Action S α) (f : α → Action S β) : Action S β := fun s =>
  match x s with
  | (.ok a, s) => f a s
  | (.error e, s) => (.error e, s)

instance : Monad (Action S) where
  pure := Action.pure
  bind := Action.bind

/-- Ends with a fault. -/
def fail (e : Fault) : Action S α := fun s => (.error e, s)

/-- Answers a fault of the first computation with the second one, in the state that the fault left. -/
def recover (x : Action S α) (handle : Fault → Action S α) : Action S α := fun s =>
  match x s with
  | (.ok a, s) => (.ok a, s)
  | (.error e, s) => handle e s

/-- On a fault of a kind, does something more and ends with the same fault, unless the doing itself
ends with another. -/
def onFault (x : Action S α) (isKind : Fault → Bool) (cleanUp : Action S Unit) : Action S α :=
  x.recover fun e => if isKind e then Action.bind cleanUp fun _ => fail e else fail e

/-- Does something more however the computation ended; a fault of the doing wins. -/
def andThen (x : Action S α) (finish : Action S Unit) : Action S α := fun s =>
  match x s with
  | (r, s) =>
    match finish s with
    | (.ok (), s) => (r, s)
    | (.error e, s) => (.error e, s)

/-- The state. -/
def read : Action S S := fun s => (.ok s, s)

/-- Changes the state. -/
def change (f : S → S) : Action S Unit := fun s => (.ok (), f s)

/-- Ends with the value or the fault of a result. -/
def ofExcept (r : Except Fault α) : Action S α := fun s => (r, s)

/-- Runs a computation over a part of the state. -/
def onPart (get : S → T) (put : T → S → S) (x : Action T α) : Action S α := fun s =>
  match x (get s) with
  | (r, t) => (r, put t s)

theorem pure_apply (a : α) (s : S) : (pure a : Action S α) s = (.ok a, s) := rfl

theorem bind_apply (x : Action S α) (f : α → Action S β) (s : S) :
    (x >>= f) s = match x s with
      | (.ok a, t) => f a t
      | (.error e, t) => (.error e, t) := rfl

private theorem map_id_apply (x : Action S α) : id <$> x = x := by
  funext s
  change (match x s with | (.ok a, t) => (Except.ok a, t) | (.error e, t) => (.error e, t)) = x s
  rcases x s with ⟨_ | _, _⟩ <;> rfl

private theorem bind_bind (x : Action S α) (f : α → Action S β) (g : β → Action S T) :
    x >>= f >>= g = x >>= fun a => f a >>= g := by
  funext s
  simp only [bind_apply]
  rcases x s with ⟨_ | _, _⟩ <;> rfl

instance : LawfulMonad (Action S) :=
  LawfulMonad.mk' (Action S) map_id_apply (fun _ _ => rfl) bind_bind

end Action

end ObjectStorage
