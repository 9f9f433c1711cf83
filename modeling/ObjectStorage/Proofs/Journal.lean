import ObjectStorage.Client

/-! Actions on a journal, seen without the log: what they come to from a state of the service, and
which state they leave. -/

namespace ObjectStorage.Action

variable {ρ σ α β : Type}

/-- Whatever is in the log, an action ends with a result from a state of the service on, and leaves
the service in another. -/
def Gives (x : Action (Journal σ) α) (s : σ) (result : Except Fault α) (t : σ) : Prop :=
  ∀ log, (x ⟨s, log⟩).1 = result ∧ (x ⟨s, log⟩).2.store = t

variable {x : Action (Journal σ) α} {f : α → Action (Journal σ) β} {s t r : σ} {e : Fault}
  {value : α}

theorem fail_bind (e : Fault) (f : α → Action (Journal σ) β) : fail e >>= f = fail e := rfl

theorem gives_pure (value : α) (s : σ) :
    (pure value : Action (Journal σ) α).Gives s (.ok value) s :=
  fun _ => ⟨rfl, rfl⟩

theorem gives_fail (e : Fault) (s : σ) : (fail e : Action (Journal σ) α).Gives s (.error e) s :=
  fun _ => ⟨rfl, rfl⟩

theorem gives_ofExcept (result : Except Fault α) (s : σ) :
    (ofExcept result : Action (Journal σ) α).Gives s result s :=
  fun _ => ⟨rfl, rfl⟩

theorem gives_note (level : LogLevel) (logger : Logger) (message : String) (s : σ) :
    (Journal.note level logger message : Action (Journal σ) Unit).Gives s (.ok ()) s :=
  fun _ => ⟨rfl, rfl⟩

theorem gives_ask {service : Service ρ σ} {request : ρ} {reply : Except Fault Value}
    (answer : service.answer request s = (reply, t)) :
    (Journal.ask service request).Gives s reply t := by
  intro log
  simp [Journal.ask, answer]

theorem Gives.bind {result : Except Fault β} (first : x.Gives s (.ok value) t)
    (rest : (f value).Gives t result r) : (x >>= f).Gives s result r := by
  intro log
  obtain ⟨ended, reached⟩ := first log
  rw [bind_apply]
  generalize x ⟨s, log⟩ = outcome at *
  obtain ⟨_, _, after⟩ := outcome
  subst ended reached
  exact rest after

theorem Gives.bind_error (first : x.Gives s (.error e) t) : (x >>= f).Gives s (.error e) t := by
  intro log
  obtain ⟨ended, reached⟩ := first log
  rw [bind_apply]
  generalize x ⟨s, log⟩ = outcome at *
  obtain ⟨_, _, after⟩ := outcome
  subst ended reached
  exact ⟨rfl, rfl⟩

/-- What comes behind an action that may fail, where it only rewrites the value. -/
theorem Gives.map {g : α → β} {result : Except Fault α} (first : x.Gives s result t)
    (rest : ∀ value, (f value).Gives t (.ok (g value)) t) :
    (x >>= f).Gives s (result.map g) t := by
  cases result with
  | ok value => exact first.bind (rest value)
  | error e => exact first.bind_error

/-- What comes behind an action that tells one thing only, if it ends well. -/
theorem Gives.instead {γ : Type} {reply : Except Fault γ} {told : β}
    (first : x.Gives s (reply.map fun _ => value) t) (rest : (f value).Gives t (.ok told) t) :
    (x >>= f).Gives s (reply.map fun _ => told) t := by
  cases reply with
  | ok _ => exact first.bind rest
  | error e => exact first.bind_error

theorem Gives.recover {handle : Fault → Action (Journal σ) α} (first : x.Gives s (.ok value) t) :
    (x.recover handle).Gives s (.ok value) t := by
  intro log
  obtain ⟨ended, reached⟩ := first log
  rw [Action.recover]
  generalize x ⟨s, log⟩ = outcome at *
  obtain ⟨_, _, after⟩ := outcome
  subst ended reached
  exact ⟨rfl, rfl⟩

theorem Gives.recover_error {handle : Fault → Action (Journal σ) α} {result : Except Fault α}
    (first : x.Gives s (.error e) t) (rest : (handle e).Gives t result r) :
    (x.recover handle).Gives s result r := by
  intro log
  obtain ⟨ended, reached⟩ := first log
  rw [Action.recover]
  generalize x ⟨s, log⟩ = outcome at *
  obtain ⟨_, _, after⟩ := outcome
  subst ended reached
  exact rest after

end ObjectStorage.Action
