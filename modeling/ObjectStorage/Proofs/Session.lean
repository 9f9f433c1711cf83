import ObjectStorage.Upload.Operations

/-! Actions on a session, seen without the log: from where they lead to where, and with what result.
The log is written and never read, so this is all that one action can tell the next. -/

namespace ObjectStorage

variable {σ α β : Type}

/-- A session without its log. -/
def Session.face (s : Session σ) : Upload × σ := (s.upload, s.journal.store)

namespace Action

/-- Whatever is in the log, an action leads from one face of a session to another, with a result. -/
def Leads (x : Action (Session σ) α) (start : Upload × σ) (result : Except Fault α)
    (finish : Upload × σ) : Prop :=
  ∀ s : Session σ, s.face = start → (x s).1 = result ∧ (x s).2.face = finish

variable {x : Action (Session σ) α} {f : α → Action (Session σ) β} {a b c : Upload × σ}
  {u v : Upload} {s t : σ} {e : Fault}

theorem Leads.bind {value : α} {result : Except Fault β} (first : x.Leads a (.ok value) b)
    (rest : (f value).Leads b result c) : (x >>= f).Leads a result c := by
  intro session same
  obtain ⟨ended, reached⟩ := first session same
  have step : (x >>= f) session = f value (x session).2 := by
    rw [bind_apply]
    generalize x session = outcome at *
    obtain ⟨_, _⟩ := outcome
    subst ended
    rfl
  rw [step]
  exact rest _ reached

theorem Leads.bind_error (first : x.Leads a (.error e) b) : (x >>= f).Leads a (.error e) b := by
  intro session same
  obtain ⟨ended, reached⟩ := first session same
  rw [bind_apply]
  generalize x session = outcome at *
  obtain ⟨_, _⟩ := outcome
  subst ended
  exact ⟨rfl, reached⟩

theorem leads_pure (value : α) : (pure value : Action (Session σ) α).Leads a (.ok value) a :=
  fun _ same => ⟨rfl, same⟩

theorem leads_fail (e : Fault) : (fail e : Action (Session σ) α).Leads a (.error e) a :=
  fun _ same => ⟨rfl, same⟩

theorem leads_get (g : Upload → α) : (Session.get g).Leads (u, s) (.ok (g u)) (u, s) := by
  rintro ⟨_, _, _⟩ ⟨⟩
  exact ⟨rfl, rfl⟩

theorem leads_update (g : Upload → Upload) : (Session.update g).Leads (u, s) (.ok ()) (g u, s) := by
  rintro ⟨_, _, _⟩ ⟨⟩
  exact ⟨rfl, rfl⟩

theorem leads_note (level : LogLevel) (message : String) :
    (Session.note level message : Action (Session σ) Unit).Leads a (.ok ()) a := by
  rintro ⟨_, _, _⟩ same
  exact ⟨rfl, same⟩

theorem leads_ask {gateway : Gateway σ} {request : Request} {reply : Except Fault Value}
    (answer : gateway.answer request s = (reply, t)) :
    (Session.ask gateway request).Leads (u, s) reply (u, t) := by
  rintro ⟨_, _, _⟩ ⟨⟩
  simp [Session.ask, Session.outside, onPart, Journal.ask, Session.face, answer]

theorem leads_ofQueue {value : α} {r : Except Shortage α} (given : r = .ok value) :
    (Upload.ofQueue r).Leads a (.ok value) a := by
  subst given
  exact fun _ same => ⟨rfl, same⟩

theorem Leads.recover {value : α} {handle : Fault → Action (Session σ) α}
    (first : x.Leads a (.ok value) b) : (x.recover handle).Leads a (.ok value) b := by
  intro session same
  obtain ⟨ended, reached⟩ := first session same
  rw [Action.recover]
  generalize x session = outcome at *
  obtain ⟨_, _⟩ := outcome
  subst ended
  exact ⟨rfl, reached⟩

theorem Leads.recover_error {handle : Fault → Action (Session σ) α} {result : Except Fault α}
    (first : x.Leads a (.error e) b) (rest : (handle e).Leads b result c) :
    (x.recover handle).Leads a result c := by
  intro session same
  obtain ⟨ended, reached⟩ := first session same
  have step : x.recover handle session = handle e (x session).2 := by
    rw [Action.recover]
    generalize x session = outcome at *
    obtain ⟨_, _⟩ := outcome
    subst ended
    rfl
  rw [step]
  exact rest _ reached

theorem Leads.onFault {value : α} {isKind : Fault → Bool} {cleanUp : Action (Session σ) Unit}
    (first : x.Leads a (.ok value) b) : (x.onFault isKind cleanUp).Leads a (.ok value) b :=
  first.recover

/-- A fault of the kind is kept, and what is done about it is done. -/
theorem Leads.onFault_error {isKind : Fault → Bool} {cleanUp : Action (Session σ) Unit}
    (first : x.Leads a (.error e) b) (ofKind : isKind e = true)
    (cleaned : cleanUp.Leads b (.ok ()) c) : (x.onFault isKind cleanUp).Leads a (.error e) c := by
  apply first.recover_error
  simp only [ofKind, ↓reduceIte]
  exact cleaned.bind (leads_fail e)

theorem Leads.onFault_other {isKind : Fault → Bool} {cleanUp : Action (Session σ) Unit}
    (first : x.Leads a (.error e) b) (other : isKind e = false) :
    (x.onFault isKind cleanUp).Leads a (.error e) b := by
  apply first.recover_error
  simp only [other, Bool.false_eq_true, ↓reduceIte]
  exact leads_fail e

theorem Leads.andThen {finish : Action (Session σ) Unit} {result : Except Fault α}
    (first : x.Leads a result b) (second : finish.Leads b (.ok ()) c) :
    (x.andThen finish).Leads a result c := by
  intro session same
  obtain ⟨ended, reached⟩ := first session same
  obtain ⟨finished, left⟩ := second (x session).2 reached
  rcases outcome : x session with ⟨given, between⟩
  rcases last : finish between with ⟨done, after⟩
  simp only [outcome, last] at ended finished left
  subst ended finished
  simp only [Action.andThen, outcome, last]
  exact ⟨trivial, left⟩

/-- What an action leads to is seen from what it leads to with its value renamed. -/
theorem Leads.of_map {f : α → β} {result : Except Fault α} (injective : Function.Injective f)
    (mapped : (x >>= fun value => pure (f value)).Leads a (result.map f) b) :
    x.Leads a result b := by
  intro session same
  obtain ⟨ended, reached⟩ := mapped session same
  rw [bind_apply] at ended reached
  rcases outcome : x session with ⟨e | value, after⟩
  · simp only [outcome] at ended reached
    cases result with
    | error other =>
      cases ended
      exact ⟨rfl, reached⟩
    | ok value => cases ended
  · simp only [outcome, pure_apply] at ended reached
    cases result with
    | error other => cases ended
    | ok other =>
      have same : f value = f other := Except.ok.inj ended
      cases injective same
      exact ⟨rfl, reached⟩

end Action

end ObjectStorage
