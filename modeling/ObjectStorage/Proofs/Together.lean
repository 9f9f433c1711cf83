import ObjectStorage.Action

/-! Two actions seen together. They may run over different states; what counts is that they end
alike, and what their states have to do with each other. -/

namespace ObjectStorage.Action

variable {S T α β : Type}

/-- From related states on, two actions end with the same result. What is known of the states that
they reach may depend on it. -/
def Together (Before : S → T → Prop) (x : Action S α) (y : Action T α)
    (After : Except Fault α → S → T → Prop) : Prop :=
  ∀ s t, Before s t → ∃ result s' t', x s = (result, s') ∧ y t = (result, t') ∧ After result s' t'

variable {Before Again : S → T → Prop} {x : Action S α} {y : Action T α}
  {Between After : Except Fault α → S → T → Prop}

theorem together_pure (value : α) :
    Together Again (pure value : Action S α) (pure value : Action T α) fun _ => Again :=
  fun s t related => ⟨.ok value, s, t, rfl, rfl, related⟩

theorem together_fail (e : Fault) :
    Together Again (fail e : Action S α) (fail e : Action T α) fun _ => Again :=
  fun s t related => ⟨.error e, s, t, rfl, rfl, related⟩

theorem Together.mono {Later : Except Fault α → S → T → Prop} (together : Together Before x y After)
    (weaker : ∀ {result s t}, After result s t → Later result s t) : Together Before x y Later := by
  intro s t related
  obtain ⟨result, s', t', left, right, after⟩ := together s t related
  exact ⟨result, s', t', left, right, weaker after⟩

theorem Together.bind {f : α → Action S β} {g : α → Action T β}
    {Finally : Except Fault β → S → T → Prop} (first : Together Before x y Between)
    (rest : ∀ value, Together (Between (.ok value)) (f value) (g value) Finally)
    (fault : ∀ {e s t}, Between (.error e) s t → Finally (.error e) s t) :
    Together Before (x >>= f) (y >>= g) Finally := by
  intro s t related
  obtain ⟨e | value, s', t', left, right, between⟩ := first s t related
  · simp only [bind_apply, left, right]
    exact ⟨.error e, s', t', rfl, rfl, fault between⟩
  · simp only [bind_apply, left, right]
    exact rest value s' t' between

theorem Together.recover {handle : Fault → Action S α} {handle' : Fault → Action T α}
    (first : Together Before x y Between)
    (done : ∀ {value s t}, Between (.ok value) s t → After (.ok value) s t)
    (rest : ∀ e, Together (Between (.error e)) (handle e) (handle' e) After) :
    Together Before (x.recover handle) (y.recover handle') After := by
  intro s t related
  obtain ⟨e | value, s', t', left, right, between⟩ := first s t related
  · simp only [Action.recover, left, right]
    exact rest e s' t' between
  · simp only [Action.recover, left, right]
    exact ⟨.ok value, s', t', rfl, rfl, done between⟩

/-- A clean-up that keeps what is known of the states keeps two actions together. -/
theorem Together.onFault {isKind : Fault → Bool} {cleanUp : Action S Unit}
    {cleanUp' : Action T Unit} (first : Together Before x y fun _ => Again)
    (cleaned : Together Again cleanUp cleanUp' fun _ => Again) :
    Together Before (x.onFault isKind cleanUp) (y.onFault isKind cleanUp') fun _ => Again := by
  refine first.recover id fun e => ?_
  by_cases ofKind : isKind e = true
  · simp only [ofKind, ↓reduceIte]
    exact cleaned.bind (fun _ => together_fail e) id
  · simp only [ofKind, Bool.false_eq_true, ↓reduceIte]
    exact together_fail e

theorem Together.andThen {finish : Action S Unit} {finish' : Action T Unit}
    (first : Together Before x y fun _ => Again)
    (finished : Together Again finish finish' fun _ => Again) :
    Together Before (x.andThen finish) (y.andThen finish') fun _ => Again := by
  intro s t related
  obtain ⟨result, s', t', left, right, between⟩ := first s t related
  obtain ⟨e | _, s'', t'', left', right', after⟩ := finished s' t' between
  · simp only [Action.andThen, left, right, left', right']
    exact ⟨.error e, s'', t'', rfl, rfl, after⟩
  · simp only [Action.andThen, left, right, left', right']
    exact ⟨result, s'', t'', rfl, rfl, after⟩

end ObjectStorage.Action
