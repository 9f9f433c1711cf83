import ObjectStorage.Proofs.Together
import ObjectStorage.Upload.Basic

/-! Actions that cannot tell related states apart: run from two of them, they end alike, log the
same, and reach states that are related again. So do all actions that are put together from such
ones, and from requests to a service that answers related states alike. -/

namespace ObjectStorage

variable {ρ σ S α β : Type}

/-- A service answers alike from related states, and reaches related states again. -/
def Service.Respects (service : Service ρ σ) (Same : σ → σ → Prop) : Prop :=
  ∀ request s t, Same s t → ∃ reply s' t',
    service.answer request s = (reply, s') ∧ service.answer request t = (reply, t') ∧ Same s' t'

/-- Journals of related states with the same log. -/
structure Journal.Matches (Same : σ → σ → Prop) (j k : Journal σ) : Prop where
  store : Same j.store k.store
  log : j.log = k.log

/-- Sessions of the same upload with matching journals. -/
structure Session.Matches (Same : σ → σ → Prop) (a b : Session σ) : Prop where
  upload : a.upload = b.upload
  journal : a.journal.Matches Same b.journal

namespace Action

/-- An action ends alike from related states, and reaches related states again. -/
def Respects (P : S → S → Prop) (x : Action S α) : Prop := Together P x x fun _ => P

variable {P : S → S → Prop} {x : Action S α} {f : α → Action S β} {Same : σ → σ → Prop}
  {gateway : Gateway σ}

theorem respects_pure (value : α) : Respects P (pure value) := together_pure value

theorem respects_fail (e : Fault) : Respects P (fail e : Action S α) := together_fail e

theorem respects_ofExcept (result : Except Fault α) : Respects P (ofExcept result) :=
  fun s t related => ⟨result, s, t, rfl, rfl, related⟩

theorem Respects.bind (first : Respects P x) (rest : ∀ value, Respects P (f value)) :
    Respects P (x >>= f) :=
  Together.bind first rest id

/-- What would follow a fault does not matter. -/
theorem respects_fail_bind (e : Fault) (f : α → Action S β) : Respects P (fail e >>= f) :=
  respects_fail e

theorem Respects.recover {handle : Fault → Action S α} (first : Respects P x)
    (rest : ∀ e, Respects P (handle e)) : Respects P (x.recover handle) :=
  Together.recover first id rest

/-- What runs over a part of the state respects what relates the parts, and with them the wholes. -/
theorem Respects.onPart {T : Type} {Q : T → T → Prop} {get : S → T} {put : T → S → S}
    {x : Action T α} (inner : Respects Q x) (part : ∀ {a b}, P a b → Q (get a) (get b))
    (whole : ∀ {a b s t}, P a b → Q s t → P (put s a) (put t b)) :
    Respects P (onPart get put x) := by
  intro a b related
  obtain ⟨result, s, t, left, right, after⟩ := inner _ _ (part related)
  refine ⟨result, put s a, put t b, ?_, ?_, whole related after⟩
  · simp only [Action.onPart, left]
  · simp only [Action.onPart, right]

theorem respects_ask {service : Service ρ σ} (respects : service.Respects Same) (request : ρ) :
    Respects (Journal.Matches Same) (Journal.ask service request) := by
  intro j k related
  obtain ⟨reply, s, t, left, right, after⟩ := respects request j.store k.store related.store
  refine ⟨reply, { j with store := s }, { k with store := t }, ?_, ?_, after, related.log⟩
  · simp only [Journal.ask, left]
  · simp only [Journal.ask, right]

theorem respects_log (level : LogLevel) (logger : Logger) (message : String) :
    Respects (Journal.Matches Same) (Journal.note level logger message) :=
  fun _ _ related => ⟨.ok (), _, _, rfl, rfl, related.store,
    congrArg (Array.push · ⟨level, logger, message⟩) related.log⟩

/-- What happens outside of the upload leaves the upload as it is. -/
theorem respects_outside {x : Action (Journal σ) α} (inner : Respects (Journal.Matches Same) x) :
    Respects (Session.Matches Same) (Session.outside x) :=
  inner.onPart (·.journal) fun related after => { related with journal := after }

theorem respects_get (g : Upload → α) : Respects (Session.Matches Same) (Session.get g) :=
  fun a b related =>
    ⟨.ok (g a.upload), a, b, rfl, by rw [related.upload]; rfl, related⟩

theorem respects_update (g : Upload → Upload) :
    Respects (Session.Matches Same) (Session.update g) :=
  fun _ _ related => ⟨.ok (), _, _, rfl, rfl, congrArg g related.upload, related.journal⟩

theorem respects_request (respects : gateway.Respects Same) (request : Request) :
    Respects (Session.Matches Same) (Session.ask gateway request) :=
  respects_outside (respects_ask respects request)

theorem respects_note (level : LogLevel) (message : String) :
    Respects (Session.Matches Same) (Session.note level message) :=
  respects_outside (respects_log level .upload message)

theorem Respects.failing {x : Action (Session σ) α} (inner : Respects (Session.Matches Same) x) :
    Respects (Session.Matches Same) (Session.failing x) :=
  Together.onFault inner (respects_update _)

end Action

end ObjectStorage
