import ObjectStorage.Proofs.Upload.History

/-! Uploads to gateways that answer alike. Such gateways cannot be told apart by any operation
(`Step.carried`), so neither can they by any history (`History.run_agree`), and the size that is
expected of an upload matters to none of this. -/

namespace ObjectStorage

variable {σ τ : Type}

/-- From related states on, one gateway answers as another does, and reaches a related state.
Nothing is said of requests for URLs. -/
def Agree (first : Gateway σ) (second : Gateway τ) (Related : σ → τ → Prop) : Prop :=
  ∀ {request reply s s' t}, request.kind ≠ .signUrl → Related s t →
    first.answer request s = (reply, s') →
      ∃ t', second.answer request t = (reply, t') ∧ Related s' t'

theorem Agree.refl (gateway : Gateway σ) : Agree gateway gateway Eq := by
  intro request reply s s' t _ same answer
  subst same
  exact ⟨s', answer, rfl⟩

namespace Upload

/-- The upload, but of another expected size. -/
def expecting (u : Upload) (expectedSize? : Option Int) : Upload := { u with expectedSize? }

theorem failedBy_expecting (u : Upload) (e : Fault) (size? : Option Int) :
    (u.failedBy e).expecting size? = (u.expecting size?).failedBy e := by
  unfold failedBy
  split <;> rfl

theorem Move.expectedSize_eq {gateway : Gateway σ} {a b : Upload × σ} (move : Move gateway a b) :
    b.1.expectedSize? = a.1.expectedSize? := by
  cases move with
  | opened ready answer => rfl
  | sent isOpen positive enough answer => rfl
  | assembled isOpen empty nonempty answer => rfl
  | failed due answer =>
    unfold failedBy
    split <;> rfl
  | withdrawn withdrawal => cases withdrawal <;> rfl

/-- No operation changes the size that is expected. -/
theorem Step.expectedSize_eq {gateway : Gateway σ} {operation : Operation} {u v : Upload} {s t : σ}
    {result : Except Fault (Option String)} (step : Step gateway operation (u, s) result (v, t)) :
    v.expectedSize? = u.expectedSize? := by
  refine step.keeps (P := fun w _ => w.expectedSize? = u.expectedSize?) id id ?_ rfl
  intro w s x t same move
  exact move.expectedSize_eq.trans same

variable {first : Gateway σ} {second : Gateway τ} {Related : σ → τ → Prop} {u v : Upload}
  {a b : Upload × σ} {s s' : σ} {t : τ}

theorem FullParts.carried {count : Nat} (agree : Agree first second Related)
    (parts : FullParts first count a b) (size? : Option Int) {t : τ} (related : Related a.2 t) :
    ∃ t', FullParts second count (a.1.expecting size?, t) (b.1.expecting size?, t') ∧
      Related b.2 t' := by
  induction parts generalizing t with
  | none => exact ⟨t, .none, related⟩
  | more full answer rest ih =>
    obtain ⟨t', answered, onward⟩ := agree (by simp [partRequest, Request.kind]) related answer
    obtain ⟨t'', parts, finish⟩ := ih onward
    exact ⟨t'', .more full answered parts, finish⟩

theorem Drained.carried (agree : Agree first second Related)
    (drained : Drained first (u, s) (v, s')) (size? : Option Int) (related : Related s t) :
    ∃ t', Drained second (u.expecting size?, t) (v.expecting size?, t') ∧ Related s' t' := by
  cases drained with
  | nothing empty => exact ⟨t, .nothing empty, related⟩
  | rest left answer =>
    obtain ⟨t', answered, finish⟩ := agree (by simp [partRequest, Request.kind]) related answer
    exact ⟨t', .rest left answered, finish⟩

theorem Withdrawal.carried {result : Except Fault Unit} (agree : Agree first second Related)
    (withdrawal : Withdrawal first (u, s) result (v, s')) (size? : Option Int)
    (related : Related s t) :
    ∃ t', Withdrawal second (u.expecting size?, t) result (v.expecting size?, t') ∧
      Related s' t' := by
  have asked : u.abortRequest.kind ≠ .signUrl := by simp [abortRequest, Request.kind]
  cases withdrawal with
  | idle done => exact ⟨t, .idle done, related⟩
  | unnamed live void => exact ⟨t, .unnamed live void, related⟩
  | taken live named answer =>
    obtain ⟨t', answered, finish⟩ := agree asked related answer
    exact ⟨t', .taken live named answered, finish⟩
  | refused live named answer refusal =>
    obtain ⟨t', answered, finish⟩ := agree asked related answer
    exact ⟨t', .refused live named answered refusal, finish⟩
  | broken live named answer other =>
    obtain ⟨t', answered, finish⟩ := agree asked related answer
    exact ⟨t', .broken live named answered other, finish⟩

/-- A step at one gateway is a step at every gateway that agrees with it, whatever size is
expected. -/
theorem Step.carried {operation : Operation} {result : Except Fault (Option String)}
    (agree : Agree first second Related) (step : Step first operation (u, s) result (v, s'))
    (size? : Option Int) (related : Related s t) :
    ∃ t', Step second operation (u.expecting size?, t) result (v.expecting size?, t') ∧
      Related s' t' := by
  cases step with
  | startLate late => exact ⟨t, .startLate late, related⟩
  | started ready answer =>
    obtain ⟨t', answered, finish⟩ := agree (by simp [createRequest, Request.kind]) related answer
    exact ⟨t', .started ready answered, finish⟩
  | startFailed ready answer =>
    obtain ⟨t', answered, finish⟩ := agree (by simp [createRequest, Request.kind]) related answer
    rw [failedBy_expecting]
    exact ⟨t', .startFailed ready answered, finish⟩
  | writeShut shut => exact ⟨t, .writeShut shut, related⟩
  | @written s v s' offset data u isOpen parts =>
    obtain ⟨t', carried, finish⟩ := parts.carried agree size? related
    have written : Step second (.write offset data) (u.expecting size?, t) (.ok none)
        ((v.expecting size?).credited data, t') := .written isOpen carried
    exact ⟨t', written, finish⟩
  | writeFailed isOpen parts full answer =>
    obtain ⟨t', carried, onward⟩ := parts.carried agree size? related
    obtain ⟨t'', answered, finish⟩ := agree (by simp [partRequest, Request.kind]) onward answer
    rw [failedBy_expecting]
    exact ⟨t'', .writeFailed isOpen carried full answered, finish⟩
  | completeShut shut => exact ⟨t, .completeShut shut, related⟩
  | lastPartFailed isOpen left answer =>
    obtain ⟨t', answered, finish⟩ := agree (by simp [partRequest, Request.kind]) related answer
    rw [failedBy_expecting]
    exact ⟨t', .lastPartFailed isOpen left answered, finish⟩
  | noData isOpen empty bare withdrawal =>
    obtain ⟨t', carried, finish⟩ := withdrawal.carried agree size? related
    exact ⟨t', .noData isOpen empty bare carried, finish⟩
  | noDataBroken isOpen empty bare withdrawal =>
    obtain ⟨t', carried, finish⟩ := withdrawal.carried agree size? related
    exact ⟨t', .noDataBroken isOpen empty bare carried, finish⟩
  | @completed u s v r s' value isOpen drained nonempty answer =>
    obtain ⟨t', carried, onward⟩ := drained.carried agree size? related
    obtain ⟨t'', answered, finish⟩ :=
      agree (by simp [completionRequest, Request.kind]) onward answer
    have completed := Step.completed (u := u.expecting size?) (v := v.expecting size?) isOpen
      carried nonempty answered
    exact ⟨t'', completed, finish⟩
  | completeFailed isOpen drained nonempty answer =>
    obtain ⟨t', carried, onward⟩ := drained.carried agree size? related
    obtain ⟨t'', answered, finish⟩ :=
      agree (by simp [completionRequest, Request.kind]) onward answer
    rw [failedBy_expecting]
    exact ⟨t'', .completeFailed isOpen carried nonempty answered, finish⟩
  | aborted withdrawal =>
    obtain ⟨t', carried, finish⟩ := withdrawal.carried agree size? related
    exact ⟨t', .aborted carried, finish⟩
  | abortBroken withdrawal =>
    obtain ⟨t', carried, finish⟩ := withdrawal.carried agree size? related
    exact ⟨t', .abortBroken carried, finish⟩
  | releaseShut shut => exact ⟨t, .releaseShut shut, related⟩
  | released isOpen withdrawal =>
    obtain ⟨t', carried, finish⟩ := withdrawal.carried agree size? related
    exact ⟨t', .released isOpen carried, finish⟩
  | releaseBroken isOpen withdrawal =>
    obtain ⟨t', carried, finish⟩ := withdrawal.carried agree size? related
    exact ⟨t', .releaseBroken isOpen carried, finish⟩
  | dropShut shut => exact ⟨t, .dropShut shut, related⟩
  | dropped isOpen withdrawal =>
    obtain ⟨t', carried, finish⟩ := withdrawal.carried agree size? related
    exact ⟨t', .dropped isOpen carried, finish⟩

/-- What size is expected of an upload changes nothing about its steps. -/
theorem Step.expecting {gateway : Gateway σ} {operation : Operation} {t : σ}
    {result : Except Fault (Option String)}
    (step : Step gateway operation (u, s) result (v, t)) (size? : Option Int) :
    Step gateway operation (u.expecting size?, s) result (v.expecting size?, t) := by
  obtain ⟨t', carried, rfl⟩ := step.carried (Agree.refl gateway) size? rfl
  exact carried

/-- A step at one gateway is the same step at every gateway that agrees with it. -/
theorem Step.agree {operation : Operation} {result : Except Fault (Option String)}
    (agree : Agree first second Related) (step : Step first operation (u, s) result (v, s'))
    (related : Related s t) :
    ∃ t', Step second operation (u, t) result (v, t') ∧ Related s' t' := by
  obtain ⟨t', carried, finish⟩ := step.carried agree u.expectedSize? related
  refine ⟨t', ?_, finish⟩
  have same : v.expecting u.expectedSize? = v := by rw [← step.expectedSize_eq]; rfl
  rw [same] at carried
  exact carried

end Upload

/-- The histories of an upload at gateways that agree are the same, but for what the gateways
remember. -/
theorem History.run_agree {first : Gateway σ} {second : Gateway τ} {Related : σ → τ → Prop}
    (agree : Agree first second Related) {s : σ} {t : τ} (related : Related s t) (u : Upload)
    (operations : List Operation) :
    (run first u s operations).upload = (run second u t operations).upload ∧
      (run first u s operations).events = (run second u t operations).events ∧
      Related (run first u s operations).store (run second u t operations).store := by
  induction operations using List.reverseRecOn with
  | nil => exact ⟨rfl, rfl, related⟩
  | append_singleton operations operation ih =>
    rw [run_snoc, run_snoc]
    generalize run first u s operations = left at ih ⊢
    generalize run second u t operations = right at ih ⊢
    obtain ⟨sameUpload, sameEvents, stillRelated⟩ := ih
    have step := Upload.perform_step first operation left.session
    obtain ⟨t', carried, finish⟩ := step.agree agree stillRelated
    have own := Upload.perform_step second operation right.session
    have start : right.session.face = (left.session.upload, right.store) :=
      Prod.ext sameUpload.symm rfl
    rw [start] at own
    obtain ⟨sameResult, sameFace⟩ := carried.unique own
    have found : left.upload.status = right.upload.status := by rw [sameUpload]
    refine ⟨congrArg Prod.fst sameFace, ?_, ?_⟩
    · simp only [History.step, sameEvents, sameResult, found]
    · have reached : (right.step second operation).store = t' := (congrArg Prod.snd sameFace).symm
      rw [reached]
      exact finish

end ObjectStorage
