import ObjectStorage.Proofs.Upload.Step
import Mathlib.Logic.Relation

/-! The moves of an upload: one request, its answer, and what the upload makes of it. Every step of
an upload is a run of moves (`Step.moves`), so whatever each move keeps, every operation keeps. -/

namespace ObjectStorage.Upload

variable {σ : Type}

/-- The requests that an upload may send while it takes data, or to come to that. -/
inductive Due : Upload → Request → Prop where
  | create (ready : u.status = .notStarted) : Due u u.createRequest
  | part (isOpen : u.status = .inProgress) (positive : 0 < size) (enough : size ≤ u.queue.size) :
      Due u (u.partRequest size)
  | completion (isOpen : u.status = .inProgress) (empty : u.queue.size = 0)
      (nonempty : u.parts ≠ []) : Due u u.completionRequest

/-- The requests that an upload may send at all. -/
inductive Sendable : Upload → Request → Prop where
  | due (due : Due u request) : Sendable u request
  | withdrawal (live : u.IsLive) (named : u.uploadId.isVoid = false) : Sendable u u.abortRequest

inductive Move (gateway : Gateway σ) : Upload × σ → Upload × σ → Prop where
  | opened (ready : u.status = .notStarted)
      (answer : gateway.answer u.createRequest s = (.ok value, t)) :
      Move gateway (u, s) (u.opened value, t)
  | sent (isOpen : u.status = .inProgress) (positive : 0 < size) (enough : size ≤ u.queue.size)
      (answer : gateway.answer (u.partRequest size) s = (.ok tag, t)) :
      Move gateway (u, s) (u.sent size tag, t)
  | assembled (isOpen : u.status = .inProgress) (empty : u.queue.size = 0)
      (nonempty : u.parts ≠ []) (answer : gateway.answer u.completionRequest s = (.ok value, t)) :
      Move gateway (u, s) (u.assembled, t)
  | failed (due : Due u request) (answer : gateway.answer request s = (.error e, t)) :
      Move gateway (u, s) (u.failedBy e, t)
  | withdrawn (withdrawal : Withdrawal gateway a result b) : Move gateway a b

/-- Any number of moves, one after another. -/
abbrev Moves (gateway : Gateway σ) : Upload × σ → Upload × σ → Prop :=
  Relation.ReflTransGen (Move gateway)

/-- The upload with the data of a write that it takes. -/
def feed (u : Upload) : Operation → Upload
  | .write _ data => if u.status = .inProgress then u.fed data else u
  | _ => u

/-- The upload with the data of a write counted, if the write came to its end. -/
def credit (u : Upload) : Operation → Except Fault (Option String) → Upload
  | .write _ data, .ok _ => u.credited data
  | _, _ => u

variable {gateway : Gateway σ} {operation : Operation} {u v : Upload} {s t : σ} {a b : Upload × σ}
  {result : Except Fault (Option String)}

theorem Due.live {request : Request} (due : Due u request) : u.IsLive := by
  cases due with
  | create ready => exact ⟨by simp [ready], by simp [ready]⟩
  | part isOpen => exact isLive_of_open isOpen
  | completion isOpen => exact isLive_of_open isOpen

/-- A move sends one request that the upload may send, or none at all. -/
theorem Move.request (move : Move gateway (u, s) (v, t)) :
    t = s ∨ ∃ request reply, Sendable u request ∧ gateway.answer request s = (reply, t) := by
  cases move with
  | opened ready answer => exact .inr ⟨_, _, .due (.create ready), answer⟩
  | sent isOpen positive enough answer =>
    exact .inr ⟨_, _, .due (.part isOpen positive enough), answer⟩
  | assembled isOpen empty nonempty answer =>
    exact .inr ⟨_, _, .due (.completion isOpen empty nonempty), answer⟩
  | failed due answer => exact .inr ⟨_, _, .due due, answer⟩
  | withdrawn withdrawal =>
    cases withdrawal with
    | idle done => exact .inl rfl
    | unnamed live void => exact .inl rfl
    | taken live named answer => exact .inr ⟨_, _, .withdrawal live named, answer⟩
    | refused live named answer refusal => exact .inr ⟨_, _, .withdrawal live named, answer⟩
    | broken live named answer other => exact .inr ⟨_, _, .withdrawal live named, answer⟩

/-- No move takes an upload to another place. -/
theorem Move.place_eq (move : Move gateway a b) :
    b.1.bucket = a.1.bucket ∧ b.1.key = a.1.key := by
  cases move with
  | opened ready answer => exact ⟨rfl, rfl⟩
  | sent isOpen positive enough answer => exact ⟨rfl, rfl⟩
  | assembled isOpen empty nonempty answer => exact ⟨rfl, rfl⟩
  | failed due answer =>
    unfold failedBy
    split <;> exact ⟨rfl, rfl⟩
  | withdrawn withdrawal => cases withdrawal <;> exact ⟨rfl, rfl⟩

theorem feed_place_eq (u : Upload) (operation : Operation) :
    (u.feed operation).bucket = u.bucket ∧ (u.feed operation).key = u.key := by
  unfold feed
  split
  · split <;> exact ⟨rfl, rfl⟩
  · exact ⟨rfl, rfl⟩

theorem credit_place_eq (u : Upload) (operation : Operation)
    (result : Except Fault (Option String)) :
    (u.credit operation result).bucket = u.bucket ∧ (u.credit operation result).key = u.key := by
  unfold credit
  split <;> exact ⟨rfl, rfl⟩

/-- What every move keeps, a run of moves keeps. -/
theorem Moves.keeps {P : Upload → σ → Prop}
    (moved : ∀ {u s v t}, P u s → Move gateway (u, s) (v, t) → P v t)
    (moves : Moves gateway a b) (before : P a.1 a.2) : P b.1 b.2 := by
  induction moves with
  | refl => exact before
  | tail _ last ih => exact moved ih last

theorem FullParts.moves {count : Nat} (parts : FullParts gateway count a b)
    (isOpen : a.1.status = .inProgress) : Moves gateway a b := by
  induction parts with
  | none => exact .refl
  | more full answer rest ih => exact .head (.sent isOpen partSize_pos full answer) (ih isOpen)

theorem Drained.moves (drained : Drained gateway a b) (isOpen : a.1.status = .inProgress) :
    Moves gateway a b := by
  cases drained with
  | nothing empty => exact .refl
  | rest left answer =>
    exact .single (.sent isOpen (Nat.pos_of_ne_zero left) (Nat.le_refl _) answer)

/-- A step is a run of moves, between the taking of a write's data and its counting. -/
theorem Step.moves (step : Step gateway operation (u, s) result (v, t)) :
    ∃ w, Moves gateway (u.feed operation, s) (w, t) ∧ v = w.credit operation result := by
  cases step with
  | startLate late => exact ⟨u, .refl, rfl⟩
  | started ready answer => exact ⟨_, .single (.opened ready answer), rfl⟩
  | startFailed ready answer => exact ⟨_, .single (.failed (.create ready) answer), rfl⟩
  | writeShut shut => exact ⟨u, by simp only [feed, shut, ↓reduceIte]; exact .refl, rfl⟩
  | written isOpen parts =>
    refine ⟨_, ?_, rfl⟩
    simp only [feed, isOpen, ↓reduceIte]
    exact parts.moves isOpen
  | writeFailed isOpen parts full answer =>
    refine ⟨_, ?_, rfl⟩
    simp only [feed, isOpen, ↓reduceIte]
    have stillOpen := parts.status_eq.trans isOpen
    exact (parts.moves isOpen).tail (.failed (.part stillOpen partSize_pos full) answer)
  | completeShut shut => exact ⟨u, .refl, rfl⟩
  | lastPartFailed isOpen left answer =>
    have due := Due.part isOpen (Nat.pos_of_ne_zero left) (Nat.le_refl _)
    exact ⟨_, .single (.failed due answer), rfl⟩
  | noData isOpen empty bare withdrawal => exact ⟨_, .single (.withdrawn withdrawal), rfl⟩
  | noDataBroken isOpen empty bare withdrawal => exact ⟨_, .single (.withdrawn withdrawal), rfl⟩
  | completed isOpen drained nonempty answer =>
    have stillOpen := drained.status_eq.trans isOpen
    have last := Move.assembled stillOpen drained.empty nonempty answer
    exact ⟨_, (drained.moves isOpen).tail last, rfl⟩
  | completeFailed isOpen drained nonempty answer =>
    have stillOpen := drained.status_eq.trans isOpen
    have last := Move.failed (.completion stillOpen drained.empty nonempty) answer
    exact ⟨_, (drained.moves isOpen).tail last, rfl⟩
  | aborted withdrawal => exact ⟨_, .single (.withdrawn withdrawal), rfl⟩
  | abortBroken withdrawal => exact ⟨_, .single (.withdrawn withdrawal), rfl⟩
  | releaseShut shut => exact ⟨u, .refl, rfl⟩
  | released isOpen withdrawal => exact ⟨_, .single (.withdrawn withdrawal), rfl⟩
  | releaseBroken isOpen withdrawal => exact ⟨_, .single (.withdrawn withdrawal), rfl⟩
  | dropShut shut => exact ⟨u, .refl, rfl⟩
  | dropped isOpen withdrawal => exact ⟨_, .single (.withdrawn withdrawal), rfl⟩

end ObjectStorage.Upload
