import ObjectStorage.Proofs.ObjectStore
import ObjectStorage.Proofs.Upload.Content
import ObjectStorage.Proofs.Upload.Recording

/-! Whole operations of an upload at a store that others use as well: what the store keeps of the
upload (`Step.faithful_accepted`), what it keeps of other uploads (`Step.faithful_other`), and the
objects, which only a completion changes (`Step.objects_eq`). -/

namespace ObjectStorage.Upload

variable {σ : Type} {parts : PartStore σ} {store : ObjectStore σ} {gateway : Gateway σ}
  {operation : Operation} {u v other : Upload} {s t : σ} {a b : Upload × σ} {data held : ByteArray}
  {h : Holdings} {result : Except Fault (Option String)} {trace after : List Exchange}
  {request : Request}

theorem Step.place_eq (step : Step gateway operation a result b) :
    b.1.bucket = a.1.bucket ∧ b.1.key = a.1.key := by
  refine step.keeps (P := fun v _ => v.bucket = a.1.bucket ∧ v.key = a.1.key) id id ?_ ⟨rfl, rfl⟩
  intro w s x t same move
  exact ⟨move.place_eq.1.trans same.1, move.place_eq.2.trans same.2⟩

/-- A completion tells a key, if it ends well, and nothing else does. -/
theorem Step.isSome_iff {value : Option String} (step : Step gateway operation a (.ok value) b) :
    value.isSome = true ↔ operation = .complete := by
  cases step <;> simp

/-- An upload sends requests about its own object only. -/
theorem Sendable.place_eq (sendable : Sendable u request) :
    request.bucket = u.bucket ∧ request.key = u.key := by
  cases sendable with
  | due due => cases due <;> exact ⟨rfl, rfl⟩
  | withdrawal live named => exact ⟨rfl, rfl⟩

theorem Step.requests (step : Step gateway.recorded operation (u, s, trace) result (v, t, after)) :
    ∃ exchanges, after = trace ++ exchanges ∧
      ∀ x ∈ exchanges, x.request.bucket = u.bucket ∧ x.request.key = u.key := by
  refine (step.keeps (P := fun w kept => (w.bucket = u.bucket ∧ w.key = u.key) ∧
    ∃ exchanges, kept.2 = trace ++ exchanges ∧
      ∀ x ∈ exchanges, x.request.bucket = u.bucket ∧ x.request.key = u.key) id id ?_
    ⟨⟨rfl, rfl⟩, [], (List.append_nil trace).symm, by simp⟩).2
  rintro w ⟨s, kept⟩ x ⟨t, after⟩ ⟨same, exchanges, rfl, own⟩ move
  refine ⟨⟨move.place_eq.1.trans same.1, move.place_eq.2.trans same.2⟩, ?_⟩
  rcases move.exchange with idle | ⟨request, reply, sendable, _, rfl⟩
  · exact ⟨exchanges, idle, own⟩
  · obtain ⟨inBucket, atKey⟩ := sendable.place_eq
    exact ⟨exchanges ++ [⟨request, reply⟩], List.append_assoc _ _ _,
      forall_mem_snoc own ⟨inBucket.trans same.1, atKey.trans same.2⟩⟩

theorem Moves.faithful (moves : Moves parts.gateway a b)
    (faithful : Faithful (parts.holdings a.2) a.1 data) :
    Faithful (parts.holdings b.2) b.1 data :=
  moves.keeps (P := fun u s => Faithful (parts.holdings s) u data)
    (fun faithful move => move.faithful faithful) faithful

theorem Step.faithful (step : Step parts.gateway operation (u, s) result (v, t))
    (faithful : Faithful (parts.holdings s) u data) :
    Faithful (parts.holdings t) v (data ++ Event.taken ⟨operation, u.status, result⟩) := by
  obtain ⟨w, moves, rfl⟩ := step.moves
  exact (moves.faithful faithful.feed).credit

theorem Step.faithful_other (step : Step parts.gateway operation (u, s) result (v, t))
    (faithful : Faithful (parts.holdings s) u data)
    (others : Faithful (parts.holdings s) other held) (apart : Apart u other) :
    Faithful (parts.holdings t) other held ∧ Apart v other := by
  obtain ⟨w, moves, rfl⟩ := step.moves
  have fed : Faithful _ (u.feed operation) (data ++ Event.taken ⟨operation, u.status, result⟩) :=
    faithful.feed
  have finish := Moves.keeps (P := fun u s => Faithful (parts.holdings s) u _ ∧
    Faithful (parts.holdings s) other held ∧ Apart u other)
    (fun kept move => ⟨move.faithful kept.1, move.faithful_other kept.1 kept.2.1 kept.2.2⟩)
    moves ⟨fed, others, apart.feed⟩
  exact ⟨finish.2.1, finish.2.2.credit⟩

/-- A store owes nothing more to an upload that has failed. -/
theorem Faithful.of_failed (faithful : Faithful h u data) (failed : u.status = .failed)
    (other : ByteArray) : Faithful h u other :=
  ⟨faithful.issued, by simp [failed], by simp [failed], by simp [failed]⟩

/-- The store has to serve whatever an upload sends. -/
theorem Faithful.serves (faithful : Faithful h u data) (sendable : Sendable u request) :
    h.Serves request := by
  rcases sendable.named with ⟨_, rfl⟩ | ⟨named, engaged⟩
  · exact .creation
  · exact .service named (faithful.issued engaged)

/-- A store of objects is faithful to an upload for the data of the writes that came to their end: a
write that fails makes the upload fail. -/
theorem Step.faithful_accepted (step : Step store.gateway operation (u, s) result (v, t))
    (faithful : Faithful (store.holdings s) u data) :
    Faithful (store.holdings t) v (data ++ Event.accepted ⟨operation, u.status, result⟩) := by
  have kept := step.faithful faithful
  cases step with
  | writeShut shut =>
    rw [Event.taken_of_shut _ _ shut] at kept
    exact kept
  | written isOpen parts => simpa only [Event.taken, Event.accepted, isOpen] using kept
  | @writeFailed _ _ v _ _ e offset more _ isOpen parts full answer =>
    have before : Faithful _ v (data ++ more) :=
      (parts.moves isOpen).faithful (faithful.fed isOpen)
    have stillOpen : v.status = .inProgress := parts.status_eq.trans isOpen
    have serves := before.serves (.due (.part stillOpen partSize_pos full))
    have failed : (v.failedBy e).status = .failed := by
      rw [failedBy_of_refusal (store.refuses serves answer)]
    exact kept.of_failed failed _
  | _ => exact kept

theorem FullParts.objects_eq {count : Nat}
    (full : FullParts parts.gateway count a b) (isOpen : a.1.status = .inProgress)
    (faithful : Faithful (parts.holdings a.2) a.1 data) :
    (parts.holdings b.2).object? = (parts.holdings a.2).object? := by
  induction full with
  | none => rfl
  | more full answer rest ih =>
    have effect := faithful.effect (.due (.part isOpen partSize_pos full)) answer
    have sent := faithful.sent isOpen full effect
    cases effect with
    | kept _ _ _ object => exact (ih isOpen sent).trans object

theorem Withdrawal.objects_eq {ended : Except Fault Unit}
    (withdrawal : Withdrawal parts.gateway (u, s) ended b)
    (faithful : Faithful (parts.holdings s) u data) :
    (parts.holdings b.2).object? = (parts.holdings s).object? := by
  cases withdrawal with
  | idle done => rfl
  | unnamed live void => rfl
  | taken live named answer =>
    have effect := faithful.effect (.withdrawal live named) answer
    cases effect with
    | withdrawn _ _ object => exact object
  | refused live named answer refusal =>
    exact congrArg _ (faithful.effect (.withdrawal live named) answer).unchanged
  | broken live named answer other =>
    exact congrArg _ (faithful.effect (.withdrawal live named) answer).unchanged

/-- An operation that tells no key leaves every object as it is. -/
theorem Step.objects_eq (step : Step parts.gateway operation (u, s) result (v, t))
    (faithful : Faithful (parts.holdings s) u data)
    (incomplete : ∀ name, result ≠ .ok (some name)) :
    (parts.holdings t).object? = (parts.holdings s).object? := by
  cases step with
  | startLate late => rfl
  | started ready answer =>
    have effect := faithful.effect (.due (.create ready)) answer
    cases effect with
    | created _ _ _ object => exact object
  | startFailed ready answer =>
    exact congrArg _ (faithful.effect (.due (.create ready)) answer).unchanged
  | writeShut shut => rfl
  | written isOpen full => exact full.objects_eq isOpen (faithful.fed isOpen)
  | writeFailed isOpen parts full answer =>
    have before := (parts.moves isOpen).faithful (faithful.fed isOpen)
    have stillOpen := parts.status_eq.trans isOpen
    have unchanged := (before.effect (.due (.part stillOpen partSize_pos full)) answer).unchanged
    exact (congrArg _ unchanged).trans (parts.objects_eq isOpen (faithful.fed isOpen))
  | completeShut shut => rfl
  | lastPartFailed isOpen left answer =>
    have due := Due.part isOpen (Nat.pos_of_ne_zero left) (Nat.le_refl _)
    exact congrArg _ (faithful.effect (.due due) answer).unchanged
  | noData isOpen empty bare withdrawal => exact withdrawal.objects_eq faithful
  | noDataBroken isOpen empty bare withdrawal => exact withdrawal.objects_eq faithful
  | completed => exact absurd rfl (incomplete _)
  | completeFailed isOpen drained nonempty answer =>
    have before := (drained.moves isOpen).faithful faithful
    have stillOpen := drained.status_eq.trans isOpen
    have due := Due.completion stillOpen drained.empty nonempty
    have unchanged := (before.effect (.due due) answer).unchanged
    exact (congrArg _ unchanged).trans (drained.object_eq isOpen faithful)
  | aborted withdrawal => exact withdrawal.objects_eq faithful
  | abortBroken withdrawal => exact withdrawal.objects_eq faithful
  | releaseShut shut => rfl
  | released isOpen withdrawal => exact withdrawal.objects_eq faithful
  | releaseBroken isOpen withdrawal => exact withdrawal.objects_eq faithful
  | dropShut shut => rfl
  | dropped isOpen withdrawal => exact withdrawal.objects_eq faithful

end ObjectStorage.Upload
