import ObjectStorage.Proofs.PartStore
import ObjectStorage.Proofs.Upload.Conservation
import ObjectStorage.Proofs.Upload.Lifecycle

/-! Sending that is cut off. When a write or a completion ends with a fault, the fault is the last
answer of the store, and the upload holds everything that the next attempt needs, whatever was sent
before (`History.sending_cut_off`). -/

namespace ObjectStorage

variable {σ : Type}

namespace Operation

/-- The operations that send the data of an upload on. -/
inductive Sends : Operation → Prop where
  | write : Sends (.write offset data)
  | complete : Sends .complete

/-- The data that an operation comes with. -/
def data : Operation → ByteArray
  | write _ data => data
  | _ => .empty

end Operation

namespace Upload

/-- What a fault leaves of an upload that was in progress, when so much data had been taken in
all. -/
structure Interrupted (u : Upload) (trace : List Exchange) (data : ByteArray) (e : Fault)
    (v : Upload) (exchanges : List Exchange) : Prop where
  /-- Nothing is asked once a request has failed. -/
  last : ∃ before request, exchanges = before ++ [⟨request, .error e⟩] ∧ Smooth before
  acceptedBytes_eq : v.acceptedBytes = u.acceptedBytes
  uploadId_eq : v.uploadId = u.uploadId
  parts : u.parts <+: v.parts
  known : acknowledgedParts (trace ++ exchanges) = v.parts
  content : joined (acknowledgedData (trace ++ exchanges)) ++ v.queue.bytes = data
  status_eq : v.status = if e.isGateway then .failed else .inProgress

variable {gateway : Gateway σ} {operation : Operation} {u v : Upload} {s t : σ}
  {trace after exchanges : List Exchange} {data : ByteArray} {e : Fault}

/-- After moves that leave an upload in progress, its parts are those that were acknowledged. -/
theorem Moves.known (moves : Moves gateway.recorded (u, s, trace) (v, t, after))
    (standing : Standing u trace) (isOpen : v.status = .inProgress) :
    acknowledgedParts after = v.parts := by
  have moved : Standing v after := by
    refine moves.keeps (P := fun u kept => Standing u kept.2) ?_ standing
    exact fun standing move => standing.after_move move
  exact (moved.of_open isOpen).2.1

/-- Parts were sent, and then a request did not come through. -/
theorem Forwarded.interrupted {request : Request} (forwarded : Forwarded u v exchanges)
    (isOpen : u.status = .inProgress) (known : acknowledgedParts (trace ++ exchanges) = v.parts)
    (conserved : Conserved (v.failedBy e) (trace ++ (exchanges ++ [⟨request, .error e⟩])) data) :
    Interrupted u trace data e (v.failedBy e) (exchanges ++ [⟨request, .error e⟩]) := by
  have status : (v.failedBy e).status = if e.isGateway then .failed else .inProgress := by
    unfold failedBy
    split
    · rfl
    · exact forwarded.status_eq.trans isOpen
  have kept : (v.failedBy e).acceptedBytes = v.acceptedBytes ∧
      (v.failedBy e).uploadId = v.uploadId ∧ (v.failedBy e).parts = v.parts := by
    unfold failedBy
    split <;> exact ⟨rfl, rfl, rfl⟩
  have live : (v.failedBy e).status ≠ .aborted := by
    rw [status]
    split <;> simp
  exact {
    last := ⟨exchanges, request, rfl, forwarded.smooth⟩
    acceptedBytes_eq := kept.1.trans forwarded.acceptedBytes_eq
    uploadId_eq := kept.2.1.trans forwarded.uploadId_eq
    parts := by
      rw [kept.2.2]
      exact forwarded.parts
    known := by
      rw [kept.2.2, ← known]
      simp [acknowledgedParts, acknowledged_error]
    content := conserved live
    status_eq := status }

/-- A step that sends data on and fails leaves its upload to the next attempt. Without any data
there is nothing to send, and the upload is given up instead. -/
theorem Step.interrupted
    (step : Step gateway.recorded operation (u, s, trace) (.error e) (v, t, after))
    (isOpen : u.status = .inProgress) (standing : Standing u trace)
    (conserved : Conserved u trace data) (sends : operation.Sends)
    (other : e ≠ .storage .noDataUploaded) :
    ∃ exchanges, after = trace ++ exchanges ∧
      Interrupted u trace (data ++ operation.data) e v exchanges := by
  have taken : Event.taken ⟨operation, u.status, .error e⟩ = operation.data := by
    rw [isOpen]
    cases sends <;> rfl
  have whole := conserved.after_step step
  rw [taken] at whole
  have quiet : acknowledgedParts (trace ++ []) = u.parts := by
    rw [List.append_nil]
    exact (standing.of_open isOpen).2.1
  cases step with
  | writeShut shut => exact absurd isOpen shut
  | @writeFailed _ _ _ _ _ _ _ more _ _ parts full answer =>
    obtain ⟨exchanges, kept, forwarded⟩ := parts.forwarded
    have fed : Standing (u.fed more) trace := standing.congr rfl rfl rfl
    have sent := (parts.moves isOpen).known fed (parts.status_eq.trans isOpen)
    rw [kept] at sent
    obtain ⟨_, rfl⟩ := recorded_answer.mp answer
    rw [kept, List.append_assoc] at whole ⊢
    exact ⟨_, rfl, forwarded.of_fed.interrupted isOpen sent whole⟩
  | completeShut shut => exact absurd isOpen shut
  | lastPartFailed _ left answer =>
    obtain ⟨_, rfl⟩ := recorded_answer.mp answer
    exact ⟨_, rfl, (Forwarded.refl u).interrupted isOpen quiet whole⟩
  | noData _ empty bare withdrawal => exact absurd rfl other
  | noDataBroken _ empty bare withdrawal =>
    cases withdrawal with
    | broken live named answer other =>
      obtain ⟨_, rfl⟩ := recorded_answer.mp answer
      have unchanged : u.failedBy e = u := failedBy_of_other (by simp [other])
      rw [← unchanged] at whole
      have left := (Forwarded.refl u).interrupted isOpen quiet whole
      rw [unchanged] at left
      exact ⟨_, rfl, left⟩
  | completeFailed _ drained nonempty answer =>
    obtain ⟨exchanges, kept, forwarded⟩ := drained.forwarded
    have sent := (drained.moves isOpen).known standing (drained.status_eq.trans isOpen)
    rw [kept] at sent
    obtain ⟨_, rfl⟩ := recorded_answer.mp answer
    rw [kept, List.append_assoc] at whole ⊢
    exact ⟨_, rfl, forwarded.interrupted isOpen sent whole⟩
  | startFailed | startLate | abortBroken | releaseBroken => cases sends

end Upload

namespace History

variable {gateway : Gateway σ} {bucket key : String} {expectedSize? : Option Int} {store : σ}
  {operations : List Operation} {operation : Operation} {h : History (σ × List Exchange)}
  {e : Fault}

/-- Whatever the store answers, a write or a completion of an upload in progress fails with the
answer to its last request, unless there was no data. What was acknowledged and what still waits
are all the data there is, and only a gateway error ends the upload. -/
theorem sending_cut_off (reached : h = recorded gateway bucket key expectedSize? store operations)
    (isOpen : h.upload.status = .inProgress) (sends : operation.Sends)
    (failed : (operation.perform gateway.recorded h.session).1 = .error e)
    (other : e ≠ .storage .noDataUploaded) :
    ∃ exchanges, (h.step gateway.recorded operation).trace = h.trace ++ exchanges ∧
      Upload.Interrupted h.upload h.trace
        (joined (acknowledgedData h.trace) ++ h.upload.queue.bytes ++ operation.data) e
        (h.step gateway.recorded operation).upload exchanges := by
  have standing : Upload.Standing h.upload h.trace := by
    rw [reached]
    exact standing gateway bucket key expectedSize? store operations
  have step := Upload.perform_step gateway.recorded operation h.session
  rw [failed] at step
  exact step.interrupted isOpen standing (fun _ => rfl) sends other

/-- An upload to the store in memory that will acknowledge the last part, and then refuse to put the
object together. -/
def unfinished : History ((Memory × List (Option Fault)) × List Exchange) :=
  recorded Memory.partStore.gateway.withOutages "media" "clip.mp4" none
    ({}, [none, none, some (.storage (.gateway "reset"))]) [.start, .write 0 ⟨#[1, 2, 3]⟩]

theorem sending_cut_off_unfinished :
    (Operation.complete.perform Memory.partStore.gateway.withOutages.recorded
        unfinished.session).1 = .error (.storage (.gateway "reset")) ∧
      ∃ exchanges,
        (unfinished.step Memory.partStore.gateway.withOutages.recorded .complete).trace =
          unfinished.trace ++ exchanges ∧
        Upload.Interrupted unfinished.upload unfinished.trace ⟨#[1, 2, 3]⟩
          (.storage (.gateway "reset"))
          (unfinished.step Memory.partStore.gateway.withOutages.recorded .complete).upload
          exchanges := by
  have isOpen : unfinished.upload.status = .inProgress := by decide +kernel
  have failed : (Operation.complete.perform Memory.partStore.gateway.withOutages.recorded
      unfinished.session).1 = .error (.storage (.gateway "reset")) := by rfl
  have data : joined (acknowledgedData unfinished.trace) ++ unfinished.upload.queue.bytes ++
      Operation.complete.data = ⟨#[1, 2, 3]⟩ := by decide +kernel
  have left := sending_cut_off (h := unfinished) rfl isOpen .complete failed (by simp)
  rw [data] at left
  exact ⟨failed, left⟩

end History

end ObjectStorage
