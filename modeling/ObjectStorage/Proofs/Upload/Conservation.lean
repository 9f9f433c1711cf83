import ObjectStorage.Proofs.Pieces
import ObjectStorage.Proofs.Upload.Recording

/-! No byte is lost, repeated or moved, whatever goes wrong: what was acknowledged of an upload and
what still waits, one after the other, is what was taken from the caller, until the upload is given
up. -/

namespace ObjectStorage

variable {σ : Type}

namespace Upload

/-- What was acknowledged and what waits is all of some data, unless the upload was given up. -/
def Conserved (u : Upload) (trace : List Exchange) (data : ByteArray) : Prop :=
  u.status ≠ .aborted → joined (acknowledgedData trace) ++ u.queue.bytes = data

variable {gateway : Gateway σ} {operation : Operation} {u v : Upload} {s t : σ}
  {trace after : List Exchange} {data : ByteArray} {result : Except Fault (Option String)}

theorem conserved_blank (bucket key : String) (expectedSize? : Option Int) :
    Conserved (blank bucket key expectedSize?) [] .empty :=
  fun _ => rfl

/-- The front of the queue has become a part, and nothing else has changed. -/
theorem Conserved.sent {size : Nat} {tag : Value} (conserved : Conserved u trace data)
    (enough : size ≤ u.queue.size) :
    Conserved (u.sent size tag) (trace ++ [⟨u.partRequest size, .ok tag⟩]) data := by
  intro kept
  have last : acknowledgedData [⟨u.partRequest size, .ok tag⟩] =
      [u.queue.bytes.extract 0 size] := rfl
  rw [acknowledgedData_append, last, joined_snoc, ByteArray.append_assoc, ← conserved kept]
  exact congrArg (joined (acknowledgedData trace) ++ ·) (extract_append_rest enough)

/-- An exchange that acknowledges no part changes nothing about the data. -/
theorem Conserved.ask {x : Exchange} (conserved : Conserved u trace data)
    (none : x.acknowledged? = none) : Conserved u (trace ++ [x]) data := by
  intro kept
  have same : acknowledgedData (trace ++ [x]) = acknowledgedData trace := by
    simp [acknowledgedData, acknowledged, none]
  rw [same]
  exact conserved kept

theorem Conserved.failedBy {e : Fault} (conserved : Conserved u trace data) (live : u.IsLive) :
    Conserved (u.failedBy e) trace data := by
  intro _
  have same : (u.failedBy e).queue = u.queue := by
    unfold Upload.failedBy
    split <;> rfl
  rw [same]
  exact conserved live.2

theorem Exchange.acknowledged?_error (request : Request) (e : Fault) :
    Exchange.acknowledged? ⟨request, .error e⟩ = none := by
  cases request <;> rfl

theorem Conserved.after_move (conserved : Conserved u trace data)
    (move : Move gateway.recorded (u, s, trace) (v, t, after)) : Conserved v after data := by
  cases move with
  | opened ready answer =>
    obtain ⟨_, rfl⟩ := recorded_answer.mp answer
    have live : u.status ≠ .aborted := by simp [ready]
    exact fun _ => conserved.ask rfl live
  | sent isOpen positive enough answer =>
    obtain ⟨_, rfl⟩ := recorded_answer.mp answer
    exact conserved.sent enough
  | assembled isOpen empty nonempty answer =>
    obtain ⟨_, rfl⟩ := recorded_answer.mp answer
    have live : u.status ≠ .aborted := by simp [isOpen]
    exact fun _ => conserved.ask rfl live
  | failed due answer =>
    obtain ⟨_, rfl⟩ := recorded_answer.mp answer
    exact (conserved.ask (Exchange.acknowledged?_error _ _)).failedBy due.live
  | withdrawn withdrawal =>
    cases withdrawal with
    | idle done => exact conserved
    | unnamed live void => exact fun kept => absurd rfl kept
    | taken live named answer => exact fun kept => absurd rfl kept
    | refused live named answer refusal => exact fun kept => absurd rfl kept
    | broken live named answer other =>
      obtain ⟨_, rfl⟩ := recorded_answer.mp answer
      exact conserved.ask (Exchange.acknowledged?_error _ _)

/-- Data that is taken waits behind everything else. -/
theorem Conserved.fed (conserved : Conserved u trace data) (more : ByteArray) :
    Conserved (u.fed more) trace (data ++ more) := by
  intro kept
  rw [← conserved kept, ByteArray.append_assoc]
  rfl

/-- A step adds the data of a write that is taken, even if the write fails. -/
theorem Conserved.after_step (conserved : Conserved u trace data)
    (step : Step gateway.recorded operation (u, s, trace) result (v, t, after)) :
    Conserved v after (data ++ Event.taken ⟨operation, u.status, result⟩) := by
  obtain ⟨w, moves, rfl⟩ := step.moves
  rw [feed_eq_fed u operation result] at moves
  rw [credit_eq_credited w operation u.status result]
  exact moves.keeps (P := fun u (kept : σ × List Exchange) => Conserved u kept.2 _)
    (fun before move => before.after_move move) (conserved.fed _)

end Upload

/-- The data of all writes that found their upload in progress. -/
def History.taken (h : History σ) : ByteArray := joined (h.events.map Event.taken)

/-- Whatever the gateway answers, what was acknowledged and what waits is what was taken. -/
theorem History.conserved (gateway : Gateway σ) (bucket key : String) (expectedSize? : Option Int)
    (store : σ) (operations : List Operation) :
    Upload.Conserved (recorded gateway bucket key expectedSize? store operations).upload
      (recorded gateway bucket key expectedSize? store operations).trace
      (recorded gateway bucket key expectedSize? store operations).taken := by
  refine run_keeps (P := fun u (kept : σ × List Exchange) events =>
    Upload.Conserved u kept.2 (joined (events.map Event.taken))) ?_ ?_ operations
  · exact Upload.conserved_blank bucket key expectedSize?
  · intro u kept events operation result v reached conserved step
    rw [List.map_append, List.map_singleton, joined_snoc]
    exact conserved.after_step step

end ObjectStorage
