import ObjectStorage.Proofs.Client
import ObjectStorage.Proofs.Upload.Conservation
import ObjectStorage.Proofs.Upload.Layout

/-! The count of the bytes that were accepted. It falls behind what was taken by the writes that end
with a fault and leave their upload in progress (`History.taken_size`). Over an ordinary client
there are such writes only if a part is acknowledged without its tag
(`History.balanced_of_frank`). -/

namespace ObjectStorage

variable {σ : Type}

/-- The data of a write that found its upload in progress and ended with a fault. -/
def Event.broken : Event → ByteArray
  | ⟨.write _ data, .inProgress, .error _⟩ => data
  | _ => .empty

/-- The number of bytes of the writes that found their upload in progress and ended with a fault. -/
def brokenBytes (events : List Event) : Nat := (events.map (·.broken.size)).sum

/-- The number of bytes that were acknowledged. -/
def acknowledgedBytes (trace : List Exchange) : Nat :=
  ((acknowledgedData trace).map ByteArray.size).sum

/-- While an upload is in progress, what was acknowledged and what waits is what was accepted, but
for so many bytes that were taken besides. -/
def History.Balanced (h : History (σ × List Exchange)) (besides : Nat) : Prop :=
  h.upload.status = .inProgress →
    acknowledgedBytes h.trace + h.upload.queue.size = h.upload.acceptedBytes + besides

/-- A request sends no more data than a part has. -/
def Request.IsBounded : Request → Prop
  | .uploadPart _ _ _ _ data => data.size ≤ partSize
  | _ => True

/-- No request of a trace sends more data than a part has. -/
def Bounded (trace : List Exchange) : Prop := ∀ x ∈ trace, x.request.IsBounded

namespace Upload

variable {gateway : Gateway σ} {operation : Operation} {u v : Upload} {s t : σ}
  {trace after : List Exchange} {data : ByteArray} {result : Except Fault (Option String)}

theorem Move.acceptedBytes_eq {a b : Upload × σ} (move : Move gateway a b) :
    b.1.acceptedBytes = a.1.acceptedBytes := by
  cases move with
  | opened ready answer => rfl
  | sent isOpen positive enough answer => rfl
  | assembled isOpen empty nonempty answer => rfl
  | failed due answer =>
    unfold failedBy
    split <;> rfl
  | withdrawn withdrawal => cases withdrawal <;> rfl

/-- A write counts when it comes to its end; nothing else counts. -/
theorem Step.acceptedBytes_eq (step : Step gateway operation (u, s) result (v, t)) :
    v.acceptedBytes = u.acceptedBytes + (Event.accepted ⟨operation, u.status, result⟩).size := by
  obtain ⟨w, moves, rfl⟩ := step.moves
  have moved : w.acceptedBytes = (u.feed operation).acceptedBytes :=
    moves.keeps (P := fun w _ => w.acceptedBytes = _)
      (fun same move => move.acceptedBytes_eq.trans same) rfl
  rw [feed_eq_fed u operation result] at moved
  rw [credit_eq_credited w operation u.status result]
  exact congrArg (· + ByteArray.size _) moved

/-- The data that a step takes is accepted, or its write is broken. -/
theorem Step.taken_size (step : Step gateway operation (u, s) result (v, t)) :
    (Event.taken ⟨operation, u.status, result⟩).size =
      (Event.accepted ⟨operation, u.status, result⟩).size +
        (Event.broken ⟨operation, u.status, result⟩).size := by
  cases step with
  | writeShut shut =>
    cases status : u.status <;> first | rfl | exact absurd status shut
  | written isOpen parts => simp [Event.taken, Event.accepted, Event.broken, isOpen]
  | writeFailed isOpen parts full answer =>
    simp [Event.taken, Event.accepted, Event.broken, isOpen]
  | _ => rfl

theorem Bounded.ask {request : Request} {reply : Except Fault Value} (bounded : Bounded trace)
    (answer : gateway.recorded.answer request (s, trace) = (reply, t, after))
    (within : request.IsBounded) : Bounded after := by
  obtain ⟨_, rfl⟩ := recorded_answer.mp answer
  exact forall_mem_snoc bounded within

theorem partRequest_isBounded {size : Nat} (within : size ≤ partSize) :
    (u.partRequest size).IsBounded := by
  change (u.queue.bytes.extract 0 size).size ≤ partSize
  rw [ByteArray.size_extract]
  omega

theorem FullParts.bounded {count : Nat} {a b : Upload × σ × List Exchange}
    (parts : FullParts gateway.recorded count a b) (bounded : Bounded a.2.2) : Bounded b.2.2 := by
  induction parts with
  | none => exact bounded
  | more full answer rest ih =>
    exact ih (Bounded.ask bounded answer (partRequest_isBounded (Nat.le_refl _)))

theorem Drained.bounded {a b : Upload × σ × List Exchange}
    (drained : Drained gateway.recorded a b) (few : a.1.queue.size < partSize)
    (bounded : Bounded a.2.2) : Bounded b.2.2 := by
  cases drained with
  | nothing empty => exact bounded
  | rest left answer =>
    exact Bounded.ask bounded answer (partRequest_isBounded (Nat.le_of_lt few))

theorem Withdrawal.bounded {ended : Except Fault Unit} {a b : Upload × σ × List Exchange}
    (withdrawal : Withdrawal gateway.recorded a ended b) (bounded : Bounded a.2.2) :
    Bounded b.2.2 := by
  cases withdrawal with
  | idle done => exact bounded
  | unnamed live void => exact bounded
  | taken live named answer => exact Bounded.ask bounded answer trivial
  | refused live named answer refusal => exact Bounded.ask bounded answer trivial
  | broken live named answer other => exact Bounded.ask bounded answer trivial

/-- As long as less than a part waits between steps, a step sends no more than a part at once. -/
theorem Step.bounded {a b : Upload × σ × List Exchange}
    (step : Step gateway.recorded operation a result b)
    (few : a.1.status = .inProgress → a.1.queue.size < partSize) (bounded : Bounded a.2.2) :
    Bounded b.2.2 := by
  cases step with
  | startLate late => exact bounded
  | started ready answer => exact Bounded.ask bounded answer trivial
  | startFailed ready answer => exact Bounded.ask bounded answer trivial
  | writeShut shut => exact bounded
  | written isOpen parts => exact parts.bounded bounded
  | writeFailed isOpen parts full answer =>
    exact Bounded.ask (parts.bounded bounded) answer (partRequest_isBounded (Nat.le_refl _))
  | completeShut shut => exact bounded
  | lastPartFailed isOpen left answer =>
    exact Bounded.ask bounded answer (partRequest_isBounded (Nat.le_of_lt (few isOpen)))
  | noData isOpen empty bare withdrawal => exact withdrawal.bounded bounded
  | noDataBroken isOpen empty bare withdrawal => exact withdrawal.bounded bounded
  | completed isOpen drained nonempty answer =>
    exact Bounded.ask (drained.bounded (few isOpen) bounded) answer trivial
  | completeFailed isOpen drained nonempty answer =>
    exact Bounded.ask (drained.bounded (few isOpen) bounded) answer trivial
  | aborted withdrawal => exact withdrawal.bounded bounded
  | abortBroken withdrawal => exact withdrawal.bounded bounded
  | releaseShut shut => exact bounded
  | released isOpen withdrawal => exact withdrawal.bounded bounded
  | releaseBroken isOpen withdrawal => exact withdrawal.bounded bounded
  | dropShut shut => exact bounded
  | dropped isOpen withdrawal => exact withdrawal.bounded bounded

end Upload

namespace History

variable {gateway : Gateway σ}

/-- What was taken was accepted, but for the broken writes. -/
theorem taken_size (gateway : Gateway σ) (bucket key : String) (expectedSize? : Option Int)
    (store : σ) (operations : List Operation) :
    (recorded gateway bucket key expectedSize? store operations).taken.size =
      (recorded gateway bucket key expectedSize? store operations).upload.acceptedBytes +
        brokenBytes (recorded gateway bucket key expectedSize? store operations).events := by
  refine run_keeps (P := fun u (_ : σ × List Exchange) events =>
    (joined (events.map Event.taken)).size = u.acceptedBytes + brokenBytes events) rfl ?_ operations
  intro u kept events operation result v reached sizes step
  have taken := step.taken_size
  have counted := step.acceptedBytes_eq
  have broken : brokenBytes (events ++ [⟨operation, u.status, result⟩]) = brokenBytes events +
      (Event.broken ⟨operation, u.status, result⟩).size := by simp [brokenBytes]
  rw [List.map_append, List.map_singleton, joined_snoc, ByteArray.size_append]
  omega

/-- Over a frank store, no request sends more than a part. -/
theorem bounded (frank : Frank gateway) (bucket key : String) (expectedSize? : Option Int)
    (store : σ) (operations : List Operation) :
    Bounded (recorded gateway bucket key expectedSize? store operations).trace := by
  induction operations using List.reverseRecOn with
  | nil => simp [Bounded, recorded, run, trace, History.store]
  | append_singleton operations operation ih =>
    have progress := progress_of_frank frank bucket key expectedSize? store operations
    have step := Upload.perform_step gateway.recorded operation
      (recorded gateway bucket key expectedSize? store operations).session
    have few := fun isOpen => (progress.of_active (Upload.isActive_of_open isOpen)).2.1
    rw [recorded, run_snoc]
    exact step.bounded few ih

/-- Whatever the gateway answers, what an upload in progress took besides what it accepted is the
data of the broken writes. -/
theorem balanced (gateway : Gateway σ) (bucket key : String) (expectedSize? : Option Int)
    (store : σ) (operations : List Operation) :
    (recorded gateway bucket key expectedSize? store operations).Balanced
      (brokenBytes (recorded gateway bucket key expectedSize? store operations).events) := by
  intro isOpen
  have kept : (recorded gateway bucket key expectedSize? store operations).upload.status ≠
      .aborted := by simp [isOpen]
  have whole := conserved gateway bucket key expectedSize? store operations kept
  rw [← taken_size, ← whole, ByteArray.size_append, size_joined]
  rfl

theorem balanced_of_frank (frank : Frank gateway) (bucket key : String)
    (expectedSize? : Option Int) (store : σ) (operations : List Operation) :
    (recorded gateway bucket key expectedSize? store operations).Balanced 0 := by
  intro isOpen
  have progress := progress_of_frank frank bucket key expectedSize? store operations
  obtain ⟨cut, _, counted⟩ := progress.of_active (Upload.isActive_of_open isOpen)
  rw [acknowledgedBytes, cut.size_pieces, counted, cut.size_eq, Nat.add_zero]
  rfl

/-- The bytes of an upload over a client: what is taken besides what is accepted is the data of
broken writes. Over an ordinary client whose parts have tags there is none, and no request sends
more than a part. -/
theorem accounting (client : Client σ) (bucket key : String) (expectedSize? : Option Int)
    (store : σ) (operations : List Operation) :
    (recorded client.gateway bucket key expectedSize? store operations).Balanced
        (brokenBytes
          (recorded client.gateway bucket key expectedSize? store operations).events) ∧
      (client.Ordinary → client.Tagging →
        (recorded client.gateway bucket key expectedSize? store operations).Balanced 0 ∧
          Bounded (recorded client.gateway bucket key expectedSize? store operations).trace) := by
  refine ⟨balanced client.gateway bucket key expectedSize? store operations, ?_⟩
  intro ordinary tagging
  have frank : Frank client.gateway := ordinary.isGateway_of_error tagging
  exact ⟨balanced_of_frank frank bucket key expectedSize? store operations,
    bounded frank bucket key expectedSize? store operations⟩

/-- A small write to a client whose parts have tags. -/
theorem accounting_of_tagged :
    (Client.plain true).Ordinary ∧ (Client.plain true).Tagging ∧
      (recorded (Client.plain true).gateway "media" "clip.mp4" none ()
        [.start, .write 0 ⟨#[1, 2, 3]⟩]).upload.status = .inProgress ∧
      (recorded (Client.plain true).gateway "media" "clip.mp4" none ()
        [.start, .write 0 ⟨#[1, 2, 3]⟩]).Balanced 0 ∧
      Bounded (recorded (Client.plain true).gateway "media" "clip.mp4" none ()
        [.start, .write 0 ⟨#[1, 2, 3]⟩]).trace := by
  have ordinary := Client.plain_ordinary true
  have tagging : (Client.plain true).Tagging := Client.plain_tagging
  refine ⟨ordinary, tagging, by decide +kernel, ?_⟩
  exact (accounting (Client.plain true) "media" "clip.mp4" none () _).2 ordinary tagging

/-- A history goes on with the step that the next operation can take. -/
theorem face_of_step {u : Upload} {operation : Operation} {a b : Upload × σ}
    {result : Except Fault (Option String)} {store : σ} (operations : List Operation)
    (now : (run gateway u store operations).session.face = a)
    (step : Upload.Step gateway operation a result b) :
    (run gateway u store (operations ++ [operation])).session.face = b := by
  have own := Upload.perform_step gateway operation (run gateway u store operations).session
  rw [now] at own
  rw [run_snoc]
  exact (own.unique step).2

end History

/-- The fault of a part that is acknowledged without its tag. -/
def Fault.untagged : Fault := .missingMember "ETag"

namespace Upload

variable {u : Upload} {trace : List Exchange} {data : ByteArray}

/-- A write that fills a part is broken by a client without tags, and its data waits. -/
theorem broken_of_untagged (isOpen : u.status = .inProgress)
    (full : partSize ≤ (u.fed data).queue.size) (offset : Int) :
    Step (Client.plain false).gateway.recorded (.write offset data) (u, (), trace)
      (.error .untagged)
      (u.fed data, (), trace ++ [⟨(u.fed data).partRequest partSize, .error .untagged⟩]) :=
  .writeFailed isOpen .none full rfl

/-- All that waits is sent at once on completion. -/
theorem stuck_of_untagged (isOpen : u.status = .inProgress) (left : u.queue.size ≠ 0) :
    Step (Client.plain false).gateway.recorded .complete (u, (), trace) (.error .untagged)
      (u, (), trace ++ [⟨u.partRequest u.queue.size, .error .untagged⟩]) :=
  .lastPartFailed isOpen left rfl

end Upload

namespace History

theorem of_face {h : History (σ × List Exchange)} {u : Upload} {s : σ} {trace : List Exchange}
    (reached : h.session.face = (u, s, trace)) : h.upload = u ∧ h.trace = trace :=
  ⟨congrArg Prod.fst reached, congrArg (·.2.2) reached⟩

/-- A write of a part or more to a client without tags, and a completion behind it. -/
theorem face_of_untagged (bucket key : String) (expectedSize? : Option Int) (offset : Int)
    {data : ByteArray} (full : partSize ≤ data.size) :
    (recorded (Client.plain false).gateway bucket key expectedSize? ()
      [.start, .write offset data, .complete]).session.face =
        (((Upload.blank bucket key expectedSize?).opened (.text "upload")).fed data, (),
          [⟨(Upload.blank bucket key expectedSize?).createRequest, .ok (.text "upload")⟩,
            ⟨(((Upload.blank bucket key expectedSize?).opened (.text "upload")).fed
              data).partRequest partSize, .error .untagged⟩,
            ⟨(((Upload.blank bucket key expectedSize?).opened (.text "upload")).fed
              data).partRequest data.size, .error .untagged⟩]) := by
  have waits : (((Upload.blank bucket key expectedSize?).opened (.text "upload")).fed
      data).queue.size = data.size := congrArg ByteArray.size ByteArray.empty_append
  have started : Upload.Step (Client.plain false).gateway.recorded .start
      (Upload.blank bucket key expectedSize?, (), []) (.ok none)
      ((Upload.blank bucket key expectedSize?).opened (.text "upload"), (), _) :=
    .started rfl rfl
  have begun := face_of_step [] rfl started
  have broken := face_of_step _ begun (Upload.broken_of_untagged rfl (waits.symm ▸ full) offset)
  have some : data.size ≠ 0 := Nat.ne_of_gt (Nat.lt_of_lt_of_le Upload.partSize_pos full)
  have stuck := face_of_step _ broken (Upload.stuck_of_untagged rfl (waits.symm ▸ some))
  rw [waits] at stuck
  exact stuck

/-- A client whose parts have no tags: a write of more than a part ends with a fault that leaves the
upload in progress. Its data waits, although it was not accepted, and the completion sends all of it
at once. -/
theorem accounting_of_untagged :
    (Client.plain false).Ordinary ∧
      ¬ (recorded (Client.plain false).gateway "media" "clip.mp4" none ()
        [.start, .write 0 ⟨Array.replicate (partSize + 1) 0⟩, .complete]).Balanced 0 ∧
      ¬ Bounded (recorded (Client.plain false).gateway "media" "clip.mp4" none ()
        [.start, .write 0 ⟨Array.replicate (partSize + 1) 0⟩, .complete]).trace := by
  have size : ByteArray.size ⟨Array.replicate (partSize + 1) 0⟩ = partSize + 1 :=
    Array.size_replicate
  -- The data is too large to be evaluated; nothing but its size matters.
  generalize (⟨Array.replicate (partSize + 1) 0⟩ : ByteArray) = data at size ⊢
  have full : partSize ≤ data.size := by omega
  have reached := face_of_untagged "media" "clip.mp4" none 0 full
  generalize recorded (Client.plain false).gateway "media" "clip.mp4" none ()
    [.start, .write 0 data, .complete] = h at reached ⊢
  obtain ⟨upload, trace⟩ := of_face reached
  have waits : h.upload.queue.size = partSize + 1 := by
    rw [upload]
    exact (congrArg ByteArray.size ByteArray.empty_append).trans size
  refine ⟨Client.plain_ordinary false, ?_, ?_⟩
  · intro balanced
    have isOpen : h.upload.status = .inProgress := by rw [upload]; rfl
    have accepted : h.upload.acceptedBytes = 0 := by rw [upload]; rfl
    have sizes := balanced isOpen
    rw [waits, accepted] at sizes
    omega
  · intro bounded
    rw [trace] at bounded
    have last := bounded _ (.tail _ (.tail _ (.head _)))
    change (ByteArray.extract (.empty ++ data) 0 data.size).size ≤ partSize at last
    rw [ByteArray.empty_append, ByteArray.extract_zero_size] at last
    omega

end History

end ObjectStorage
