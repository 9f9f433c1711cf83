import ObjectStorage.Memory.Store
import ObjectStorage.Proofs.Pieces
import ObjectStorage.Proofs.Upload.Standing

/-! The layout of uploads. Over a store whose faults are all gateway errors, the data that was
accepted is cut at multiples of the part size: what was acknowledged are full parts, and less than
one part waits, until the upload is completed. -/

namespace ObjectStorage

variable {σ : Type}

/-- A store whose every fault is a gateway error. -/
def Candid (gateway : Gateway σ) : Prop :=
  ∀ {request s e t}, gateway.answer request s = (.error e, t) → e.isGateway = true

/-- A store whose faults about uploads that it has created are all gateway errors. -/
def Frank (gateway : Gateway σ) : Prop :=
  ∀ {request id s e t}, request.uploadId? = some id → gateway.answer request s = (.error e, t) →
    e.isGateway = true

theorem Candid.frank {gateway : Gateway σ} (candid : Candid gateway) : Frank gateway :=
  fun _ answer => candid answer

/-- A gateway that tells each fault of another one as a gateway error. -/
def Service.candid (gateway : Gateway σ) : Gateway σ where
  answer request s :=
    match gateway.answer request s with
    | (.ok value, t) => (.ok value, t)
    | (.error e, t) => (.error (.storage (.gateway e.message)), t)

theorem candid_candid (gateway : Gateway σ) : Candid gateway.candid := by
  intro request s e t answer
  simp only [Service.candid] at answer
  split at answer
  · cases answer
  · cases answer
    rfl

/-- The data of all writes that came to their end. -/
def History.accepted (h : History σ) : ByteArray := joined (h.events.map Event.accepted)

namespace Upload

/-- While data is taken, full parts of it were acknowledged, and what is left over waits. -/
structure Partitioned (u : Upload) (trace : List Exchange) (data : ByteArray) : Prop where
  counted : u.acceptedBytes = data.size
  numbered : Numbered u.parts
  known : acknowledgedParts trace = u.parts
  length_eq : u.parts.length = data.size / partSize
  piece_eq : ∀ (i : Nat) (within : i < (acknowledgedData trace).length),
    (acknowledgedData trace)[i] = data.extract (i * partSize) ((i + 1) * partSize)
  waiting : u.queue.bytes = data.extract (u.parts.length * partSize) data.size
  queue_size : u.queue.size = data.size % partSize
  few : u.queue.size < partSize
  shipped : ((acknowledgedData trace).map ByteArray.size).sum + u.queue.size = u.acceptedBytes

/-- In the end nothing waits, and all data was acknowledged in parts, of which only the last may be
less than full. -/
structure Delivered (u : Upload) (trace : List Exchange) (data : ByteArray) : Prop where
  empty : u.queue.size = 0
  nonempty : 1 ≤ u.parts.length
  length_eq : u.parts.length = (data.size + partSize - 1) / partSize
  numbered : Numbered u.parts
  known : acknowledgedParts trace = u.parts
  parted : Parted partSize (acknowledgedData trace) data

/-- How far accepted data has come. -/
inductive Progress (u : Upload) (trace : List Exchange) (data : ByteArray) : Prop where
  | active (live : u.isActive = true)
      (cut : Cut partSize (acknowledgedData trace) u.queue.bytes data)
      (few : u.queue.size < partSize) (counted : u.acceptedBytes = data.size)
  | delivered (done : u.status = .completed) (delivered : Delivered u trace data)
  | lost (lost : u.status = .failed ∨ u.status = .aborted)

variable {gateway : Gateway σ} {u v : Upload} {s t : σ} {trace after : List Exchange}
  {data : ByteArray}

theorem Progress.of_active (progress : Progress u trace data) (live : u.isActive = true) :
    Cut partSize (acknowledgedData trace) u.queue.bytes data ∧ u.queue.size < partSize ∧
      u.acceptedBytes = data.size := by
  cases progress with
  | active _ cut few counted => exact ⟨cut, few, counted⟩
  | delivered done => simp [isActive, done] at live
  | lost lost => rcases lost with failed | aborted <;> simp [isActive, *] at live

/-- Every part that is sent was cut off the front of what waits. -/
theorem FullParts.cut {count : Nat} {a b : Upload × σ × List Exchange}
    (parts : FullParts gateway.recorded count a b)
    (cut : Cut partSize (acknowledgedData a.2.2) a.1.queue.bytes data) :
    Cut partSize (acknowledgedData b.2.2) b.1.queue.bytes data := by
  induction parts with
  | none => exact cut
  | @more s t tag count b u full answer rest ih =>
    apply ih
    obtain ⟨_, kept⟩ := recorded_answer.mp answer
    change Cut partSize (acknowledgedData t.2) _ data
    rw [kept, acknowledgedData_append]
    exact cut.snoc full

/-- A write that comes to its end leaves less than one part waiting. -/
theorem FullParts.progress {added : ByteArray} (isOpen : u.status = .inProgress)
    (parts : FullParts gateway.recorded ((u.fed added).queue.size / partSize)
      (u.fed added, s, trace) (v, t, after))
    (progress : Progress u trace data) : Progress (v.credited added) after (data ++ added) := by
  obtain ⟨cut, _, counted⟩ := progress.of_active (isActive_of_open isOpen)
  have stillOpen : v.status = .inProgress := parts.status_eq.trans isOpen
  have left : v.queue.size = (u.fed added).queue.size % partSize := by
    have size : (u.fed added).queue.size =
        (u.fed added).queue.size / partSize * partSize + v.queue.size := parts.size_eq
    have division := Nat.div_add_mod' (u.fed added).queue.size partSize
    omega
  have few : v.queue.size < partSize := by
    rw [left]
    exact Nat.mod_lt _ partSize_pos
  have same : v.acceptedBytes = u.acceptedBytes := parts.acceptedBytes_eq
  refine .active (isActive_of_open stillOpen) (parts.cut (cut.feed added)) few ?_
  rw [ByteArray.size_append, ← counted, ← same]
  rfl

/-- What is left in the end becomes the last part. -/
theorem Drained.delivered (drained : Drained gateway.recorded (u, s, trace) (v, t, after))
    (isOpen : u.status = .inProgress) (standing : Standing u trace)
    (progress : Progress u trace data) (nonempty : v.parts ≠ []) : Delivered v after data := by
  obtain ⟨cut, few, _⟩ := progress.of_active (isActive_of_open isOpen)
  have delivered : ∀ {trace}, v.queue.size = 0 → acknowledgedParts trace = v.parts →
      Numbered v.parts → Parted partSize (acknowledgedData trace) data →
        Delivered v trace data := by
    intro trace empty known numbered parted
    have count : v.parts.length = (acknowledgedData trace).length := by
      rw [← known, length_acknowledgedParts]
    have some : 1 ≤ v.parts.length := List.length_pos_iff.mpr nonempty
    exact ⟨empty, some, count.trans parted.length_eq, numbered, known, parted⟩
  cases drained with
  | nothing empty =>
    obtain ⟨_, known, numbered, _⟩ := standing.of_open isOpen
    exact delivered empty known numbered (cut.parted partSize_pos empty)
  | @rest u s tag t left answer =>
    obtain ⟨_, rfl⟩ := recorded_answer.mp answer
    have grown : Standing (u.sent u.queue.size tag) _ := standing.sent isOpen
    obtain ⟨_, known, numbered, _⟩ := grown.of_open isOpen
    have last : acknowledgedData [⟨u.partRequest u.queue.size, .ok tag⟩] = [u.queue.bytes] := by
      change [u.queue.bytes.extract 0 u.queue.bytes.size] = [u.queue.bytes]
      rw [ByteArray.extract_zero_size]
    refine delivered (by simp) known numbered ?_
    rw [acknowledgedData_append, last]
    exact cut.parted_rest left (Nat.le_of_lt few)

/-- The request that puts the object together changes nothing about what was delivered. -/
theorem Delivered.assembled {value : Value} (delivered : Delivered v trace data) :
    Delivered v.assembled (trace ++ [⟨v.completionRequest, .ok value⟩]) data := by
  obtain ⟨empty, nonempty, length_eq, numbered, known, parted⟩ := delivered
  have none : acknowledged [⟨v.completionRequest, .ok value⟩] = [] := rfl
  refine ⟨empty, nonempty, length_eq, numbered, ?_, ?_⟩
  · simpa [acknowledgedParts, none, Upload.assembled] using known
  · simpa [acknowledgedData, none] using parted

theorem Withdrawal.progress {result : Except Fault Unit} (frank : Frank gateway)
    (withdrawal : Withdrawal gateway.recorded (u, s, trace) result (v, t, after))
    (progress : Progress u trace data) : Progress v after data := by
  cases withdrawal with
  | idle done => exact progress
  | unnamed live void => exact .lost (.inr rfl)
  | taken live named answer => exact .lost (.inr rfl)
  | refused live named answer refusal => exact .lost (.inr rfl)
  | broken live named answer other =>
    have refusal := frank rfl (answer_of_recorded answer)
    simp [refusal] at other

/-- A fault of a frank store fails an upload that it has created. -/
theorem progress_of_fault {request : Request} {id : Value} {e : Fault} (frank : Frank gateway)
    (named : request.uploadId? = some id)
    (answer : gateway.recorded.answer request (s, trace) = (.error e, (t, after))) :
    Progress (u.failedBy e) after data := by
  have refusal := frank named (answer_of_recorded answer)
  apply Progress.lost
  simp [failedBy, refusal]

/-- A creation that fails leaves nothing behind. -/
theorem Progress.uncreated {e : Fault} (progress : Progress u trace data)
    (ready : u.status = .notStarted) :
    Progress (u.failedBy e) (trace ++ [⟨u.createRequest, .error e⟩]) data := by
  by_cases refusal : e.isGateway = true
  · rw [failedBy_of_refusal refusal]
    exact .lost (.inl rfl)
  · have live : u.isActive = true := by simp [isActive, ready]
    obtain ⟨cut, few, counted⟩ := progress.of_active live
    rw [failedBy_of_other refusal]
    refine .active live ?_ few counted
    simpa [acknowledgedData, acknowledged_error] using cut

theorem Step.progress {operation : Operation} {result : Except Fault (Option String)}
    (frank : Frank gateway) (standing : Standing u trace) (progress : Progress u trace data)
    (step : Step gateway.recorded operation (u, s, trace) result (v, t, after)) :
    Progress v after (data ++ Event.accepted ⟨operation, u.status, result⟩) := by
  cases step with
  | startLate late => simpa [Event.accepted] using progress
  | @started s t value u ready answer =>
    obtain ⟨_, rfl⟩ := recorded_answer.mp answer
    obtain ⟨cut, few, counted⟩ := progress.of_active (by simp [isActive, ready])
    have same : acknowledgedData [⟨u.createRequest, .ok value⟩] = [] := rfl
    simp only [Event.accepted, ByteArray.append_empty]
    refine .active rfl ?_ few counted
    rw [acknowledgedData_append, same, List.append_nil]
    exact cut
  | startFailed ready answer =>
    obtain ⟨_, rfl⟩ := recorded_answer.mp answer
    simpa [Event.accepted] using progress.uncreated ready
  | writeShut shut => simpa [Event.accepted] using progress
  | written isOpen parts => exact parts.progress isOpen progress
  | writeFailed isOpen parts full answer => exact progress_of_fault frank rfl answer
  | completeShut shut => simpa [Event.accepted] using progress
  | lastPartFailed isOpen left answer => exact progress_of_fault frank rfl answer
  | noData isOpen empty bare withdrawal =>
    simpa [Event.accepted] using withdrawal.progress frank progress
  | noDataBroken isOpen empty bare withdrawal =>
    simpa [Event.accepted] using withdrawal.progress frank progress
  | completed isOpen drained nonempty answer =>
    obtain ⟨_, rfl⟩ := recorded_answer.mp answer
    have delivered := drained.delivered isOpen standing progress nonempty
    simp only [Event.accepted, ByteArray.append_empty]
    exact .delivered rfl delivered.assembled
  | completeFailed isOpen drained nonempty answer => exact progress_of_fault frank rfl answer
  | aborted withdrawal => simpa [Event.accepted] using withdrawal.progress frank progress
  | abortBroken withdrawal => simpa [Event.accepted] using withdrawal.progress frank progress
  | releaseShut shut => simpa [Event.accepted] using progress
  | released isOpen withdrawal =>
    simpa [Event.accepted] using withdrawal.progress frank progress
  | releaseBroken isOpen withdrawal =>
    simpa [Event.accepted] using withdrawal.progress frank progress
  | dropShut shut => simpa [Event.accepted] using progress
  | dropped isOpen withdrawal =>
    simpa [Event.accepted] using withdrawal.progress frank progress

theorem Progress.partitioned (progress : Progress u trace data) (standing : Standing u trace)
    (isOpen : u.status = .inProgress) : Partitioned u trace data := by
  obtain ⟨cut, few, counted⟩ := progress.of_active (isActive_of_open isOpen)
  obtain ⟨_, known, numbered, _⟩ := standing.of_open isOpen
  have count : u.parts.length = (acknowledgedData trace).length := by
    rw [← known, length_acknowledgedParts]
  exact {
    counted := counted
    numbered := numbered
    known := known
    length_eq := count.trans (cut.length_eq few)
    piece_eq := cut.piece_eq
    waiting := by
      rw [count]
      exact cut.rest_eq
    queue_size := cut.rest_size few
    few := few
    shipped := by
      rw [cut.size_pieces, counted, cut.size_eq]
      rfl }

theorem Progress.of_completed (progress : Progress u trace data) (done : u.status = .completed) :
    Delivered u trace data := by
  cases progress with
  | active live => simp [isActive, done] at live
  | delivered _ delivered => exact delivered
  | lost lost => simp [done] at lost

end Upload

namespace History

variable {gateway : Gateway σ}

theorem progress_of_frank (frank : Frank gateway) (bucket key : String) (expectedSize? : Option Int)
    (store : σ) (operations : List Operation) :
    Upload.Progress (recorded gateway bucket key expectedSize? store operations).upload
      (recorded gateway bucket key expectedSize? store operations).trace
      (recorded gateway bucket key expectedSize? store operations).accepted := by
  suffices kept :
      Upload.Standing (recorded gateway bucket key expectedSize? store operations).upload
          (recorded gateway bucket key expectedSize? store operations).trace ∧
        Upload.Progress (recorded gateway bucket key expectedSize? store operations).upload
          (recorded gateway bucket key expectedSize? store operations).trace
          (recorded gateway bucket key expectedSize? store operations).accepted from kept.2
  refine run_keeps (P := fun u (kept : σ × List Exchange) events => Upload.Standing u kept.2 ∧
    Upload.Progress u kept.2 (joined (events.map Event.accepted))) ⟨?_, ?_⟩ ?_ operations
  · exact Upload.standing_blank bucket key expectedSize?
  · exact .active rfl (.nil partSize .empty) Upload.partSize_pos rfl
  · intro u kept events operation result v reached before step
    obtain ⟨standing, progress⟩ := before
    refine ⟨standing.after_step step, ?_⟩
    rw [List.map_append, List.map_singleton, joined_snoc]
    exact step.progress frank standing progress

theorem progress (candid : Candid gateway) (bucket key : String) (expectedSize? : Option Int)
    (store : σ) (operations : List Operation) :
    Upload.Progress (recorded gateway bucket key expectedSize? store operations).upload
      (recorded gateway bucket key expectedSize? store operations).trace
      (recorded gateway bucket key expectedSize? store operations).accepted :=
  progress_of_frank candid.frank bucket key expectedSize? store operations

/-- Over a candid store, the accepted data is cut at multiples of the part size as long as an upload
is in progress, and has been delivered in parts when it is completed. -/
theorem layout (candid : Candid gateway) (bucket key : String) (expectedSize? : Option Int)
    (store : σ) (operations : List Operation) :
    ((recorded gateway bucket key expectedSize? store operations).upload.status = .inProgress →
      Upload.Partitioned (recorded gateway bucket key expectedSize? store operations).upload
        (recorded gateway bucket key expectedSize? store operations).trace
        (recorded gateway bucket key expectedSize? store operations).accepted) ∧
      ((recorded gateway bucket key expectedSize? store operations).upload.status = .completed →
        Upload.Delivered (recorded gateway bucket key expectedSize? store operations).upload
          (recorded gateway bucket key expectedSize? store operations).trace
          (recorded gateway bucket key expectedSize? store operations).accepted) := by
  have progress := progress candid bucket key expectedSize? store operations
  have standing := standing gateway bucket key expectedSize? store operations
  exact ⟨progress.partitioned standing, progress.of_completed⟩

/-- A small write to the store in memory waits, and is delivered on completion. -/
theorem layout_of_small_write :
    Upload.Partitioned
        (recorded Memory.gateway.candid "media" "clip.mp4" (some 3) {}
          [.start, .write 0 ⟨#[1, 2, 3]⟩]).upload
        (recorded Memory.gateway.candid "media" "clip.mp4" (some 3) {}
          [.start, .write 0 ⟨#[1, 2, 3]⟩]).trace
        (recorded Memory.gateway.candid "media" "clip.mp4" (some 3) {}
          [.start, .write 0 ⟨#[1, 2, 3]⟩]).accepted ∧
      Upload.Delivered
        (recorded Memory.gateway.candid "media" "clip.mp4" (some 3) {}
          [.start, .write 0 ⟨#[1, 2, 3]⟩, .complete]).upload
        (recorded Memory.gateway.candid "media" "clip.mp4" (some 3) {}
          [.start, .write 0 ⟨#[1, 2, 3]⟩, .complete]).trace
        (recorded Memory.gateway.candid "media" "clip.mp4" (some 3) {}
          [.start, .write 0 ⟨#[1, 2, 3]⟩, .complete]).accepted := by
  constructor
  · apply (layout (candid_candid Memory.gateway) "media" "clip.mp4" (some 3) {} _).1
    decide +kernel
  · apply (layout (candid_candid Memory.gateway) "media" "clip.mp4" (some 3) {} _).2
    decide +kernel

end History

end ObjectStorage
