import ObjectStorage.Upload.Operations

/-! What an operation on an upload can come to: the requests that it sends, what it makes of their
answers, and how it ends. The relation `Step` has a case for each way. -/

namespace ObjectStorage

/-- What a caller does with an upload. -/
inductive Operation where
  | start
  | write (offset : Int) (data : ByteArray)
  | complete
  | abort
  /-- Closes the upload, or leaves the context that it was made for. -/
  | release
  /-- Lets go of the upload. -/
  | drop

variable {σ : Type}

/-- Performs an operation; a completion tells the key. -/
def Operation.perform (gateway : Gateway σ) : Operation → Action (Session σ) (Option String)
  | start => do
    Upload.start gateway
    pure none
  | write offset data => do
    Upload.write gateway offset data
    pure none
  | complete => do
    let key ← Upload.complete gateway
    pure (some key)
  | abort => do
    Upload.abort gateway
    pure none
  | release => do
    Upload.release gateway
    pure none
  | drop => do
    Upload.drop gateway
    pure none

namespace Upload

/-- An upload that nothing has been done with. -/
def blank (bucket key : String) (expectedSize? : Option Int) : Upload :=
  { bucket, key, expectedSize? }

def createRequest (u : Upload) : Request :=
  .createUpload u.bucket u.key (ContentType.detect u.key)

/-- The front of the queue as the next part. -/
def partRequest (u : Upload) (size : Nat) : Request :=
  .uploadPart u.bucket u.key u.uploadId ((u.parts.length : Int) + 1) (u.queue.bytes.extract 0 size)

def completionRequest (u : Upload) : Request :=
  .completeUpload u.bucket u.key u.uploadId u.parts

def abortRequest (u : Upload) : Request := .abortUpload u.bucket u.key u.uploadId

def opened (u : Upload) (id : Value) : Upload := { u with uploadId := id, status := .inProgress }

/-- Data joins the queue. -/
def fed (u : Upload) (data : ByteArray) : Upload := { u with queue := u.queue.append data }

/-- The front of the queue has become a part. -/
def sent (u : Upload) (size : Nat) (tag : Value) : Upload :=
  { u with
    queue := ⟨u.queue.bytes.extract size u.queue.bytes.size⟩
    parts := u.parts ++ [⟨(u.parts.length : Int) + 1, tag⟩] }

/-- The data of a write counts as accepted. -/
def credited (u : Upload) (data : ByteArray) : Upload :=
  { u with acceptedBytes := u.acceptedBytes + data.size }

def assembled (u : Upload) : Upload := { u with status := .completed }

/-- An upload that was given up. -/
def cleared (u : Upload) : Upload :=
  { u with uploadId := .null, parts := [], queue := .empty, status := .aborted }

/-- A request other than a withdrawal ended with a fault. -/
def failedBy (u : Upload) (e : Fault) : Upload :=
  if e.isGateway then { u with status := .failed } else u

/-- An upload that is neither completed nor aborted. -/
def IsLive (u : Upload) : Prop := u.status ≠ .completed ∧ u.status ≠ .aborted

/-- Full parts were sent, so many of them, and each was acknowledged. -/
inductive FullParts (gateway : Gateway σ) : Nat → Upload × σ → Upload × σ → Prop where
  | none : FullParts gateway 0 a a
  | more (full : partSize ≤ u.queue.size)
      (answer : gateway.answer (u.partRequest partSize) s = (.ok tag, t))
      (rest : FullParts gateway count (u.sent partSize tag, t) b) :
      FullParts gateway (count + 1) (u, s) b

/-- What was left in the queue, if anything, was sent and acknowledged. -/
inductive Drained (gateway : Gateway σ) : Upload × σ → Upload × σ → Prop where
  | nothing (empty : u.queue.size = 0) : Drained gateway (u, s) (u, s)
  | rest (left : u.queue.size ≠ 0)
      (answer : gateway.answer (u.partRequest u.queue.size) s = (.ok tag, t)) :
      Drained gateway (u, s) (u.sent u.queue.size tag, t)

/-- How an upload is given up. A store that refuses to take it back does not stop that, but any
other fault does. -/
inductive Withdrawal (gateway : Gateway σ) :
    Upload × σ → Except Fault Unit → Upload × σ → Prop where
  | idle (done : ¬ u.IsLive) : Withdrawal gateway (u, s) (.ok ()) (u, s)
  | unnamed (live : u.IsLive) (void : u.uploadId.isVoid = true) :
      Withdrawal gateway (u, s) (.ok ()) (u.cleared, s)
  | taken (live : u.IsLive) (named : u.uploadId.isVoid = false)
      (answer : gateway.answer u.abortRequest s = (.ok value, t)) :
      Withdrawal gateway (u, s) (.ok ()) (u.cleared, t)
  | refused (live : u.IsLive) (named : u.uploadId.isVoid = false)
      (answer : gateway.answer u.abortRequest s = (.error e, t)) (refusal : e.isGateway = true) :
      Withdrawal gateway (u, s) (.ok ()) (u.cleared, t)
  | broken (live : u.IsLive) (named : u.uploadId.isVoid = false)
      (answer : gateway.answer u.abortRequest s = (.error e, t)) (other : e.isGateway = false) :
      Withdrawal gateway (u, s) (.error e) (u, t)

/-- An operation that finds an upload and a store ends with a result and leaves them as given
last. -/
inductive Step (gateway : Gateway σ) :
    Operation → Upload × σ → Except Fault (Option String) → Upload × σ → Prop where
  | startLate (late : u.status ≠ .notStarted) :
      Step gateway .start (u, s) (.error (.storage .alreadyStarted)) (u, s)
  | started (ready : u.status = .notStarted)
      (answer : gateway.answer u.createRequest s = (.ok value, t)) :
      Step gateway .start (u, s) (.ok none) (u.opened value, t)
  | startFailed (ready : u.status = .notStarted)
      (answer : gateway.answer u.createRequest s = (.error e, t)) :
      Step gateway .start (u, s) (.error e) (u.failedBy e, t)
  | writeShut (shut : u.status ≠ .inProgress) :
      Step gateway (.write offset data) (u, s) (.error (.storage .notInProgress)) (u, s)
  | written (isOpen : u.status = .inProgress)
      (parts : FullParts gateway ((u.fed data).queue.size / partSize) (u.fed data, s) (v, t)) :
      Step gateway (.write offset data) (u, s) (.ok none) (v.credited data, t)
  | writeFailed (isOpen : u.status = .inProgress)
      (parts : FullParts gateway count (u.fed data, s) (v, t))
      (full : partSize ≤ v.queue.size)
      (answer : gateway.answer (v.partRequest partSize) t = (.error e, r)) :
      Step gateway (.write offset data) (u, s) (.error e) (v.failedBy e, r)
  | completeShut (shut : u.status ≠ .inProgress) :
      Step gateway .complete (u, s) (.error (.storage .notInProgress)) (u, s)
  | lastPartFailed (isOpen : u.status = .inProgress) (left : u.queue.size ≠ 0)
      (answer : gateway.answer (u.partRequest u.queue.size) s = (.error e, t)) :
      Step gateway .complete (u, s) (.error e) (u.failedBy e, t)
  | noData (isOpen : u.status = .inProgress) (empty : u.queue.size = 0) (bare : u.parts = [])
      (withdrawal : Withdrawal gateway (u, s) (.ok ()) b) :
      Step gateway .complete (u, s) (.error (.storage .noDataUploaded)) b
  | noDataBroken (isOpen : u.status = .inProgress) (empty : u.queue.size = 0) (bare : u.parts = [])
      (withdrawal : Withdrawal gateway (u, s) (.error e) b) :
      Step gateway .complete (u, s) (.error e) b
  | completed (isOpen : u.status = .inProgress) (drained : Drained gateway (u, s) (v, t))
      (nonempty : v.parts ≠ []) (answer : gateway.answer v.completionRequest t = (.ok value, r)) :
      Step gateway .complete (u, s) (.ok (some v.key)) (v.assembled, r)
  | completeFailed (isOpen : u.status = .inProgress) (drained : Drained gateway (u, s) (v, t))
      (nonempty : v.parts ≠ []) (answer : gateway.answer v.completionRequest t = (.error e, r)) :
      Step gateway .complete (u, s) (.error e) (v.failedBy e, r)
  | aborted (withdrawal : Withdrawal gateway a (.ok ()) b) : Step gateway .abort a (.ok none) b
  | abortBroken (withdrawal : Withdrawal gateway a (.error e) b) :
      Step gateway .abort a (.error e) b
  | releaseShut (shut : u.status ≠ .inProgress) : Step gateway .release (u, s) (.ok none) (u, s)
  | released (isOpen : u.status = .inProgress) (withdrawal : Withdrawal gateway (u, s) (.ok ()) b) :
      Step gateway .release (u, s) (.ok none) b
  | releaseBroken (isOpen : u.status = .inProgress)
      (withdrawal : Withdrawal gateway (u, s) (.error e) b) :
      Step gateway .release (u, s) (.error e) b
  | dropShut (shut : u.status ≠ .inProgress) : Step gateway .drop (u, s) (.ok none) (u, s)
  | dropped (isOpen : u.status = .inProgress) (withdrawal : Withdrawal gateway (u, s) result b) :
      Step gateway .drop (u, s) (.ok none) b

variable {gateway : Gateway σ} {u v : Upload} {s t : σ} {a b : Upload × σ} {count : Nat}

theorem isLive_of_open (isOpen : u.status = .inProgress) : u.IsLive :=
  ⟨by simp [isOpen], by simp [isOpen]⟩

theorem isActive_of_open (isOpen : u.status = .inProgress) : u.isActive = true := by
  simp [isActive, isOpen]

theorem failedBy_of_refusal {e : Fault} (refusal : e.isGateway = true) :
    u.failedBy e = { u with status := .failed } :=
  if_pos refusal

theorem failedBy_of_other {e : Fault} (other : ¬ e.isGateway = true) : u.failedBy e = u :=
  if_neg other

theorem partSize_pos : 0 < partSize := by decide

theorem fed_size (u : Upload) (data : ByteArray) :
    (u.fed data).queue.size = u.queue.size + data.size := by
  simp [fed, ByteQueue.append, ByteQueue.size]

theorem fed_fed (u : Upload) (data more : ByteArray) :
    (u.fed data).fed more = u.fed (data ++ more) := by
  simp [fed, ByteQueue.append, ByteArray.append_assoc]

theorem fed_empty (u : Upload) : u.fed .empty = u := by
  simp [fed, ByteQueue.append]

@[simp] theorem sent_size (u : Upload) (size : Nat) (tag : Value) :
    (u.sent size tag).queue.size = u.queue.size - size := by
  simp [sent, ByteQueue.size]

theorem FullParts.status_eq (parts : FullParts gateway count a b) : b.1.status = a.1.status := by
  induction parts with
  | none => rfl
  | more full answer rest ih => exact ih

theorem FullParts.size_eq (parts : FullParts gateway count a b) :
    a.1.queue.size = count * partSize + b.1.queue.size := by
  induction parts with
  | none => simp
  | @more s t tag count b u full answer rest ih =>
    rw [sent_size] at ih
    rw [Nat.succ_mul]
    change u.queue.size = _
    omega

theorem FullParts.acceptedBytes_eq (parts : FullParts gateway count a b) :
    b.1.acceptedBytes = a.1.acceptedBytes := by
  induction parts with
  | none => rfl
  | more full answer rest ih => exact ih

theorem Drained.status_eq (drained : Drained gateway a b) : b.1.status = a.1.status := by
  cases drained with
  | nothing empty => rfl
  | rest left answer => rfl

theorem Drained.place_eq (drained : Drained gateway a b) :
    b.1.bucket = a.1.bucket ∧ b.1.key = a.1.key := by
  cases drained with
  | nothing empty => exact ⟨rfl, rfl⟩
  | rest left answer => exact ⟨rfl, rfl⟩

theorem Drained.empty (drained : Drained gateway a b) : b.1.queue.size = 0 := by
  cases drained with
  | nothing empty => exact empty
  | rest left answer => simp

theorem Drained.nothing_of_bare (drained : Drained gateway a b) (bare : b.1.parts = []) :
    a.1.queue.size = 0 ∧ b = a := by
  cases drained with
  | nothing empty => exact ⟨empty, rfl⟩
  | rest left answer => simp [sent] at bare

end Upload

end ObjectStorage
