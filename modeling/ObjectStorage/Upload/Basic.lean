import ObjectStorage.ByteQueue
import ObjectStorage.Request

/-! The state of one upload: an object that is sent in parts, and the session it is sent in. -/

namespace ObjectStorage

inductive UploadStatus where
  | notStarted
  /-- The store knows the upload and takes data for it. -/
  | inProgress
  /-- The store has put the object together. -/
  | completed
  /-- A request failed; the store may still know the upload. -/
  | failed
  /-- The upload was given up and taken back from the store. -/
  | aborted
  deriving DecidableEq, Repr

/-- The size of every part but the last: the least that a store takes. -/
def partSize : Nat := 5 * 1024 * 1024

/-- An upload of one object. Bytes wait in the queue until a part is full. -/
structure Upload where
  bucket : String
  key : String
  /-- The size that the caller expects, for the log only; a command line can leave it out. -/
  expectedSize? : Option Int := some (-1)
  status : UploadStatus := .notStarted
  /-- The store's name for the upload; void before the start and after an abort. -/
  uploadId : Value := .null
  parts : List Part := []
  queue : ByteQueue := .empty
  /-- The number of bytes that have been taken from the caller, sent or not. -/
  acceptedBytes : Nat := 0

/-- An upload may still lead to an object. -/
def Upload.isActive (u : Upload) : Bool :=
  u.status = .notStarted ∨ u.status = .inProgress

/-- An upload and the journal of the service that it uses. -/
structure Session (σ : Type) where
  upload : Upload
  journal : Journal σ

namespace Session

variable {ρ σ α : Type}

/-- Does something that does not concern the upload. -/
def outside (x : Action (Journal σ) α) : Action (Session σ) α :=
  .onPart (·.journal) (fun j s => { s with journal := j }) x

/-- A part of the upload's state. -/
def get (f : Upload → α) : Action (Session σ) α := fun s => (.ok (f s.upload), s)

/-- The upload. -/
def current : Action (Session σ) Upload := get id

/-- Changes the upload. -/
def update (f : Upload → Upload) : Action (Session σ) Unit :=
  .change fun s => { s with upload := f s.upload }

def ask (gateway : Gateway σ) (request : Request) : Action (Session σ) Value :=
  outside (Journal.ask gateway request)

def note (level : LogLevel) (message : String) : Action (Session σ) Unit :=
  outside (Journal.note level .upload message)

/-- Marks the upload as failed if a request fails. -/
def failing (x : Action (Session σ) α) : Action (Session σ) α :=
  x.onFault Fault.isGateway (update fun u => { u with status := .failed })

end Session

end ObjectStorage
