import ObjectStorage.ContentType
import ObjectStorage.Upload.Basic

/-! What can be done with an upload: start it, write to it, complete it, abort it, release it.
Full parts leave the queue as soon as they are there; what is left goes out on completion. -/

namespace ObjectStorage.Upload

open Session

variable {σ α : Type}

/-- A result of the queue, its shortage as an error of the storage layer. -/
def ofQueue (r : Except Shortage α) : Action (Session σ) α :=
  .ofExcept (r.mapError fun e => .storage (.insufficientBuffer e.requested e.available))

/-- Data is taken only while an upload is in progress. -/
def requireInProgress : Action (Session σ) Unit := do
  let status ← get (·.status)
  if status ≠ .inProgress then .fail (.storage .notInProgress)

/-- Asks the store for a new upload. That is logged with the size that the caller expects, so it is
not logged without one. -/
def start (gateway : Gateway σ) : Action (Session σ) Unit := do
  let status ← get (·.status)
  if status ≠ .notStarted then .fail (.storage .alreadyStarted)
  let bucket ← get (·.bucket)
  let key ← get (·.key)
  let id ← failing (ask gateway (.createUpload bucket key (ContentType.detect key)))
  update fun u => { u with uploadId := id, status := .inProgress }
  if let some expected ← get (·.expectedSize?) then
    note .info <| s!"Started multipart upload for {key} with upload ID: {id.render} " ++
      s!"(expected size: {expected})"

/-- Sends the front of the queue as the next part. It stays in the queue until the store has
acknowledged it. -/
def sendPart (gateway : Gateway σ) (size : Nat) : Action (Session σ) Unit := do
  let number ← get fun u => (u.parts.length : Int) + 1
  let data ← ofQueue (← get (·.queue.peek size))
  let request ← get fun u => .uploadPart u.bucket u.key u.uploadId number data
  let tag ← ask gateway request
  let rest ← ofQueue (← get (·.queue.discard size))
  update fun u => { u with queue := rest, parts := u.parts ++ [⟨number, tag⟩] }
  let key ← get (·.key)
  note .debug s!"Uploaded part {number} ({size} bytes) for {key}"

/-- Sends full parts, so many of them. -/
def sendFullParts (gateway : Gateway σ) : (count : Nat) → Action (Session σ) Unit
  | 0 => pure ()
  | count + 1 => do
    sendPart gateway partSize
    sendFullParts gateway count

/-- Takes the next bytes of the object. The offset is for the log only: bytes always join at the
end. -/
def write (gateway : Gateway σ) (offset : Int) (data : ByteArray) : Action (Session σ) Unit := do
  requireInProgress
  let key ← get (·.key)
  note .debug s!"Writing {data.size} bytes at offset {offset} for {key}"
  update fun u => { u with queue := u.queue.append data }
  let full ← get (·.queue.size / partSize)
  failing (sendFullParts gateway full)
  update fun u => { u with acceptedBytes := u.acceptedBytes + data.size }

/-- Takes the upload back from the store, and logs it if the store refuses. -/
def withdraw (gateway : Gateway σ) (u : Upload) : Action (Session σ) Unit :=
  Action.recover
    (do
      let _ ← ask gateway (.abortUpload u.bucket u.key u.uploadId)
      note .info s!"Aborted multipart upload for {u.key}")
    fun e =>
      if e.isGateway then
        note .warning s!"Failed to abort multipart upload for {u.key}: {e.message}"
      else .fail e

/-- Gives the upload up, unless it has come to its end. -/
def abort (gateway : Gateway σ) : Action (Session σ) Unit := do
  let u ← current
  if u.status ≠ .completed ∧ u.status ≠ .aborted then
    if !u.uploadId.isVoid then withdraw gateway u
    update fun u => { u with uploadId := .null, parts := [], queue := .empty, status := .aborted }

/-- Sends what is left in the queue as the last part, of any size. -/
def sendRest (gateway : Gateway σ) : Action (Session σ) Unit := do
  let left ← get (·.queue.size)
  if left ≠ 0 then failing (sendPart gateway left)

/-- Has the store put the object together from its parts; gives its key. Without any part the upload
is aborted. -/
def assemble (gateway : Gateway σ) : Action (Session σ) String := do
  let u ← current
  if u.parts.isEmpty then
    abort gateway
    .fail (.storage .noDataUploaded)
  let _ ← failing (ask gateway (.completeUpload u.bucket u.key u.uploadId u.parts))
  update fun u => { u with status := .completed }
  note .info s!"Completed multipart upload for {u.key} with {u.parts.length} parts"
  pure u.key

/-- Sends what is left and has the store put the object together; gives its key. -/
def complete (gateway : Gateway σ) : Action (Session σ) String := do
  requireInProgress
  sendRest gateway
  assemble gateway

/-- Aborts an upload that is still in progress. -/
def release (gateway : Gateway σ) : Action (Session σ) Unit := do
  let status ← get (·.status)
  if status = .inProgress then abort gateway

/-- Releases an upload that nobody can use any more; there is nobody to tell of a fault. -/
def drop (gateway : Gateway σ) : Action (Session σ) Unit :=
  (release gateway).recover fun _ => pure ()

/-- Does something with an upload that is released afterwards and not used again. -/
def during (gateway : Gateway σ) (u : Upload) (body : Action (Session σ) α) :
    Action (Journal σ) α := fun j =>
  match (body.andThen (release gateway)) ⟨u, j⟩ with
  | (r, s) => (r, (drop gateway s).2.journal)

/-- The data of the reads of a source, in order. A read without data ends it, as does a fault. -/
abbrev Source := List (Except Fault ByteArray)

/-- Writes everything that a source gives, from an offset on. -/
def copy (gateway : Gateway σ) : Source → (offset : Int) → Action (Session σ) Unit
  | [], _ => pure ()
  | .error e :: _, _ => .fail e
  | .ok data :: rest, offset =>
    if data.isEmpty then pure ()
    else do
      write gateway offset data
      copy gateway rest (offset + data.size)

/-- Sends everything that a source gives as one object; gives its key. If that fails in the storage
layer, nothing can be tried again and the upload is aborted. -/
def send (gateway : Gateway σ) (u : Upload) (source : Source) : Action (Journal σ) String :=
  during gateway u do
    start gateway
    Action.onFault
      (do
        copy gateway source 0
        complete gateway)
      Fault.isStorage (abort gateway)

end ObjectStorage.Upload
