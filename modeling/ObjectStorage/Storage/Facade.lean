import ObjectStorage.Client
import ObjectStorage.Files
import ObjectStorage.Storage.Address
import ObjectStorage.Upload.Operations

/-! A storage: objects under the keys of its settings, by whole files or by uploads, and the URLs
that lead to them. -/

namespace ObjectStorage

/-- A storage has a gateway only if its settings allow one. -/
structure Storage (σ : Type) where
  settings : Settings
  gateway? : Option (Gateway σ)

namespace Storage

variable {σ : Type}

/-- A storage that uses a given gateway. -/
def ofGateway (settings : Settings) (gateway : Gateway σ) : Storage σ :=
  ⟨settings, if settings.isEnabled then some gateway else none⟩

/-- A storage that makes its own gateway over a client. -/
def connect (client : Client σ) (ready : Bool) (settings : Settings) :
    Action (Journal σ) (Storage σ) := do
  if settings.isEnabled then
    let gateway ← client.connect ready settings
    pure ⟨settings, some gateway⟩
  else pure ⟨settings, none⟩

def isEnabled (s : Storage σ) : Bool := s.gateway?.isSome

/-- The gateway, without which most things cannot be done. -/
def requireGateway (s : Storage σ) : Action (Journal σ) (Gateway σ) :=
  match s.gateway? with
  | some gateway => pure gateway
  | none => .fail (.storage .storageDisabled)

/-- The full key of an object; empty if the storage is disabled. -/
def filePath (s : Storage σ) (key : String) : String :=
  if s.isEnabled then s.settings.fullKey key else ""

/-- The plain URL of an object; empty if the storage is disabled. -/
def publicUrl (s : Storage σ) (key : String) : String :=
  if s.isEnabled then s.settings.publicUrl key else ""

/-- The fault of a file that cannot be read. -/
def fileFault (e : FileError) : Fault :=
  match e with
  | .system .. => .storage (.general s!"Failed to read file: {e.message}")
  | .nullInPath => .nullInPath

/-- Stores a whole file; gives the full key. The type of the object is told from the bare key. -/
def putFile (s : Storage σ) (files : FileReader) (path key : String) :
    Action (Journal σ) String := do
  let gateway ← s.requireGateway
  let full := s.settings.fullKey key
  let data ← .ofExcept ((files path).mapError fileFault)
  let _ ← Journal.ask gateway (.putObject s.settings.bucket full data (ContentType.detect key))
  Journal.note .info .storage s!"Successfully uploaded file to S3: {full}"
  pure full

/-- A new upload, which is not yet started, and the gateway it goes through. -/
def newUpload (s : Storage σ) (key : String) (expectedSize? : Option Int) :
    Action (Journal σ) (Upload × Gateway σ) := do
  let gateway ← s.requireGateway
  pure ({ bucket := s.settings.bucket, key := s.settings.fullKey key, expectedSize? }, gateway)

/-- A URL that is signed for reading. -/
def signedUrl (s : Storage σ) (key : String) : Action (Journal σ) Value := do
  let gateway ← s.requireGateway
  Journal.ask gateway
    (.signUrl s.settings.bucket (s.settings.fullKey key) "GET" s.settings.expirySeconds)

/-- What the settings say that clients are given to reach an object: the key alone, a plain URL, or
a signed one. -/
def fileUrl (s : Storage σ) (key : String) : Action (Journal σ) Value := do
  let _ ← s.requireGateway
  if s.settings.usePathOnly then pure (.text (s.settings.fullKey key))
  else if s.settings.usePublicUrls then pure (.text (s.publicUrl key))
  else s.signedUrl key

def delete (s : Storage σ) (key : String) : Action (Journal σ) Unit := do
  let gateway ← s.requireGateway
  let full := s.settings.fullKey key
  let _ ← Journal.ask gateway (.deleteObject s.settings.bucket full)
  Journal.note .info .storage s!"Successfully deleted file from S3: {full}"

/-- Whether an object is there. If the store cannot tell, it is not; a disabled storage has no
objects. -/
def exists? (s : Storage σ) (key : String) : Action (Journal σ) Bool :=
  match s.gateway? with
  | none => pure false
  | some gateway =>
    let full := s.settings.fullKey key
    Action.recover
      (do
        let _ ← Journal.ask gateway (.headObject s.settings.bucket full)
        pure true)
      fun e =>
        if e.isGateway then do
          Journal.note .debug .storage s!"No object at {full}: {e.message}"
          pure false
        else .fail e

/-- Sends everything that a source gives as one object; gives its full key. -/
def stream (s : Storage σ) (key : String) (source : Upload.Source)
    (expectedSize? : Option Int) : Action (Journal σ) String := do
  let (upload, gateway) ← s.newUpload key expectedSize?
  upload.send gateway source

end Storage

end ObjectStorage
