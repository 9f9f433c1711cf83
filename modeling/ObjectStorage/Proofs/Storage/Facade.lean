import ObjectStorage.Proofs.Journal
import ObjectStorage.Proofs.Upload.Step
import ObjectStorage.Storage.Facade

/-! A storage by its settings: enabled, it passes things on to its gateway, and disabled, it has
none. What each of its functions comes to is told by the answer to the one request that it sends. -/

namespace ObjectStorage

/-- The settings of a bucket with credentials, and what the schema has for everything else. -/
def Settings.ofBucket (bucket accessKeyId secretAccessKey : String) : Settings where
  bucket := bucket
  region := "us-east-1"
  accessKeyId := accessKeyId
  secretAccessKey := secretAccessKey
  endpoint := ""
  pathPrefix := ""
  usePathStyle := false
  usePublicUrls := false
  usePathOnly := false
  expirySeconds := 3600

/-- The URL of an object that needs no signing, if the settings ask for one. -/
def Settings.plainLink? (s : Settings) (key : String) : Option String :=
  if s.usePathOnly then some (s.fullKey key)
  else if s.usePublicUrls then some (s.publicUrl key)
  else none

namespace Storage

open ObjectStorage.Action

variable {σ : Type} {settings : Settings} {gateway : Gateway σ} {files : FileReader}
  {path key : String} {s t : σ} {reply : Except Fault Value}

/-- An enabled storage sends a source as an upload to the full key. -/
theorem stream_enabled (enabled : settings.isEnabled = true) (gateway : Gateway σ) (key : String)
    (source : Upload.Source) (expectedSize? : Option Int) :
    (ofGateway settings gateway).stream key source expectedSize? =
      (Upload.blank settings.bucket (settings.fullKey key) expectedSize?).send gateway source := by
  simp only [stream, newUpload, requireGateway, ofGateway, enabled, ↓reduceIte, pure_bind]
  rfl

theorem stream_disabled (disabled : settings.isEnabled = false) (gateway : Gateway σ) (key : String)
    (source : Upload.Source) (expectedSize? : Option Int) :
    (ofGateway settings gateway).stream key source expectedSize? =
      .fail (.storage .storageDisabled) := by
  simp only [stream, newUpload, requireGateway, ofGateway, disabled, Bool.false_eq_true, ↓reduceIte]
  rfl

theorem requireGateway_enabled (enabled : settings.isEnabled = true) (gateway : Gateway σ) :
    (ofGateway settings gateway).requireGateway = pure gateway := by
  simp only [requireGateway, ofGateway, enabled, ↓reduceIte]

theorem requireGateway_disabled (disabled : settings.isEnabled = false) (gateway : Gateway σ) :
    (ofGateway settings gateway).requireGateway = .fail (.storage .storageDisabled) := by
  simp only [requireGateway, ofGateway, disabled, Bool.false_eq_true, ↓reduceIte]

theorem putFile_gives {data : ByteArray} (enabled : settings.isEnabled = true)
    (read : files path = .ok data)
    (answer : gateway.answer (.putObject settings.bucket (settings.fullKey key) data
      (ContentType.detect key)) s = (reply, t)) :
    ((ofGateway settings gateway).putFile files path key).Gives s
      (reply.map fun _ => settings.fullKey key) t := by
  rw [putFile, requireGateway_enabled enabled, pure_bind, read]
  refine (gives_ofExcept (.ok data) s).bind ((gives_ask answer).map fun _ => ?_)
  exact (gives_note _ _ _ _).bind (gives_pure _ _)

theorem putFile_gives_unread {e : FileError} (enabled : settings.isEnabled = true)
    (failed : files path = .error e) :
    ((ofGateway settings gateway).putFile files path key).Gives s (.error (fileFault e)) s := by
  rw [putFile, requireGateway_enabled enabled, pure_bind, failed]
  exact (gives_ofExcept _ s).bind_error

theorem delete_gives (enabled : settings.isEnabled = true)
    (answer : gateway.answer (.deleteObject settings.bucket (settings.fullKey key)) s =
      (reply, t)) :
    ((ofGateway settings gateway).delete key).Gives s (reply.map fun _ => ()) t := by
  rw [delete, requireGateway_enabled enabled, pure_bind]
  exact (gives_ask answer).map fun _ => gives_note _ _ _ _

theorem exists_gives {value : Value} (enabled : settings.isEnabled = true)
    (answer : gateway.answer (.headObject settings.bucket (settings.fullKey key)) s =
      (.ok value, t)) :
    ((ofGateway settings gateway).exists? key).Gives s (.ok true) t := by
  simp only [exists?, ofGateway, enabled, ↓reduceIte]
  exact ((gives_ask answer).bind (gives_pure true t)).recover

/-- A request that the store cannot answer counts as no object. -/
theorem exists_gives_refused {e : Fault} (enabled : settings.isEnabled = true)
    (answer : gateway.answer (.headObject settings.bucket (settings.fullKey key)) s =
      (.error e, t)) (refusal : e.isGateway = true) :
    ((ofGateway settings gateway).exists? key).Gives s (.ok false) t := by
  simp only [exists?, ofGateway, enabled, ↓reduceIte]
  refine (gives_ask answer).bind_error.recover_error ?_
  simp only [refusal, ↓reduceIte]
  exact (gives_note _ _ _ _).bind (gives_pure _ _)

theorem exists_gives_broken {e : Fault} (enabled : settings.isEnabled = true)
    (answer : gateway.answer (.headObject settings.bucket (settings.fullKey key)) s =
      (.error e, t)) (other : e.isGateway = false) :
    ((ofGateway settings gateway).exists? key).Gives s (.error e) t := by
  simp only [exists?, ofGateway, enabled, ↓reduceIte]
  refine (gives_ask answer).bind_error.recover_error ?_
  simp only [other, Bool.false_eq_true, ↓reduceIte]
  exact gives_fail e t

theorem signedUrl_gives (enabled : settings.isEnabled = true)
    (answer : gateway.answer (.signUrl settings.bucket (settings.fullKey key) "GET"
      settings.expirySeconds) s = (reply, t)) :
    ((ofGateway settings gateway).signedUrl key).Gives s reply t := by
  rw [signedUrl, requireGateway_enabled enabled, pure_bind]
  exact gives_ask answer

theorem fileUrl_enabled (enabled : settings.isEnabled = true) (gateway : Gateway σ) (key : String) :
    (ofGateway settings gateway).fileUrl key = match settings.plainLink? key with
      | some link => pure (.text link)
      | none => (ofGateway settings gateway).signedUrl key := by
  rw [fileUrl, requireGateway_enabled enabled, pure_bind]
  cases only : settings.usePathOnly <;> cases plain : settings.usePublicUrls <;>
    simp [ofGateway, Settings.plainLink?, publicUrl, isEnabled, enabled, only, plain]

theorem fileUrl_gives_plain {link : String} (enabled : settings.isEnabled = true)
    (plain : settings.plainLink? key = some link) (s : σ) :
    ((ofGateway settings gateway).fileUrl key).Gives s (.ok (.text link)) s := by
  rw [fileUrl_enabled enabled, plain]
  exact gives_pure _ s

theorem fileUrl_gives_signed (enabled : settings.isEnabled = true)
    (signed : settings.plainLink? key = none)
    (answer : gateway.answer (.signUrl settings.bucket (settings.fullKey key) "GET"
      settings.expirySeconds) s = (reply, t)) :
    ((ofGateway settings gateway).fileUrl key).Gives s reply t := by
  rw [fileUrl_enabled enabled, signed]
  exact signedUrl_gives enabled answer

end Storage

end ObjectStorage
