import ObjectStorage.Proofs.Storage.Facade
import ObjectStorage.Proofs.Upload.Perform
import Mathlib.Data.List.Induction

/-! A storage in use: calls of any kind in any order, and the uploads that come of them. The
relation `Turn` has a case for each way in which a call to an enabled storage can end. -/

namespace ObjectStorage

open ObjectStorage.Action

variable {σ : Type}

/-- What is asked of a storage. Uploads are known by the order in which they were made. -/
inductive Call where
  | putFile (path key : String)
  | delete (key : String)
  | probe (key : String)
  | newUpload (key : String) (expectedSize? : Option Int)
  | upload (n : Nat) (operation : Operation)
  | signedUrl (key : String)
  | fileUrl (key : String)
  | publicUrl (key : String)
  | filePath (key : String)

/-- The uploads that a storage has made, each with the gateway that it goes through, the journal of
the store, and what the calls were answered with. -/
structure Usage (σ : Type) where
  uploads : List (Upload × Gateway σ) := []
  journal : Journal σ
  answers : List (Call × Except Fault Value) := []

namespace Usage

def store (usage : Usage σ) : σ := usage.journal.store

/-- The uploads and the store. -/
def face (usage : Usage σ) : List (Upload × Gateway σ) × σ := (usage.uploads, usage.store)

/-- Does something that concerns no upload. -/
def outside {α : Type} (x : Action (Journal σ) α) : Action (Usage σ) α :=
  .onPart (·.journal) (fun journal usage => { usage with journal }) x

/-- What an operation tells: a key, or nothing. -/
def told (key? : Option String) : Value := (key?.map .text).getD .null

/-- An upload performs an operation. Where there is no such upload, nothing happens. -/
def work (n : Nat) (operation : Operation) : Action (Usage σ) Value := fun usage =>
  match usage.uploads[n]? with
  | none => (.ok .null, usage)
  | some (u, gateway) =>
    match operation.perform gateway ⟨u, usage.journal⟩ with
    | (outcome, session) =>
      (outcome.map told,
        { usage with
          uploads := usage.uploads.set n (session.upload, gateway)
          journal := session.journal })

/-- Answers a call. -/
def answer (storage : Storage σ) (files : FileReader) : Call → Action (Usage σ) Value
  | .putFile path key => outside do
    let full ← storage.putFile files path key
    pure (.text full)
  | .delete key => outside do
    storage.delete key
    pure .null
  | .probe key => outside do
    let found ← storage.exists? key
    pure (.bool found)
  | .newUpload key expectedSize? => do
    let made ← outside (storage.newUpload key expectedSize?)
    Action.change fun usage => { usage with uploads := usage.uploads ++ [made] }
    pure .null
  | .upload n operation => work n operation
  | .signedUrl key => outside (storage.signedUrl key)
  | .fileUrl key => outside (storage.fileUrl key)
  | .publicUrl key => pure (.text (storage.publicUrl key))
  | .filePath key => pure (.text (storage.filePath key))

def step (storage : Storage σ) (files : FileReader) (usage : Usage σ) (call : Call) : Usage σ :=
  match answer storage files call usage with
  | (reply, next) => { next with answers := usage.answers ++ [(call, reply)] }

/-- A storage after calls, whatever each of them ended with. -/
def run (storage : Storage σ) (files : FileReader) (store : σ) (calls : List Call) : Usage σ :=
  calls.foldl (step storage files) { journal := ⟨store, #[]⟩ }

/-- A call to an enabled storage that finds uploads and a store ends with an answer and leaves them
as given last. -/
inductive Turn (settings : Settings) (files : FileReader) (gateway : Gateway σ) : Call →
    List (Upload × Gateway σ) × σ → Except Fault Value → List (Upload × Gateway σ) × σ → Prop where
  | unread (failed : files path = .error e) :
      Turn settings files gateway (.putFile path key) (us, s) (.error (Storage.fileFault e)) (us, s)
  | put (read : files path = .ok data)
      (answer : gateway.answer (.putObject settings.bucket (settings.fullKey key) data
        (ContentType.detect key)) s = (reply, t)) :
      Turn settings files gateway (.putFile path key) (us, s)
        (reply.map fun _ => .text (settings.fullKey key)) (us, t)
  | deleted
      (answer : gateway.answer (.deleteObject settings.bucket (settings.fullKey key)) s =
        (reply, t)) :
      Turn settings files gateway (.delete key) (us, s) (reply.map fun _ => .null) (us, t)
  | found
      (answer : gateway.answer (.headObject settings.bucket (settings.fullKey key)) s =
        (.ok value, t)) :
      Turn settings files gateway (.probe key) (us, s) (.ok (.bool true)) (us, t)
  | missed
      (answer : gateway.answer (.headObject settings.bucket (settings.fullKey key)) s =
        (.error e, t)) (refusal : e.isGateway = true) :
      Turn settings files gateway (.probe key) (us, s) (.ok (.bool false)) (us, t)
  | probeFailed
      (answer : gateway.answer (.headObject settings.bucket (settings.fullKey key)) s =
        (.error e, t)) (other : e.isGateway = false) :
      Turn settings files gateway (.probe key) (us, s) (.error e) (us, t)
  | begun : Turn settings files gateway (.newUpload key expectedSize?) (us, s) (.ok .null)
      (us ++ [(.blank settings.bucket (settings.fullKey key) expectedSize?, gateway)], s)
  | nobody (absent : us[n]? = none) :
      Turn settings files gateway (.upload n operation) (us, s) (.ok .null) (us, s)
  | worked (present : us[n]? = some (u, own))
      (step : Upload.Step own operation (u, s) result (v, t)) :
      Turn settings files gateway (.upload n operation) (us, s) (result.map told)
        (us.set n (v, own), t)
  | signed
      (answer : gateway.answer (.signUrl settings.bucket (settings.fullKey key) "GET"
        settings.expirySeconds) s = (reply, t)) :
      Turn settings files gateway (.signedUrl key) (us, s) reply (us, t)
  | fileSigned (signed : settings.plainLink? key = none)
      (answer : gateway.answer (.signUrl settings.bucket (settings.fullKey key) "GET"
        settings.expirySeconds) s = (reply, t)) :
      Turn settings files gateway (.fileUrl key) (us, s) reply (us, t)
  | filePlain (plain : settings.plainLink? key = some link) :
      Turn settings files gateway (.fileUrl key) a (.ok (.text link)) a
  | plainUrl :
      Turn settings files gateway (.publicUrl key) a (.ok (.text (settings.publicUrl key))) a
  | fullPath : Turn settings files gateway (.filePath key) a (.ok (.text (settings.fullKey key))) a

variable {settings : Settings} {files : FileReader} {gateway : Gateway σ} {s t : σ}

theorem run_snoc (storage : Storage σ) (files : FileReader) (store : σ) (calls : List Call)
    (call : Call) :
    run storage files store (calls ++ [call]) =
      step storage files (run storage files store calls) call := by
  simp [run]

/-- What concerns no upload leads where its action on the journal does. -/
theorem outside_face {α : Type} {x : Action (Journal σ) α} {result : Except Fault α}
    {usage : Usage σ} (gives : x.Gives usage.store result t) :
    (outside x usage).1 = result ∧ (outside x usage).2.face = (usage.uploads, t) := by
  obtain ⟨ended, reached⟩ := gives usage.journal.log
  exact ⟨ended, congrArg (usage.uploads, ·) reached⟩

/-- Every call to an enabled storage takes its turn. -/
theorem answer_turn (enabled : settings.isEnabled = true) (gateway : Gateway σ)
    (files : FileReader) (call : Call) (usage : Usage σ) :
    Turn settings files gateway call usage.face
      (answer (.ofGateway settings gateway) files call usage).1
      (answer (.ofGateway settings gateway) files call usage).2.face := by
  have turns : ∀ {x : Action (Journal σ) Value} {reply t}, x.Gives usage.store reply t →
      Turn settings files gateway call usage.face reply (usage.uploads, t) →
        Turn settings files gateway call usage.face (outside x usage).1
          (outside x usage).2.face := by
    intro x reply t gives turn
    obtain ⟨ended, reached⟩ := outside_face gives
    rw [ended, reached]
    exact turn
  cases call with
  | putFile path key =>
    cases read : files path with
    | error e =>
      exact turns (Storage.putFile_gives_unread enabled read).bind_error (.unread read)
    | ok data =>
      rcases answered : gateway.answer (.putObject settings.bucket (settings.fullKey key) data
        (ContentType.detect key)) usage.store with ⟨reply, t⟩
      exact turns ((Storage.putFile_gives enabled read answered).instead (gives_pure _ t))
        (.put read answered)
  | delete key =>
    rcases answered : gateway.answer (.deleteObject settings.bucket (settings.fullKey key))
      usage.store with ⟨reply, t⟩
    exact turns ((Storage.delete_gives enabled answered).instead (gives_pure _ t))
      (.deleted answered)
  | probe key =>
    rcases answered : gateway.answer (.headObject settings.bucket (settings.fullKey key))
      usage.store with ⟨e | value, t⟩
    · cases refusal : e.isGateway with
      | true =>
        exact turns ((Storage.exists_gives_refused enabled answered refusal).bind
          (gives_pure _ t)) (.missed answered refusal)
      | false =>
        exact turns (Storage.exists_gives_broken enabled answered refusal).bind_error
          (.probeFailed answered refusal)
    · exact turns ((Storage.exists_gives enabled answered).bind (gives_pure _ t))
        (.found answered)
  | newUpload key expectedSize? =>
    simp only [answer, Storage.newUpload, Storage.requireGateway_enabled enabled, pure_bind]
    exact .begun
  | upload n operation =>
    simp only [answer, work]
    cases present : usage.uploads[n]? with
    | none => exact .nobody present
    | some entry =>
      exact .worked present (Upload.perform_step entry.2 operation ⟨entry.1, usage.journal⟩)
  | signedUrl key =>
    rcases answered : gateway.answer (.signUrl settings.bucket (settings.fullKey key) "GET"
      settings.expirySeconds) usage.store with ⟨reply, t⟩
    exact turns (Storage.signedUrl_gives enabled answered) (.signed answered)
  | fileUrl key =>
    cases plain : settings.plainLink? key with
    | some link => exact turns (Storage.fileUrl_gives_plain enabled plain _) (.filePlain plain)
    | none =>
      rcases answered : gateway.answer (.signUrl settings.bucket (settings.fullKey key) "GET"
        settings.expirySeconds) usage.store with ⟨reply, t⟩
      exact turns (Storage.fileUrl_gives_signed enabled plain answered)
        (.fileSigned plain answered)
  | publicUrl key =>
    have link : Storage.publicUrl (.ofGateway settings gateway) key = settings.publicUrl key := by
      simp [Storage.publicUrl, Storage.isEnabled, Storage.ofGateway, enabled]
    simp only [answer, link]
    exact .plainUrl
  | filePath key =>
    have full : Storage.filePath (.ofGateway settings gateway) key = settings.fullKey key := by
      simp [Storage.filePath, Storage.isEnabled, Storage.ofGateway, enabled]
    simp only [answer, full]
    exact .fullPath

/-- A disabled storage leaves its gateway alone, and makes no upload that could go through it. -/
theorem run_disabled (disabled : settings.isEnabled = false) (gateway : Gateway σ)
    (files : FileReader) (store : σ) (calls : List Call) :
    (run (.ofGateway settings gateway) files store calls).face = ([], store) := by
  induction calls using List.reverseRecOn with
  | nil => rfl
  | append_singleton calls call ih =>
    rw [run_snoc]
    generalize run (.ofGateway settings gateway) files store calls = usage at ih
    obtain ⟨uploads, ⟨reached, log⟩, answers⟩ := usage
    cases ih
    have refused := Storage.requireGateway_disabled disabled gateway
    cases call with
    | probe key => simp only [step, answer, Storage.exists?, Storage.ofGateway, disabled]; rfl
    | _ =>
      simp only [step, answer, Storage.putFile, Storage.delete, Storage.newUpload,
        Storage.signedUrl, Storage.fileUrl, refused, fail_bind]
      rfl

end Usage

end ObjectStorage
