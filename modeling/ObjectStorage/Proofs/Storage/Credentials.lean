import ObjectStorage.Memory.Script
import ObjectStorage.Proofs.Mirror
import ObjectStorage.Proofs.Storage.Lockstep

/-! What credentials can influence: the one call that makes a client, and nothing else. Storages
whose settings differ in their credentials only ask the same of their clients, answer the same and
log the same (`Storage.credentials_unseen`). -/

namespace ObjectStorage

open ObjectStorage.Action

variable {σ : Type}

def Connection.withCredentials (connection : Connection) (accessKeyId secretAccessKey : String) :
    Connection :=
  { connection with accessKeyId, secretAccessKey }

def Settings.withCredentials (settings : Settings) (accessKeyId secretAccessKey : String) :
    Settings :=
  { settings with accessKeyId, secretAccessKey }

/-- The connections that are made for a storage with these settings. -/
def Settings.connections (settings : Settings) (ready : Bool) : List Connection :=
  if settings.isEnabled && ready then [settings.connection] else []

/-- A call without the credentials that may be in it. -/
def ClientCall.anonymous : ClientCall → ClientCall
  | .connect connection => .connect (connection.withCredentials "" "")
  | call => call

/-- A client does not go by credentials: from related states, calls that differ in nothing else have
the same answers, and lead to related states. -/
def Client.Impartial (client : Client σ) (Same : σ → σ → Prop) : Prop :=
  ∀ {call other s t}, call.anonymous = other.anonymous → Same s t → ∃ reply s' t',
    client.answer call s = (reply, s') ∧ client.answer other t = (reply, t') ∧ Same s' t'

/-- Clients in related states that were made with the same connections, but for the credentials, and
have had the same requests since. -/
structure Client.Following (Same : σ → σ → Prop) (connections : List Connection)
    (accessKeyId secretAccessKey : String) (a b : σ × List ClientCall) : Prop where
  state : Same a.1 b.1
  requests : ∃ requests : List Request,
    a.2 = connections.map .connect ++ requests.map .request ∧
      b.2 = connections.map (.connect <| ·.withCredentials accessKeyId secretAccessKey) ++
        requests.map .request

namespace Usage

/-- A storage is made over a client and then used. Tells whether it is enabled, or why it cannot be
made. -/
def connected (client : Client σ) (ready : Bool) (settings : Settings) (files : FileReader)
    (store : σ) (calls : List Call) : Except Fault Bool × Usage σ :=
  match Storage.connect client ready settings ⟨store, #[]⟩ with
  | (.ok storage, journal) => (.ok storage.isEnabled, calls.foldl (step storage files) { journal })
  | (.error e, journal) => (.error e, { journal })

/-- Two storages in use that cannot be told apart but by the credentials of their connections. -/
structure Indistinct (connections : List Connection) (accessKeyId secretAccessKey : String)
    (first second : Except Fault Bool × Usage (σ × List ClientCall)) : Prop where
  made : first.1 = second.1
  answers : first.2.answers = second.2.answers
  uploads : first.2.uploads = second.2.uploads
  log : first.2.journal.log = second.2.journal.log
  calls : ∃ requests : List Request,
    first.2.store.2 = connections.map .connect ++ requests.map .request ∧
      second.2.store.2 =
        connections.map (.connect <| ·.withCredentials accessKeyId secretAccessKey) ++
          requests.map .request

end Usage

variable {client : Client σ} {Same : σ → σ → Prop} {settings : Settings} {s t : σ}
  {connections : List Connection}
  {accessKeyId secretAccessKey : String}

theorem Settings.isEnabled_withCredentials
    (keyed : settings.accessKeyId ≠ "" ∧ settings.secretAccessKey ≠ "")
    (otherwise : accessKeyId ≠ "" ∧ secretAccessKey ≠ "") :
    (settings.withCredentials accessKeyId secretAccessKey).isEnabled = settings.isEnabled := by
  have some : ∀ {text : String}, text ≠ "" → text.isEmpty = false := by simp
  simp only [isEnabled, withCredentials, some keyed.1, some keyed.2, some otherwise.1,
    some otherwise.2]

namespace Client

theorem observed_answer {call : ClientCall} {reply : Except Fault Value}
    (given : client.answer call s = (reply, t)) (calls : List ClientCall) :
    client.observed.answer call (s, calls) = (reply, t, calls ++ [call]) := by
  simp only [observed, given]

/-- The gateway over an impartial client answers alike, and asks the client the same. -/
theorem Impartial.gateway_respects (impartial : client.Impartial Same)
    (connections : List Connection) (accessKeyId secretAccessKey : String) :
    client.observed.gateway.Respects
      (Following Same connections accessKeyId secretAccessKey) := by
  rintro request ⟨s, _⟩ ⟨t, _⟩ ⟨state, requests, rfl, rfl⟩
  simp only [gateway]
  cases translate request with
  | error e => exact ⟨_, _, _, rfl, rfl, state, requests, rfl, rfl⟩
  | ok sent =>
    have same : (ClientCall.request sent).anonymous = (ClientCall.request sent).anonymous := rfl
    obtain ⟨reply, s', t', left, right, onward⟩ := impartial same state
    simp only [observed_answer left, observed_answer right]
    cases reply with
    | error e => exact ⟨_, _, _, rfl, rfl, onward, requests ++ [sent], by simp, by simp⟩
    | ok response => exact ⟨_, _, _, rfl, rfl, onward, requests ++ [sent], by simp, by simp⟩

/-- An impartial client can be made with any credentials, or with none. -/
theorem Impartial.connects (impartial : client.Impartial Same) (same : Same s t)
    (settings : Settings) (accessKeyId secretAccessKey : String) :
    ∃ result j k, client.observed.connect true settings ⟨(s, []), #[]⟩ = (result, j) ∧
      client.observed.connect true (settings.withCredentials accessKeyId secretAccessKey)
        ⟨(t, []), #[]⟩ = (result, k) ∧
      (∀ gateway, result = .ok gateway → gateway = client.observed.gateway) ∧
      j.Matches (Following Same [settings.connection] accessKeyId secretAccessKey) k := by
  have alike : (ClientCall.connect settings.connection).anonymous =
      (ClientCall.connect
        (settings.withCredentials accessKeyId secretAccessKey).connection).anonymous := rfl
  obtain ⟨reply, s', t', left, right, onward⟩ := impartial alike same
  simp only [connect, Bool.not_true, Bool.false_eq_true, ↓reduceIte, bind_apply, Journal.ask,
    observed_answer left, observed_answer right]
  cases reply with
  | error e => exact ⟨_, _, _, rfl, rfl, by simp, ⟨onward, [], rfl, rfl⟩, rfl⟩
  | ok value =>
    exact ⟨_, _, _, rfl, rfl, fun _ same => (Except.ok.inj same).symm, ⟨onward, [], rfl, rfl⟩, rfl⟩

end Client

namespace Usage

variable {files : FileReader}

/-- No call to a storage reads its credentials. -/
theorem answer_withCredentials (settings : Settings) (accessKeyId secretAccessKey : String)
    (gateway? : Option (Gateway σ)) (files : FileReader) (call : Call) :
    answer ⟨settings.withCredentials accessKeyId secretAccessKey, gateway?⟩ files call =
      answer ⟨settings, gateway?⟩ files call := by
  cases call <;> rfl

theorem step_withCredentials (settings : Settings) (accessKeyId secretAccessKey : String)
    (gateway? : Option (Gateway σ)) (files : FileReader) :
    step ⟨settings.withCredentials accessKeyId secretAccessKey, gateway?⟩ files =
      step ⟨settings, gateway?⟩ files := by
  funext usage call
  rw [step, step, answer_withCredentials]

/-- Storages that have been made in matching journals are told apart by nothing that follows. -/
theorem indistinct_steps {j k : Journal (σ × List ClientCall)}
    {gateway? : Option (Gateway (σ × List ClientCall))}
    (related : j.Matches (Client.Following Same connections accessKeyId secretAccessKey) k)
    (settings : Settings)
    (respects : Storage.Respects ⟨settings, gateway?⟩
      (Client.Following Same connections accessKeyId secretAccessKey))
    (files : FileReader) (calls : List Call) :
    Indistinct connections accessKeyId secretAccessKey
      (.ok gateway?.isSome, calls.foldl (step ⟨settings, gateway?⟩ files) { journal := j })
      (.ok gateway?.isSome,
        calls.foldl (step ⟨settings.withCredentials accessKeyId secretAccessKey, gateway?⟩ files)
          { journal := k }) := by
  have begun : Usage.Matches (Client.Following Same connections accessKeyId secretAccessKey)
      { journal := j } { journal := k } := ⟨rfl, by simp, related, rfl⟩
  have finished := begun.steps respects files calls
  rw [step_withCredentials]
  exact {
    made := rfl
    answers := finished.answers
    uploads := finished.uploads
    log := finished.journal.log
    calls := finished.journal.store.requests }

end Usage

/-- Of two storages whose settings differ only in their credentials, each made over the same
impartial client: whatever is called for and however the client answers, both answer and log the
same, and ask the same of the client but to be made with these credentials. -/
theorem Storage.credentials_unseen (impartial : client.Impartial Same) (settings : Settings)
    (keyed : settings.accessKeyId ≠ "" ∧ settings.secretAccessKey ≠ "")
    (otherwise : accessKeyId ≠ "" ∧ secretAccessKey ≠ "") (same : Same s t) (ready : Bool)
    (files : FileReader) (calls : List Call) :
    Usage.Indistinct (settings.connections ready) accessKeyId secretAccessKey
      (Usage.connected client.observed ready settings files (s, []) calls)
      (Usage.connected client.observed ready
        (settings.withCredentials accessKeyId secretAccessKey) files (t, []) calls) := by
  have alike := Settings.isEnabled_withCredentials keyed otherwise
  have begun : Journal.Matches (Client.Following Same [] accessKeyId secretAccessKey)
      ⟨(s, []), #[]⟩ ⟨(t, []), #[]⟩ := ⟨⟨same, [], rfl, rfl⟩, rfl⟩
  unfold Usage.connected Settings.connections Storage.connect
  rw [alike]
  cases settings.isEnabled with
  | false => exact Usage.indistinct_steps begun settings (by simp [Respects]) files calls
  | true =>
    cases ready with
    | false => exact ⟨rfl, rfl, rfl, rfl, [], rfl, rfl⟩
    | true =>
      obtain ⟨result, j, k, left, right, own, after⟩ :=
        impartial.connects same settings accessKeyId secretAccessKey
      simp only [Bool.and_self, ↓reduceIte, bind_apply, left, right]
      cases result with
      | error e => exact ⟨rfl, rfl, rfl, after.log, after.store.requests⟩
      | ok gateway =>
        cases own gateway rfl
        refine Usage.indistinct_steps after settings ?_ files calls
        rintro gateway ⟨⟩
        exact impartial.gateway_respects _ _ _

namespace Script

/-- Scripted stores that hold the same and have the same to come, whatever they were asked. -/
structure Alike (a b : Script ClientCall) : Prop where
  memory : a.memory = b.memory
  outages : a.outages = b.outages
  replies : a.replies = b.replies

theorem respond_alike {a b : Script ClientCall} (own : Memory → Request → Except Fault Value)
    (kinds : List RequestKind) (request : Request) (alike : Alike a b) :
    ∃ reply a' b', respond own kinds request a = (reply, a') ∧
      respond own kinds request b = (reply, b') ∧ Alike a' b' := by
  obtain ⟨memory, outages, replies, calls⟩ := a
  obtain ⟨_, _, _, others⟩ := b
  obtain ⟨rfl, rfl, rfl⟩ := alike
  simp only [respond]
  rcases Outage.strike request outages with ⟨_ | fault, left⟩
  · cases own memory request with
    | error e => exact ⟨_, _, _, rfl, rfl, rfl, rfl, rfl⟩
    | ok value => exact ⟨_, _, _, rfl, rfl, rfl, rfl, rfl⟩
  · exact ⟨_, _, _, rfl, rfl, rfl, rfl, rfl⟩

/-- The scripted client goes by its script only. -/
theorem client_impartial : Script.client.Impartial Alike := by
  intro call other a b same alike
  have pushed : Alike { a with calls := a.calls.push call } { b with calls := b.calls.push other } :=
    ⟨alike.memory, alike.outages, alike.replies⟩
  cases call with
  | openSession =>
    cases other with
    | openSession => exact ⟨_, _, _, rfl, rfl, pushed⟩
    | _ => cases same
  | connect connection =>
    cases other with
    | connect other => exact ⟨_, _, _, rfl, rfl, pushed⟩
    | _ => cases same
  | request request =>
    cases other with
    | request other =>
      cases same
      exact respond_alike _ _ _ pushed
    | _ => cases same

end Script

/-- An upload that cannot be completed, and what is still asked for behind that. -/
def Call.troubled : List Call :=
  [.newUpload "b.bin" none, .upload 0 .start, .upload 0 (.write 0 ⟨#[1, 2]⟩), .upload 0 .complete,
    .upload 0 .abort, .putFile "notes" "a.txt", .fileUrl "a.txt"]

/-- The service fails once to put an upload together. -/
def Script.failingOnce : Script ClientCall :=
  { outages := [⟨.completeUpload, .transport "reset", none, some 1⟩] }

theorem Storage.credentials_unseen_troubled :
    Usage.Indistinct [(Settings.ofBucket "media" "AK" "SK").connection] "AK2" "SK2"
      (Usage.connected Script.client.observed true (.ofBucket "media" "AK" "SK")
        (fun _ => .ok ⟨#[7]⟩) (Script.failingOnce, []) Call.troubled)
      (Usage.connected Script.client.observed true (.ofBucket "media" "AK2" "SK2")
        (fun _ => .ok ⟨#[7]⟩) (Script.failingOnce, []) Call.troubled) :=
  credentials_unseen Script.client_impartial (.ofBucket "media" "AK" "SK") (by decide) (by decide)
    ⟨rfl, rfl, rfl⟩ true _ _

end ObjectStorage
