import ObjectStorage.Proofs.Storage.Usage
import ObjectStorage.Proofs.Upload.Lockstep

/-! Storages in use that cannot tell related states of the store apart: every call answers alike and
logs the same, and so do all calls of a run (`Usage.Matches.steps`). -/

namespace ObjectStorage

open ObjectStorage.Action

variable {σ α : Type} {Same : σ → σ → Prop} {gateway : Gateway σ}

/-- If a storage has a gateway at all, it answers related states alike. -/
def Storage.Respects (storage : Storage σ) (Same : σ → σ → Prop) : Prop :=
  ∀ gateway ∈ storage.gateway?, gateway.Respects Same

/-- The same uploads and answers, and matching journals. The uploads go through gateways that answer
related states alike. -/
structure Usage.Matches (Same : σ → σ → Prop) (a b : Usage σ) : Prop where
  uploads : a.uploads = b.uploads
  gateways : ∀ entry ∈ a.uploads, entry.2.Respects Same
  journal : a.journal.Matches Same b.journal
  answers : a.answers = b.answers

namespace Storage

variable {storage : Storage σ}

/-- What needs a gateway respects what all gateways of the storage respect. -/
theorem respects_requireGateway_bind {f : Gateway σ → Action (Journal σ) α}
    (respects : storage.Respects Same)
    (rest : ∀ gateway, gateway.Respects Same → Action.Respects (Journal.Matches Same) (f gateway)) :
    Action.Respects (Journal.Matches Same) (storage.requireGateway >>= f) := by
  unfold requireGateway
  cases present : storage.gateway? with
  | none => exact respects_fail_bind _ f
  | some gateway => exact rest gateway (respects gateway present)

theorem putFile_respects (respects : storage.Respects Same) (files : FileReader)
    (path key : String) :
    Action.Respects (Journal.Matches Same) (storage.putFile files path key) := by
  refine respects_requireGateway_bind respects fun gateway sound => ?_
  refine (respects_ofExcept _).bind fun data => (respects_ask sound _).bind fun _ => ?_
  exact (respects_log _ _ _).bind fun _ => respects_pure _

theorem delete_respects (respects : storage.Respects Same) (key : String) :
    Action.Respects (Journal.Matches Same) (storage.delete key) := by
  refine respects_requireGateway_bind respects fun gateway sound => ?_
  exact (respects_ask sound _).bind fun _ => respects_log _ _ _

theorem signedUrl_respects (respects : storage.Respects Same) (key : String) :
    Action.Respects (Journal.Matches Same) (storage.signedUrl key) :=
  respects_requireGateway_bind respects fun _ sound => respects_ask sound _

theorem fileUrl_respects (respects : storage.Respects Same) (key : String) :
    Action.Respects (Journal.Matches Same) (storage.fileUrl key) := by
  refine respects_requireGateway_bind respects fun gateway sound => ?_
  split
  · exact respects_pure _
  · split
    · exact respects_pure _
    · exact signedUrl_respects respects key

theorem exists_respects (respects : storage.Respects Same) (key : String) :
    Action.Respects (Journal.Matches Same) (storage.exists? key) := by
  unfold exists?
  split
  · exact respects_pure false
  · rename_i gateway present
    refine ((respects_ask (respects gateway present) _).bind fun _ => respects_pure true).recover
      fun e => ?_
    split
    · exact (respects_log _ _ _).bind fun _ => respects_pure false
    · exact respects_fail e

end Storage

namespace Usage

variable {storage : Storage σ} {files : FileReader} {a b : Usage σ}

theorem respects_outside {x : Action (Journal σ) α}
    (inner : Action.Respects (Journal.Matches Same) x) :
    Action.Respects (Usage.Matches Same) (outside x) :=
  inner.onPart (·.journal) fun related after => { related with journal := after }

theorem work_respects (n : Nat) (operation : Operation) :
    Action.Respects (Usage.Matches (σ := σ) Same) (work n operation) := by
  intro a b related
  have found : b.uploads[n]? = a.uploads[n]? := by rw [related.uploads]
  cases present : a.uploads[n]? with
  | none =>
    refine ⟨.ok .null, a, b, ?_, ?_, related⟩
    · simp only [work, present]
    · simp only [work, found, present]
  | some entry =>
    obtain ⟨u, gateway⟩ := entry
    have sound := related.gateways _ (List.mem_of_getElem? present)
    obtain ⟨outcome, s, t, left, right, after⟩ :=
      Operation.perform_respects sound operation ⟨u, a.journal⟩ ⟨u, b.journal⟩ ⟨rfl, related.journal⟩
    refine ⟨outcome.map told,
      { a with uploads := a.uploads.set n (s.upload, gateway), journal := s.journal },
      { b with uploads := b.uploads.set n (t.upload, gateway), journal := t.journal }, ?_, ?_, ?_⟩
    · simp only [work, present, left]
    · simp only [work, found, present, right]
    · exact {
        uploads := by rw [related.uploads, after.upload]
        gateways := by
          intro entry member
          rcases List.mem_or_eq_of_mem_set member with old | rfl
          · exact related.gateways entry old
          · exact sound
        journal := after.journal
        answers := related.answers }

theorem newUpload_respects (respects : storage.Respects Same) (key : String)
    (expectedSize? : Option Int) :
    Action.Respects (Usage.Matches Same) (answer storage files (.newUpload key expectedSize?)) := by
  intro a b related
  simp only [answer, Storage.newUpload, Storage.requireGateway]
  cases present : storage.gateway? with
  | none => exact ⟨_, a, b, rfl, rfl, related⟩
  | some gateway =>
    refine ⟨_, _, _, rfl, rfl, ?_⟩
    exact {
      uploads := congrArg (· ++ _) related.uploads
      gateways := by
        intro entry member
        rcases List.mem_append.mp member with old | new
        · exact related.gateways entry old
        · rw [List.mem_singleton.mp new]
          exact respects gateway present
      journal := related.journal
      answers := related.answers }

/-- Every call is answered alike. -/
theorem answer_respects (respects : storage.Respects Same) (files : FileReader) (call : Call) :
    Action.Respects (Usage.Matches Same) (answer storage files call) := by
  cases call with
  | putFile path key =>
    exact respects_outside
      ((Storage.putFile_respects respects files path key).bind fun _ => respects_pure _)
  | delete key =>
    exact respects_outside ((Storage.delete_respects respects key).bind fun _ => respects_pure _)
  | probe key =>
    exact respects_outside ((Storage.exists_respects respects key).bind fun _ => respects_pure _)
  | newUpload key expectedSize? => exact newUpload_respects respects key expectedSize?
  | upload n operation => exact work_respects n operation
  | signedUrl key => exact respects_outside (Storage.signedUrl_respects respects key)
  | fileUrl key => exact respects_outside (Storage.fileUrl_respects respects key)
  | publicUrl key => exact respects_pure _
  | filePath key => exact respects_pure _

theorem Matches.step (related : Matches Same a b) (respects : storage.Respects Same)
    (files : FileReader) (call : Call) :
    Matches Same (step storage files a call) (step storage files b call) := by
  obtain ⟨reply, a', b', left, right, after⟩ := answer_respects respects files call a b related
  simp only [Usage.step, left, right]
  exact { after with answers := congrArg (· ++ [(call, reply)]) related.answers }

/-- Calls to storages of matching usages are answered alike, however many they are. -/
theorem Matches.steps (related : Matches Same a b) (respects : storage.Respects Same)
    (files : FileReader) (calls : List Call) :
    Matches Same (calls.foldl (Usage.step storage files) a)
      (calls.foldl (Usage.step storage files) b) := by
  induction calls generalizing a b with
  | nil => exact related
  | cons call calls ih => exact ih (related.step respects files call)

end Usage

end ObjectStorage
