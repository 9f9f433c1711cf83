import ObjectStorage.Memory.Store
import ObjectStorage.Program
import ObjectStorage.Proofs.Settings.Loading
import ObjectStorage.Proofs.Yaml.Source

/-! Command lines whose settings cannot be loaded. Nothing is asked of the client library, and the
program tells what is wrong, but for the files on which it breaks off. -/

namespace ObjectStorage

namespace Settings

variable {files : FileReader} {path : String} {e : LoadError}

/-- A file that cannot be read is no breaking one, as it has no bytes. -/
theorem load_isReported_iff (failed : load files path = .error e) :
    e.isReported = true ↔ ∀ bytes, files path = .ok bytes → ¬ Breaking bytes := by
  unfold load at failed
  cases read : files path with
  | error problem =>
    rw [read] at failed
    cases failed
    exact iff_of_true rfl nofun
  | ok bytes =>
    simp only [read, Except.mapError, bind, Except.bind] at failed
    rw [isReported_iff failed]
    exact ⟨fun whole _ same => Except.ok.inj same ▸ whole, fun whole => whole bytes rfl⟩

end Settings

namespace CommandLine

variable {σ : Type}

/-- A command line that names settings that cannot be loaded leaves the client library alone and
prints nothing. It tells what is wrong with the settings and ends with status 1, unless the program
breaks off on their file. -/
theorem run_unusable (client : Client σ) (around : Surroundings) {arguments : List String}
    {invocation : Invocation} {path : String} (store : σ)
    (parsed : Invocation.ofArguments arguments = .ok invocation)
    (named : invocation.settingsPath? = some path)
    (unusable : ∀ settings, Settings.load around.files path ≠ .ok settings) :
    (run client around arguments store).2 = store ∧
      (run client around arguments store).1.output = "" ∧
      (run client around arguments store).1.log = [] ∧
      ((∀ bytes, around.files path = .ok bytes → ¬ Settings.Breaking bytes) →
        (run client around arguments store).1.ending = .exit 1 ∧
          ∃ e, Settings.load around.files path = .error e ∧
            (run client around arguments store).1.complaint? =
              some s!"Invalid config: {e.message}") ∧
      ((∃ bytes, around.files path = .ok bytes ∧ Settings.Breaking bytes) →
        (run client around arguments store).1.complaint? = none ∧
          ∃ e, (run client around arguments store).1.ending = .failure (.load e)) := by
  cases failed : Settings.load around.files path with
  | ok settings => exact absurd failed (unusable settings)
  | error e =>
    have reported := Settings.load_isReported_iff failed
    have ran : run client around arguments store =
        (if e.isReported then ⟨.exit 1, "", some s!"Invalid config: {e.message}", []⟩
          else ⟨.failure (.load e), "", none, []⟩, store) := by
      simp only [run, parsed, Invocation.run, named, Option.map_some, failed]
    rw [ran]
    cases shown : e.isReported with
    | true =>
      refine ⟨rfl, rfl, rfl, fun _ => ⟨rfl, e, rfl, rfl⟩, ?_⟩
      rintro ⟨bytes, read, breaking⟩
      exact absurd breaking (reported.mp shown bytes read)
    | false =>
      refine ⟨rfl, rfl, rfl, fun whole => ?_, fun _ => ⟨rfl, e, rfl⟩⟩
      exact absurd (reported.mpr whole) (by simp [shown])

/-- The invocation of a command line that asks for a URL. -/
theorem ofArguments_url : Invocation.ofArguments ["-c", "storage.yaml", "url", "a.txt"] =
    .ok ⟨some "storage.yaml", false, .url "a.txt"⟩ := by
  decide +kernel

/-- Surroundings with nothing but a file of settings. -/
def aroundSettings (settings : Except FileError ByteArray) : Surroundings :=
  .ofFiles (fun _ => settings) .empty OpenFile.blockLimit

/-- Settings that are not there. -/
theorem run_unusable_missing :
    Invocation.ofArguments ["-c", "storage.yaml", "url", "a.txt"] =
        .ok ⟨some "storage.yaml", false, .url "a.txt"⟩ ∧
      (∀ settings, Settings.load
        (aroundSettings (.error (.system .notFound "storage.yaml"))).files "storage.yaml" ≠
          .ok settings) ∧
      (run Memory.client (aroundSettings (.error (.system .notFound "storage.yaml")))
        ["-c", "storage.yaml", "url", "a.txt"] {}).1.ending = .exit 1 := by
  have unusable : ∀ settings, Settings.load
      (aroundSettings (.error (.system .notFound "storage.yaml"))).files "storage.yaml" ≠
        .ok settings := nofun
  have told := run_unusable Memory.client
    (aroundSettings (.error (.system .notFound "storage.yaml"))) {} ofArguments_url rfl unusable
  exact ⟨ofArguments_url, unusable, (told.2.2.2.1 nofun).1⟩

/-- A mapping with a sequence that is not closed. -/
def unclosed : ByteArray := "bucket: [\n".toUTF8

theorem unclosed_malformed : Yaml.load (.ofBytes unclosed) = .error .malformed := by
  have text : Yaml.Source.ofBytes unclosed = ⟨"bucket: [\n".toList, none⟩ :=
    Yaml.Source.ofBytes_short (by decide +kernel) (by decide +kernel) (by decide +kernel)
      (by decide +kernel) (by decide +kernel) (by decide +kernel)
  have malformed : (match Yaml.load ⟨"bucket: [\n".toList, none⟩ with
      | .error e => decide (e = .malformed)
      | .ok _ => false) = true := by decide +kernel
  rw [text]
  split at malformed
  · rename_i failed
    rw [failed, of_decide_eq_true malformed]
  · cases malformed

/-- Of settings that are no document, the program tells nothing: it breaks off. -/
theorem run_unclosed :
    Invocation.ofArguments ["-c", "storage.yaml", "url", "a.txt"] =
        .ok ⟨some "storage.yaml", false, .url "a.txt"⟩ ∧
      (∀ settings, Settings.load (aroundSettings (.ok unclosed)).files "storage.yaml" ≠
        .ok settings) ∧
      (run Memory.client (aroundSettings (.ok unclosed))
        ["-c", "storage.yaml", "url", "a.txt"] {}).1.complaint? = none ∧
      (run Memory.client (aroundSettings (.ok unclosed))
        ["-c", "storage.yaml", "url", "a.txt"] {}).1.ending =
          .failure (.load (.document .malformed)) := by
  have failed : Settings.load (aroundSettings (.ok unclosed)).files "storage.yaml" =
      .error (.document .malformed) := by
    simp only [aroundSettings, Surroundings.ofFiles, Settings.load, Settings.ofBytes,
      Except.mapError, bind, Except.bind, unclosed_malformed]
  have unusable : ∀ settings,
      Settings.load (aroundSettings (.ok unclosed)).files "storage.yaml" ≠ .ok settings := by
    simp [failed]
  refine ⟨ofArguments_url, unusable, ?_⟩
  simp only [run, ofArguments_url, Invocation.run, Option.map_some, failed, LoadError.isReported,
    Bool.false_eq_true, ↓reduceIte, and_self]

end CommandLine

end ObjectStorage
