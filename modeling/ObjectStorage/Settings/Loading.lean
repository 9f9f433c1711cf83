import ObjectStorage.Files
import ObjectStorage.Settings.Storage
import ObjectStorage.Yaml.Document

/-! Settings read from a file that holds one document. -/

namespace ObjectStorage

/-- Why a file does not give settings. -/
inductive LoadError where
  | file (e : FileError)
  | document (e : Yaml.Error)
  /-- The document is something other than a mapping. -/
  | notMapping (path : String)
  | settings (e : SettingsError)

namespace LoadError

def message : LoadError → String
  | file e => e.message
  | document e => e.message
  | notMapping path => s!"{path} does not contain a YAML mapping"
  | settings e => e.message

/-- Errors that are made out to be faults of the settings; the others end a program at once. -/
def isReported : LoadError → Bool
  | document (.badValue _) => true
  | document (.encoding _) => true
  | document _ => false
  | settings (.noType _) => false
  | settings .unwritableEntry => false
  | _ => true

end LoadError

namespace Settings

/-- The entries of a document. A document that is void has none. -/
def documentEntries (path : String) (document : Value) : Except LoadError Entries :=
  match document with
  | .dict entries => .ok (entries.map fun entry => (EntryName.ofValue entry.1, entry.2))
  | document => if document.isVoid then .ok [] else .error (.notMapping path)

/-- The settings that the bytes of a file hold. -/
def ofBytes (path : String) (bytes : ByteArray) : Except LoadError Settings := do
  let document ← (Yaml.load (.ofBytes bytes)).mapError .document
  let entries ← documentEntries path document
  (read entries).mapError .settings

/-- Reads settings from the file at a path. -/
def load (files : FileReader) (path : String) : Except LoadError Settings := do
  ofBytes path (← (files path).mapError .file)

end Settings

end ObjectStorage
