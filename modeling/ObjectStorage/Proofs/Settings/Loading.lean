import ObjectStorage.Proofs.Settings.Reading
import ObjectStorage.Settings.Loading

/-! Why settings cannot be loaded from a file. A program is told of most reasons as faults of the
settings, and of some not (`Settings.Breaking`): where the text is no document, and where an entry
stands under an integer that is too long to be written. -/

namespace ObjectStorage

namespace Schema

variable {schema : Schema} {field : Field} {v : Value} {e : SettingsError}
  {entry : EntryName × Value} {entries : Entries}

/-- A field that has a type finds fault with values only, and not with entries. -/
theorem accept_error {name : String} (failed : accept name field v = .error e) :
    e ≠ .unwritableEntry ∧ (field.type ≠ .untyped → ∀ other, e ≠ .noType other) := by
  unfold accept at failed
  split at failed
  case h_1 untyped =>
    cases failed
    exact ⟨nofun, fun typed => absurd untyped typed⟩
  case h_2 =>
    split at failed <;> cases failed <;> exact ⟨nofun, fun _ => nofun⟩
  case h_5 =>
    split at failed <;> cases failed
    exact ⟨nofun, fun _ => nofun⟩
  all_goals
    cases failed
    try exact ⟨nofun, fun _ => nofun⟩

theorem readEntry_unwritableEntry_iff :
    readEntry schema entry = .error .unwritableEntry ↔ entry.1 = .unwritable := by
  obtain ⟨name, v⟩ := entry
  cases name with
  | unwritable => exact ⟨fun _ => rfl, fun _ => rfl⟩
  | foreign shown => exact ⟨nofun, nofun⟩
  | text name =>
    refine ⟨fun failed => ?_, nofun⟩
    simp only [readEntry] at failed
    split at failed
    · cases failed
    · rename_i field _
      cases accepted : accept schema.name field v with
      | ok value => rw [accepted] at failed; cases failed
      | error e =>
        rw [accepted] at failed
        cases failed
        exact absurd rfl (accept_error accepted).1

theorem fill_error {given : List (String × Value)} (failed : fill schema given field = .error e) :
    e = .missing schema.name field.name field.type := by
  unfold fill at failed
  split at failed
  · cases failed
  · split at failed <;> cases failed
    rfl

/-- Reading fails on an entry that cannot be named only if it has taken all entries before. -/
theorem read_unwritableEntry_iff :
    schema.read entries = .error .unwritableEntry ↔
      ∃ before v after, entries = before ++ (.unwritable, v) :: after ∧
        ∀ entry ∈ before, ∃ given, schema.readEntry entry = .ok given := by
  have fills : ∀ given, schema.fields.mapM (schema.fill given) ≠ .error .unwritableEntry := by
    intro given failed
    obtain ⟨_, field, _, _, _, here⟩ := mapM_error_iff.mp failed
    cases fill_error here
  have iff : schema.read entries = .error .unwritableEntry ↔
      entries.mapM schema.readEntry = .error .unwritableEntry := by
    unfold read
    cases given : entries.mapM schema.readEntry with
    | error e => exact Iff.rfl
    | ok values => exact ⟨fun failed => absurd failed (fills values), nofun⟩
  rw [iff, mapM_error_iff]
  constructor
  · rintro ⟨before, ⟨name, v⟩, after, rfl, earlier, here⟩
    cases readEntry_unwritableEntry_iff.mp here
    exact ⟨before, v, after, rfl, earlier⟩
  · rintro ⟨before, v, after, rfl, earlier⟩
    exact ⟨before, _, after, rfl, earlier, rfl⟩

/-- Where every field has a type, none is missed. -/
theorem read_ne_noType (typed : ∀ field ∈ schema.fields, field.type ≠ .untyped) (other : String) :
    schema.read entries ≠ .error (.noType other) := by
  intro failed
  unfold read at failed
  cases given : entries.mapM schema.readEntry with
  | ok given =>
    rw [given] at failed
    obtain ⟨_, field, _, _, _, here⟩ := mapM_error_iff.mp failed
    cases fill_error here
  | error e =>
    rw [given] at failed
    cases failed
    obtain ⟨_, ⟨name, v⟩, _, _, _, here⟩ := mapM_error_iff.mp given
    cases name with
    | unwritable => cases here
    | foreign shown => cases here
    | text name =>
      simp only [readEntry] at here
      split at here
      · cases here
      · rename_i field found
        cases accepted : accept schema.name field v with
        | ok value => rw [accepted] at here; cases here
        | error e =>
          rw [accepted] at here
          cases here
          have member : field ∈ schema.fields := List.mem_of_find?_eq_some found
          exact (accept_error accepted).2 (typed field member) other rfl

end Schema

/-- A document that is read fails at a value, or at the bytes of its text. -/
inductive Yaml.Error.IsOfValue : Yaml.Error → Prop where
  | badValue : IsOfValue (.badValue text)
  | encoding : IsOfValue (.encoding e)

namespace Settings

/-- An entry that names a field and has a value for it. -/
def Fits (entry : Value × Value) : Prop :=
  ∃ name field given, entry.1 = .text name ∧ Schema.field? schema.fields name = some field ∧
    Schema.accept schema.name field entry.2 = .ok given

/-- The bytes of a file on which a program breaks off when it loads settings. -/
inductive Breaking (bytes : ByteArray) : Prop where
  | document (failed : Yaml.load (.ofBytes bytes) = .error e) (other : ¬ e.IsOfValue) :
      Breaking bytes
  /-- Behind fitting entries is one under an integer that is too long to be written. -/
  | entry {before after : List (Value × Value)}
      (loaded : Yaml.load (.ofBytes bytes) = .ok (.dict (before ++ (.int n, v) :: after)))
      (fitting : ∀ entry ∈ before, Fits entry) (long : Text.isWritable n = false) :
      Breaking bytes

variable {bytes : ByteArray} {path : String} {e : LoadError}

theorem ofValue_eq_unwritable_iff {key : Value} :
    EntryName.ofValue key = .unwritable ↔ ∃ n, key = .int n ∧ Text.isWritable n = false := by
  cases key with
  | int n => cases long : Text.isWritable n <;> simp [EntryName.ofValue, long]
  | _ => simp [EntryName.ofValue]

theorem ofValue_eq_text_iff {key : Value} {name : String} :
    EntryName.ofValue key = .text name ↔ key = .text name := by
  cases key with
  | int n => cases long : Text.isWritable n <;> simp [EntryName.ofValue, long]
  | _ => simp [EntryName.ofValue]

theorem fits_iff {entry : Value × Value} :
    (∃ given, schema.readEntry (EntryName.ofValue entry.1, entry.2) = .ok given) ↔ Fits entry := by
  constructor
  · rintro ⟨given, accepted⟩
    cases named : EntryName.ofValue entry.1 with
    | unwritable => rw [named] at accepted; cases accepted
    | foreign shown => rw [named] at accepted; cases accepted
    | text name =>
      rw [named] at accepted
      simp only [Schema.readEntry] at accepted
      cases found : Schema.field? schema.fields name with
      | none => rw [found] at accepted; cases accepted
      | some field =>
        rw [found] at accepted
        cases taken : Schema.accept schema.name field entry.2 with
        | error e => simp only [taken] at accepted; cases accepted
        | ok value => exact ⟨name, field, value, ofValue_eq_text_iff.mp named, found, taken⟩
  · rintro ⟨name, field, given, named, found, taken⟩
    rw [ofValue_eq_text_iff.mpr named]
    exact ⟨(name, given), by simp [Schema.readEntry, found, taken, Except.map]⟩

/-- Entries of which the first one that does not fit cannot be named. -/
theorem read_unwritableEntry_iff (entries : List (Value × Value)) :
    read (entries.map fun entry => (EntryName.ofValue entry.1, entry.2)) =
        .error .unwritableEntry ↔
      ∃ before n v after, entries = before ++ (.int n, v) :: after ∧
        (∀ entry ∈ before, Fits entry) ∧ Text.isWritable n = false := by
  have mapped : ∀ result : Except SettingsError (List (String × Value)),
      result.map ofValues = .error .unwritableEntry ↔ result = .error .unwritableEntry := by
    intro result
    cases result <;> simp [Except.map]
  rw [read, mapped, Schema.read_unwritableEntry_iff]
  constructor
  · rintro ⟨before, v, after, same, fitting⟩
    obtain ⟨before, rest, rfl, rfl, tail⟩ := List.map_eq_append_iff.mp same
    obtain ⟨⟨key, v⟩, after, rfl, entry, rfl⟩ := List.map_eq_cons_iff.mp tail
    obtain ⟨n, rfl, long⟩ := ofValue_eq_unwritable_iff.mp (congrArg Prod.fst entry)
    exact ⟨before, n, v, after, rfl,
      fun entry member => fits_iff.mp (fitting _ (List.mem_map_of_mem member)), long⟩
  · rintro ⟨before, n, v, after, rfl, fitting, long⟩
    rw [List.map_append, List.map_cons, ofValue_eq_unwritable_iff.mpr ⟨n, rfl, long⟩]
    refine ⟨_, v, _, rfl, fun entry member => ?_⟩
    obtain ⟨given, here, rfl⟩ := List.mem_map.mp member
    exact fits_iff.mpr (fitting given here)

theorem schema_typed : ∀ field ∈ schema.fields, field.type ≠ .untyped := by
  simp [schema]

theorem read_ne_noType (entries : Entries) (other : String) :
    read entries ≠ .error (.noType other) := by
  intro failed
  cases given : schema.read entries with
  | ok values => rw [read, given] at failed; cases failed
  | error e =>
    rw [read, given] at failed
    cases failed
    exact Schema.read_ne_noType schema_typed other given

/-- Entries come from a dictionary, or from a void document in its place. -/
theorem documentEntries_ok {document : Value} {entries : Entries}
    (given : documentEntries path document = .ok entries) :
    (∃ members, document = .dict members ∧
        entries = members.map fun entry => (EntryName.ofValue entry.1, entry.2)) ∨
      entries = [] ∧ ∀ members, document ≠ .dict members := by
  unfold documentEntries at given
  split at given
  · cases given
    exact .inl ⟨_, rfl, rfl⟩
  · rename_i other
    split at given <;> cases given
    exact .inr ⟨rfl, other⟩

theorem documentEntries_error {document : Value}
    (failed : documentEntries path document = .error e) :
    e = .notMapping path ∧ ∀ members, document ≠ .dict members := by
  unfold documentEntries at failed
  split at failed
  · cases failed
  · rename_i other
    split at failed <;> cases failed
    exact ⟨rfl, other⟩

theorem isReported_settings_iff {e : SettingsError} (typed : ∀ other, e ≠ .noType other) :
    (LoadError.settings e).isReported = true ↔ e ≠ .unwritableEntry := by
  cases e with
  | unwritableEntry => exact ⟨nofun, fun other => absurd rfl other⟩
  | noType field => exact absurd rfl (typed field)
  | _ => exact ⟨fun _ => nofun, fun _ => rfl⟩

theorem breaking_iff_of_error {d : Yaml.Error} (loaded : Yaml.load (.ofBytes bytes) = .error d) :
    Breaking bytes ↔ ¬ d.IsOfValue := by
  constructor
  · rintro (⟨same, other⟩ | ⟨same, _, _⟩)
    · cases loaded.symm.trans same
      exact other
    · cases loaded.symm.trans same
  · exact .document loaded

theorem breaking_iff_of_document {document : Value}
    (loaded : Yaml.load (.ofBytes bytes) = .ok document) :
    Breaking bytes ↔ ∃ before n v after,
      document = .dict (before ++ (.int n, v) :: after) ∧ (∀ entry ∈ before, Fits entry) ∧
        Text.isWritable n = false := by
  constructor
  · rintro (⟨same, _⟩ | ⟨same, fitting, long⟩)
    · cases loaded.symm.trans same
    · cases loaded.symm.trans same
      exact ⟨_, _, _, _, rfl, fitting, long⟩
  · rintro ⟨before, n, v, after, rfl, fitting, long⟩
    exact .entry loaded fitting long

/-- An error is made out to be a fault of the settings unless the file is a breaking one. -/
theorem isReported_iff (failed : ofBytes path bytes = .error e) :
    e.isReported = true ↔ ¬ Breaking bytes := by
  unfold ofBytes at failed
  cases loaded : Yaml.load (.ofBytes bytes) with
  | error d =>
    rw [loaded] at failed
    cases failed
    rw [breaking_iff_of_error loaded, Classical.not_not]
    constructor
    · intro reported
      cases d <;> first | exact .badValue | exact .encoding | cases reported
    · rintro (_ | _) <;> rfl
  | ok document =>
    rw [breaking_iff_of_document loaded]
    rw [loaded] at failed
    cases found : documentEntries path document with
    | error e' =>
      obtain ⟨rfl, other⟩ := documentEntries_error found
      simp only [Except.mapError, bind, Except.bind, found] at failed
      cases failed
      refine iff_of_true rfl ?_
      rintro ⟨before, n, v, after, same, _⟩
      exact other _ same
    | ok entries =>
      cases given : read entries with
      | ok settings =>
        simp only [Except.mapError, bind, Except.bind, found, given] at failed
        cases failed
      | error e' =>
        simp only [Except.mapError, bind, Except.bind, found, given] at failed
        cases failed
        have typed : ∀ other, e' ≠ .noType other := by
          rintro other rfl
          exact read_ne_noType entries other given
        rw [isReported_settings_iff typed]
        rcases documentEntries_ok found with ⟨members, rfl, rfl⟩ | ⟨rfl, other⟩
        · refine not_congr ⟨?_, ?_⟩
          · rintro rfl
            obtain ⟨before, n, v, after, rfl, rest⟩ := (read_unwritableEntry_iff members).mp given
            exact ⟨before, n, v, after, rfl, rest⟩
          · rintro ⟨before, n, v, after, same, rest⟩
            cases same
            have unwritable := (read_unwritableEntry_iff _).mpr ⟨before, n, v, after, rfl, rest⟩
            exact Except.error.inj (given.symm.trans unwritable)
        · refine iff_of_true ?_ fun ⟨before, n, v, after, same, _⟩ => other _ same
          rintro rfl
          obtain ⟨before, n, v, after, same, _⟩ := (read_unwritableEntry_iff []).mp given
          simp at same

end Settings

end ObjectStorage
