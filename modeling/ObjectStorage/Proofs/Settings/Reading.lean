import ObjectStorage.Proofs.Settings.Layers

/-! What is read of a dictionary against declared fields: which entries fit, what the fields come to
hold, and which error tells that nothing is read (`Schema.ofLayers_read`). -/

namespace ObjectStorage

/-- Some element is the first on which a function fails. -/
theorem mapM_error_iff {α β ε : Type} {f : α → Except ε β} {xs : List α} {e : ε} :
    xs.mapM f = .error e ↔ ∃ before x after, xs = before ++ x :: after ∧
      (∀ y ∈ before, ∃ b, f y = .ok b) ∧ f x = .error e := by
  induction xs with
  | nil => simp [pure, Except.pure]
  | cons x xs ih =>
    rw [List.mapM_cons]
    constructor
    · intro failed
      cases first : f x with
      | error e' =>
        rw [first] at failed
        cases failed
        exact ⟨[], x, xs, rfl, by simp, first⟩
      | ok b =>
        cases rest : xs.mapM f with
        | error e' =>
          rw [first, rest] at failed
          cases failed
          obtain ⟨before, y, after, rfl, earlier, here⟩ := ih.mp rest
          exact ⟨x :: before, y, after, rfl, List.forall_mem_cons.mpr ⟨⟨b, first⟩, earlier⟩, here⟩
        | ok bs =>
          rw [first, rest] at failed
          cases failed
    · rintro ⟨before, y, after, same, earlier, here⟩
      cases before with
      | nil =>
        cases same
        rw [here]
        rfl
      | cons z before =>
        cases same
        obtain ⟨⟨b, first⟩, earlier⟩ := List.forall_mem_cons.mp earlier
        rw [first, ih.mpr ⟨before, y, after, rfl, earlier, here⟩]
        rfl

theorem mapM_ok {α β ε : Type} {f : α → Except ε β} {g : α → β} {xs : List α}
    (all : ∀ x ∈ xs, f x = .ok (g x)) : xs.mapM f = .ok (xs.map g) := by
  induction xs with
  | nil => rfl
  | cons x xs ih =>
    obtain ⟨first, rest⟩ := List.forall_mem_cons.mp all
    rw [List.mapM_cons, first, ih rest]
    rfl

/-- Unless a property holds of all elements, there is a first one that lacks it. -/
theorem forall_mem_or_first {α : Type} (P : α → Prop) (xs : List α) :
    (∀ x ∈ xs, P x) ∨
      ∃ before x after, xs = before ++ x :: after ∧ (∀ y ∈ before, P y) ∧ ¬ P x := by
  induction xs with
  | nil => simp
  | cons x xs ih =>
    by_cases here : P x
    · rcases ih with all | ⟨before, y, after, rfl, earlier, lacks⟩
      · exact .inl (List.forall_mem_cons.mpr ⟨here, all⟩)
      · exact .inr ⟨x :: before, y, after, rfl, List.forall_mem_cons.mpr ⟨here, earlier⟩, lacks⟩
    · exact .inr ⟨[], x, xs, rfl, by simp, here⟩

/-- A result is told exactly by what leads to it, if something always does. -/
theorem result_iff {α ε : Type} {result : Except ε α} {value : α} {Good : Prop} {Bad : ε → Prop}
    (good : Good → result = .ok value) (bad : ∀ {e}, Bad e → result = .error e)
    (either : Good ∨ ∃ e, Bad e) :
    (∀ given, result = .ok given ↔ Good ∧ given = value) ∧ ∀ e, result = .error e ↔ Bad e := by
  rcases either with holds | ⟨e, fails⟩
  · have done := good holds
    refine ⟨fun given => ⟨fun same => ⟨holds, ?_⟩, fun same => same.2 ▸ done⟩, fun e => ?_⟩
    · exact Except.ok.inj (same.symm.trans done)
    · refine ⟨fun failed => ?_, bad⟩
      cases done.symm.trans failed
  · have failed := bad fails
    refine ⟨fun given => ⟨fun done => ?_, fun same => same.2 ▸ good same.1⟩, fun e' => ?_⟩
    · cases failed.symm.trans done
    · refine ⟨fun again => ?_, bad⟩
      cases failed.symm.trans again
      exact fails

/-- What a field of a type takes. Truth values are no integers, and everything that is written like
text is text. -/
inductive FieldType.Takes : FieldType → Value → Prop where
  | text : Takes .text (.text s)
  | flagText : Takes .text (.bool b)
  | integerText : Takes .text (.int n)
  | numberText : Takes .text (.float x)
  | flag : Takes .flag (.bool b)
  | integer : Takes .integer (.int n)
  | number : Takes .number (.float x)
  | list : Takes .list (.list items)
  | dictionary : Takes .dictionary (.dict entries)
  | positive (above : 0 < n) : Takes .positive (.int n)

/-- What becomes of a value that a field of a type takes: text is written, all else is unchanged. -/
def FieldType.keep (type : FieldType) (v : Value) : Value :=
  if type = .text then .text v.render else v

/-- The value is no integer that is too long to be written. -/
def Value.IsShort (v : Value) : Prop := ∀ n, v = .int n → Text.isWritable n = true

namespace Field

structure Fits (field : Field) (v : Value) : Prop where
  taken : field.type.Takes v
  /-- An integer that becomes text has few enough digits. -/
  written : field.type = .text → v.IsShort

/-- Why a field of a schema does not take a value. -/
inductive Refuses (schema : String) (field : Field) : Value → SettingsError → Prop where
  | untyped (untyped : field.type = .untyped) : Refuses schema field v (.noType field.name)
  | wrongKind (typed : field.type ≠ .untyped) (other : ¬ field.type.Takes v)
      (kind : field.type = .positive → ∀ n, v ≠ .int n) :
      Refuses schema field v (.wrongType schema field.name field.type)
  | notPositive (positive : field.type = .positive) (below : n ≤ 0)
      (short : Text.isWritable n = true) :
      Refuses schema field (.int n)
        (.malformed schema field.name s!"{n} is not greater than zero")
  /-- The error cannot tell the integer. -/
  | farBelow (positive : field.type = .positive) (below : n ≤ 0)
      (long : Text.isWritable n = false) :
      Refuses schema field (.int n) (.malformed schema field.name Text.tooLongToWrite)
  | tooLong (text : field.type = .text) (long : Text.isWritable n = false) :
      Refuses schema field (.int n) .unwritable

/-- What a field holds when values were given. -/
def held (field : Field) (given : List (String × Value)) : Value :=
  match given.lookup field.name with
  | some v => field.type.keep v
  | none => field.default

end Field

namespace Schema

/-- An entry names a field that takes its value. -/
def Fits (schema : Schema) (entry : String × Value) : Prop :=
  ∃ field ∈ schema.fields, field.name = entry.1 ∧ field.Fits entry.2

/-- Why an entry does not fit. -/
inductive Misfit (schema : Schema) : String × Value → SettingsError → Prop where
  | undeclared {name : String} (unknown : ∀ field ∈ schema.fields, field.name ≠ name) :
      Misfit schema (name, v) (.unrecognized schema.name name)
  | refused (member : field ∈ schema.fields) (refuses : field.Refuses schema.name v e) :
      Misfit schema (field.name, v) e

/-- A required field is among what is given. -/
def Supplied (given : List (String × Value)) (field : Field) : Prop :=
  field.required = true → ∃ v, (field.name, v) ∈ given

/-- What is given can be read. -/
structure Admits (schema : Schema) (given : List (String × Value)) : Prop where
  fitting : ∀ entry ∈ given, schema.Fits entry
  supplied : ∀ field ∈ schema.fields, Supplied given field

/-- Why what is given cannot be read. The first entry that does not fit comes before all fields that
are missing, and of these the first is told. -/
inductive Rejects (schema : Schema) (given : List (String × Value)) : SettingsError → Prop where
  | entry (here : given = before ++ entry :: after) (earlier : ∀ entry ∈ before, schema.Fits entry)
      (misfit : schema.Misfit entry e) : Rejects schema given e
  | missing (fitting : ∀ entry ∈ given, schema.Fits entry)
      (here : schema.fields = before ++ field :: after)
      (earlier : ∀ field ∈ before, Supplied given field) (absent : ¬ Supplied given field) :
      Rejects schema given (.missing schema.name field.name field.type)

/-- Entries under names that are text, as a dictionary has them. -/
def entriesOf (given : List (String × Value)) : Entries :=
  given.map fun entry => (.text entry.1, entry.2)

/-- What becomes of an entry that fits. -/
def keepEntry (schema : Schema) (entry : String × Value) : String × Value :=
  (entry.1, ((field? schema.fields entry.1).map (·.type.keep entry.2)).getD entry.2)

variable {schema : Schema} {field : Field} {v : Value} {e : SettingsError} {name : String}
  {entry : String × Value} {given : List (String × Value)}

theorem message_of_short {n : Int} (short : Text.isWritable n = true) :
    (PositiveError.notPositive n).message = s!"{n} is not greater than zero" := by
  unfold PositiveError.message
  simp only [short, ↓reduceIte]

theorem message_of_long {n : Int} (long : Text.isWritable n = false) :
    (PositiveError.notPositive n).message = Text.tooLongToWrite := by
  unfold PositiveError.message
  simp only [long, Bool.false_eq_true, ↓reduceIte]

theorem accept_of_fits (fits : field.Fits v) (schema : String) :
    accept schema field v = .ok (field.type.keep v) := by
  obtain ⟨name, type, required, default⟩ := field
  obtain ⟨taken, written⟩ := fits
  cases taken with
  | integerText =>
    have short := written rfl _ rfl
    unfold accept
    simp only [short, ↓reduceIte, FieldType.keep]
  | positive above =>
    unfold accept
    simp only [Value.positive, Int.not_le.mpr above, ↓reduceIte]
    rfl
  | _ => rfl

theorem accept_of_refuses {schema : String} (refuses : field.Refuses schema v e) :
    accept schema field v = .error e := by
  obtain ⟨name, type, required, default⟩ := field
  cases refuses with
  | untyped untyped =>
    cases untyped
    rfl
  | wrongKind typed other kind =>
    cases type with
    | untyped => exact absurd rfl typed
    | positive =>
      cases v with
      | int n => exact absurd rfl (kind rfl n)
      | _ => rfl
    | text =>
      cases v with
      | text s => exact absurd .text other
      | bool b => exact absurd .flagText other
      | int n => exact absurd .integerText other
      | float x => exact absurd .numberText other
      | _ => rfl
    | flag =>
      cases v with
      | bool b => exact absurd .flag other
      | _ => rfl
    | integer =>
      cases v with
      | int n => exact absurd .integer other
      | _ => rfl
    | number =>
      cases v with
      | float x => exact absurd .number other
      | _ => rfl
    | list =>
      cases v with
      | list items => exact absurd .list other
      | _ => rfl
    | dictionary =>
      cases v with
      | dict entries => exact absurd .dictionary other
      | _ => rfl
  | notPositive positive below short =>
    cases positive
    unfold accept
    simp only [Value.positive, below, ↓reduceIte, message_of_short short]
  | farBelow positive below long =>
    cases positive
    unfold accept
    simp only [Value.positive, below, ↓reduceIte, message_of_long long]
  | tooLong text long =>
    cases text
    unfold accept
    simp only [long, Bool.false_eq_true, ↓reduceIte]

theorem fits_or_refuses (schema : String) (field : Field) (v : Value) :
    field.Fits v ∨ ∃ e, field.Refuses schema v e := by
  by_cases taken : field.type.Takes v
  · by_cases written : field.type = .text → v.IsShort
    · exact .inl ⟨taken, written⟩
    · obtain ⟨text, unshort⟩ := Classical.not_imp.mp written
      simp only [Value.IsShort, Classical.not_forall] at unshort
      obtain ⟨n, rfl, long⟩ := unshort
      exact .inr ⟨_, .tooLong text (by simpa using long)⟩
  · by_cases untyped : field.type = .untyped
    · exact .inr ⟨_, .untyped untyped⟩
    · by_cases kind : field.type = .positive → ∀ n, v ≠ .int n
      · exact .inr ⟨_, .wrongKind untyped taken kind⟩
      · obtain ⟨positive, whole⟩ := Classical.not_imp.mp kind
        simp only [Classical.not_forall, Classical.not_not] at whole
        obtain ⟨n, rfl⟩ := whole
        have below : n ≤ 0 := by
          rw [positive] at taken
          exact Int.not_lt.mp fun above => taken (.positive above)
        cases short : Text.isWritable n with
        | true => exact .inr ⟨_, .notPositive positive below short⟩
        | false => exact .inr ⟨_, .farBelow positive below short⟩

theorem field?_of_mem (once : (schema.fields.map (·.name)).Nodup) (member : field ∈ schema.fields) :
    field? schema.fields field.name = some field := by
  cases found : field? schema.fields field.name with
  | none =>
    have unequal := List.find?_eq_none.mp found field member
    simp at unequal
  | some other =>
    have same : other.name = field.name := by simpa using List.find?_some found
    have present : other ∈ schema.fields := List.mem_of_find?_eq_some found
    rw [List.inj_on_of_nodup_map once present member same]

theorem readEntry_of_fits (once : (schema.fields.map (·.name)).Nodup) (fits : schema.Fits entry) :
    schema.readEntry (.text entry.1, entry.2) = .ok (schema.keepEntry entry) := by
  obtain ⟨name, v⟩ := entry
  obtain ⟨field, member, rfl, fits⟩ := fits
  simp only [readEntry, keepEntry, field?_of_mem once member, accept_of_fits fits, Except.map,
    Option.map_some, Option.getD_some]

theorem readEntry_of_misfit (once : (schema.fields.map (·.name)).Nodup)
    (misfit : schema.Misfit entry e) :
    schema.readEntry (.text entry.1, entry.2) = .error e := by
  cases misfit with
  | @undeclared v name unknown =>
    have nothing : field? schema.fields name = none := by
      simpa [field?] using unknown
    simp only [readEntry, nothing]
  | refused member refuses =>
    simp only [readEntry, field?_of_mem once member, accept_of_refuses refuses, Except.map]

theorem misfit_of_not_fits (unfit : ¬ schema.Fits entry) : ∃ e, schema.Misfit entry e := by
  obtain ⟨name, v⟩ := entry
  by_cases known : ∃ field ∈ schema.fields, field.name = name
  · obtain ⟨field, member, rfl⟩ := known
    obtain ⟨e, refuses⟩ := (fits_or_refuses schema.name field v).resolve_left
      fun fits => unfit ⟨field, member, rfl, fits⟩
    exact ⟨e, .refused member refuses⟩
  · exact ⟨_, .undeclared fun field member same => known ⟨field, member, same⟩⟩

theorem lookup_keepEntry (once : (schema.fields.map (·.name)).Nodup)
    (member : field ∈ schema.fields) (given : List (String × Value)) :
    (given.map schema.keepEntry).lookup field.name =
      (given.lookup field.name).map field.type.keep := by
  induction given with
  | nil => rfl
  | cons entry given ih =>
    obtain ⟨name, v⟩ := entry
    rw [List.map_cons, List.lookup_cons, List.lookup_cons, ih]
    by_cases same : field.name = name
    · subst same
      simp [keepEntry, field?_of_mem once member]
    · have other : (field.name == name) = false := by simpa using same
      simp only [keepEntry, other]

theorem lookup_eq_none_of_not_supplied (absent : ¬ Supplied given field) :
    given.lookup field.name = none ∧ field.required = true := by
  obtain ⟨required, missing⟩ := Classical.not_imp.mp absent
  refine ⟨List.lookup_eq_none_iff.mpr fun entry member => ?_, required⟩
  simp only [bne_iff_ne]
  rintro same
  exact missing ⟨entry.2, same ▸ member⟩

/-- A supplied field that is not found may be left out. -/
theorem Supplied.optional (supplied : Supplied given field)
    (absent : given.lookup field.name = none) : field.required = false := by
  apply Bool.eq_false_iff.mpr
  intro required
  obtain ⟨v, present⟩ := supplied required
  have unequal := List.lookup_eq_none_iff.mp absent _ present
  simp at unequal

theorem fill_of_supplied (once : (schema.fields.map (·.name)).Nodup)
    (member : field ∈ schema.fields) (supplied : Supplied given field) :
    schema.fill (given.map schema.keepEntry) field = .ok (field.name, field.held given) := by
  rw [fill, lookup_keepEntry once member, Field.held]
  cases found : given.lookup field.name with
  | some v => rfl
  | none => exact if_neg (Bool.eq_false_iff.mp (supplied.optional found))

theorem fill_of_not_supplied (once : (schema.fields.map (·.name)).Nodup)
    (member : field ∈ schema.fields) (absent : ¬ Supplied given field) :
    schema.fill (given.map schema.keepEntry) field =
      .error (.missing schema.name field.name field.type) := by
  obtain ⟨nothing, required⟩ := lookup_eq_none_of_not_supplied absent
  rw [fill, lookup_keepEntry once member, nothing]
  exact if_pos required

theorem read_of_fitting (once : (schema.fields.map (·.name)).Nodup)
    (fitting : ∀ entry ∈ given, schema.Fits entry) :
    schema.read (entriesOf given) =
      schema.fields.mapM (schema.fill (given.map schema.keepEntry)) := by
  have kept : (entriesOf given).mapM schema.readEntry = .ok (given.map schema.keepEntry) := by
    rw [entriesOf, List.mapM_map]
    exact mapM_ok fun entry member => readEntry_of_fits once (fitting entry member)
  rw [read, kept]
  rfl

theorem read_of_admits (once : (schema.fields.map (·.name)).Nodup) (admits : schema.Admits given) :
    schema.read (entriesOf given) =
      .ok (schema.fields.map fun field => (field.name, field.held given)) := by
  rw [read_of_fitting once admits.fitting]
  exact mapM_ok fun field member => fill_of_supplied once member (admits.supplied field member)

theorem read_of_rejects (once : (schema.fields.map (·.name)).Nodup)
    (rejects : schema.Rejects given e) : schema.read (entriesOf given) = .error e := by
  cases rejects with
  | entry here earlier misfit =>
    have failed : (entriesOf given).mapM schema.readEntry = .error e := by
      rw [entriesOf, List.mapM_map]
      exact mapM_error_iff.mpr ⟨_, _, _, here,
        fun entry member => ⟨_, readEntry_of_fits once (earlier entry member)⟩,
        readEntry_of_misfit once misfit⟩
    rw [read, failed]
    rfl
  | missing fitting here earlier absent =>
    rw [read_of_fitting once fitting]
    refine mapM_error_iff.mpr ⟨_, _, _, here, fun field member => ?_, ?_⟩
    · exact ⟨_, fill_of_supplied once (by simp [here, member]) (earlier field member)⟩
    · exact fill_of_not_supplied once (by simp [here]) absent

theorem admits_or_rejects (schema : Schema) (given : List (String × Value)) :
    schema.Admits given ∨ ∃ e, schema.Rejects given e := by
  rcases forall_mem_or_first schema.Fits given with fitting | ⟨_, _, _, here, earlier, unfit⟩
  · rcases forall_mem_or_first (Supplied given) schema.fields with
      supplied | ⟨_, _, _, here, earlier, absent⟩
    · exact .inl ⟨fitting, supplied⟩
    · exact .inr ⟨_, .missing fitting here earlier absent⟩
  · obtain ⟨e, misfit⟩ := misfit_of_not_fits unfit
    exact .inr ⟨e, .entry here earlier misfit⟩

/-- Layers of declarations read what is given exactly where every entry fits its field and no
required field is missing. Then each field holds what was given for it, or its default. -/
theorem ofLayers_read (layers : List Schema) (given : List (String × Value)) :
    Gathers (layers.flatMap (·.fields)) (ofLayers layers).fields ∧
      (∀ values, (ofLayers layers).read (entriesOf given) = .ok values ↔
        (ofLayers layers).Admits given ∧
          values = (ofLayers layers).fields.map fun field => (field.name, field.held given)) ∧
      ∀ e, (ofLayers layers).read (entriesOf given) = .error e ↔
        (ofLayers layers).Rejects given e := by
  have gathers := ofLayers_gathers layers
  exact ⟨gathers, result_iff (read_of_admits gathers.once) (read_of_rejects gathers.once)
    (admits_or_rejects _ given)⟩

end Schema

end ObjectStorage
