import ObjectStorage.Proofs.Settings.Reading
import ObjectStorage.Settings.Storage
import Mathlib.Data.List.Perm.Basic

/-! The values that are read of a dictionary are normal: read once more they stay as they are, and the
order of the entries has no part in them (`Schema.reading_normal`). Settings of a storage are read so
without anything lost. -/

namespace ObjectStorage

section

variable {α β : Type} [BEq α] [LawfulBEq α] {entries other : List (α × β)} {key : α} {value : β}

/-- Under keys that are distinct, what is found is what is there. -/
theorem lookup_iff_mem (once : (entries.map (·.1)).Nodup) :
    entries.lookup key = some value ↔ (key, value) ∈ entries := by
  induction entries with
  | nil => simp
  | cons entry entries ih =>
    obtain ⟨name, here⟩ := entry
    rw [List.map_cons, List.nodup_cons] at once
    rw [List.lookup_cons, List.mem_cons]
    by_cases same : key = name
    · subst same
      have behind : (key, value) ∉ entries := by
        intro member
        exact once.1 (List.mem_map.mpr ⟨(key, value), member, rfl⟩)
      simp [behind, eq_comm]
    · have unequal : (key == name) = false := by simpa using same
      simp [unequal, same, ih once.2]

theorem lookup_perm (once : (entries.map (·.1)).Nodup) (reordered : entries.Perm other) (key : α) :
    entries.lookup key = other.lookup key := by
  have again : (other.map (·.1)).Nodup := (reordered.map (·.1)).nodup_iff.mp once
  apply Option.ext
  intro value
  rw [lookup_iff_mem once, lookup_iff_mem again, reordered.mem_iff]

end

namespace FieldType

variable {type : FieldType} {v : Value}

theorem keep_of_ne (other : type ≠ .text) (v : Value) : type.keep v = v := if_neg other

theorem keep_keep (type : FieldType) (v : Value) : type.keep (type.keep v) = type.keep v := by
  by_cases text : type = .text
  · subst text
    rfl
  · rw [keep_of_ne text, keep_of_ne text]

theorem takes_keep (takes : type.Takes v) : type.Takes (type.keep v) := by
  by_cases text : type = .text
  · subst text
    exact .text
  · rwa [keep_of_ne text]

end FieldType

namespace Field

variable {field : Field} {v w : Value}

/-- A field takes a value and keeps it as it is. -/
structure Holds (field : Field) (v : Value) : Prop where
  fits : field.Fits v
  unchanged : field.type.keep v = v

theorem Fits.holds_keep (fits : field.Fits v) : field.Holds (field.type.keep v) where
  fits := by
    refine ⟨FieldType.takes_keep fits.taken, fun text => ?_⟩
    rw [text]
    exact nofun
  unchanged := FieldType.keep_keep _ _

theorem accept_eq_ok_iff (schema : String) :
    Schema.accept schema field v = .ok w ↔ field.Fits v ∧ w = field.type.keep v :=
  (result_iff (Schema.accept_of_fits · schema) Schema.accept_of_refuses
    (Schema.fits_or_refuses schema field v)).1 w

theorem holds_iff (schema : String) : field.Holds v ↔ Schema.accept schema field v = .ok v := by
  rw [accept_eq_ok_iff]
  exact ⟨fun holds => ⟨holds.fits, holds.unchanged.symm⟩, fun kept => ⟨kept.1, kept.2.symm⟩⟩

end Field

namespace Schema

/-- Every field that may be left out takes its own default, and as it is. -/
def Settled (schema : Schema) : Prop :=
  ∀ field ∈ schema.fields, field.required = false →
    accept schema.name field field.default = .ok field.default

/-- What all fields hold when values were given. -/
def held (schema : Schema) (given : List (String × Value)) : List (String × Value) :=
  schema.fields.map fun field => (field.name, field.held given)

variable {schema : Schema} {field : Field} {given other values : List (String × Value)}
  {entries : Entries}

theorem names_held (schema : Schema) (given : List (String × Value)) :
    (schema.held given).map (·.1) = schema.fields.map (·.name) := by
  rw [held, List.map_map]
  rfl

theorem lookup_held (once : (schema.fields.map (·.name)).Nodup) (member : field ∈ schema.fields)
    (given : List (String × Value)) :
    (schema.held given).lookup field.name = some (field.held given) := by
  have distinct : ((schema.held given).map (·.1)).Nodup := by rwa [names_held]
  exact (lookup_iff_mem distinct).mpr (List.mem_map_of_mem member)

theorem read_eq_ok_iff (once : (schema.fields.map (·.name)).Nodup) :
    schema.read (entriesOf given) = .ok values ↔
      schema.Admits given ∧ values = schema.held given :=
  (result_iff (read_of_admits once) (read_of_rejects once) (admits_or_rejects schema given)).1 values

/-- Each field takes what it has come to hold, given or by default. -/
theorem Admits.holds (admits : schema.Admits given) (once : (schema.fields.map (·.name)).Nodup)
    (settled : schema.Settled) (member : field ∈ schema.fields) :
    field.Holds (field.held given) := by
  unfold Field.held
  -- A given value was made normal as it was read; only for a default is that an assumption.
  cases found : given.lookup field.name with
  | some v =>
    obtain ⟨before, after, rfl, _⟩ := List.lookup_eq_some_iff.mp found
    obtain ⟨named, present, same, fits⟩ := admits.fitting (field.name, v) (by simp)
    have here : named = field := List.inj_on_of_nodup_map once present member same
    subst here
    exact fits.holds_keep
  | none =>
    have optional := (admits.supplied field member).optional found
    exact (Field.holds_iff schema.name).mpr (settled field member optional)

theorem Admits.again (admits : schema.Admits given) (once : (schema.fields.map (·.name)).Nodup)
    (settled : schema.Settled) : schema.Admits (schema.held given) where
  fitting := by
    intro entry present
    obtain ⟨field, member, rfl⟩ := List.mem_map.mp present
    exact ⟨field, member, rfl, (admits.holds once settled member).fits⟩
  supplied field member _ := ⟨field.held given, List.mem_map_of_mem member⟩

theorem Admits.held_held (admits : schema.Admits given)
    (once : (schema.fields.map (·.name)).Nodup) (settled : schema.Settled) :
    schema.held (schema.held given) = schema.held given := by
  apply List.map_congr_left
  intro field member
  rw [Field.held, lookup_held once member]
  exact congrArg _ (admits.holds once settled member).unchanged

theorem Admits.perm (admits : schema.Admits given) (reordered : given.Perm other) :
    schema.Admits other where
  fitting entry present := admits.fitting entry (reordered.mem_iff.mpr present)
  supplied := by
    intro field member required
    obtain ⟨v, present⟩ := admits.supplied field member required
    exact ⟨v, reordered.mem_iff.mp present⟩

theorem held_perm (distinct : (given.map (·.1)).Nodup) (reordered : given.Perm other) :
    schema.held given = schema.held other := by
  apply List.map_congr_left
  intro field _
  rw [Field.held, Field.held, lookup_perm distinct reordered]

theorem exists_entriesOf_iff :
    (∃ given, entries = entriesOf given) ↔ ∀ entry ∈ entries, ∃ name, entry.1 = .text name := by
  constructor
  · rintro ⟨given, rfl⟩ entry member
    obtain ⟨⟨name, v⟩, _, rfl⟩ := List.mem_map.mp member
    exact ⟨name, rfl⟩
  · intro named
    induction entries with
    | nil => exact ⟨[], rfl⟩
    | cons entry entries ih =>
      obtain ⟨key, v⟩ := entry
      obtain ⟨⟨name, here⟩, rest⟩ := List.forall_mem_cons.mp named
      obtain ⟨given, rfl⟩ := ih rest
      cases here
      exact ⟨(name, v) :: given, rfl⟩

/-- Only entries under names that are text are ever read. -/
theorem named_of_read (taken : schema.read entries = .ok values) :
    ∀ entry ∈ entries, ∃ name, entry.1 = .text name := by
  have accepted : ∀ entry ∈ entries, ∃ value, schema.readEntry entry = .ok value := by
    rcases forall_mem_or_first (fun entry => ∃ value, schema.readEntry entry = .ok value) entries with
      all | ⟨before, entry, after, whole, earlier, lacks⟩
    · exact all
    · cases refused : schema.readEntry entry with
      | ok value => exact absurd ⟨value, refused⟩ lacks
      | error e =>
        have failed := mapM_error_iff.mpr ⟨before, entry, after, whole, earlier, refused⟩
        rw [read, failed] at taken
        cases taken
  intro entry member
  obtain ⟨value, done⟩ := accepted entry member
  obtain ⟨name, v⟩ := entry
  cases name with
  | text name => exact ⟨name, rfl⟩
  | foreign shown => cases done
  | unwritable => cases done

theorem distinct_of_entriesOf (distinct : ((entriesOf given).map (·.1)).Nodup) :
    (given.map (·.1)).Nodup := by
  have same : (entriesOf given).map (·.1) = (given.map (·.1)).map .text := by
    rw [entriesOf, List.map_map, List.map_map]
    rfl
  rw [same] at distinct
  exact distinct.of_map

theorem perm_of_entriesOf (reordered : (entriesOf given).Perm (entriesOf other)) :
    given.Perm other := by
  apply (List.map_perm_map_iff ?_).mp reordered
  rintro ⟨name, v⟩ ⟨otherName, w⟩ same
  cases same
  rfl

/-- What was read is read again as it is. -/
theorem read_again (once : (schema.fields.map (·.name)).Nodup) (settled : schema.Settled)
    (taken : schema.read entries = .ok values) :
    schema.read (entriesOf values) = .ok values := by
  obtain ⟨given, rfl⟩ := exists_entriesOf_iff.mpr (named_of_read taken)
  obtain ⟨admits, rfl⟩ := (read_eq_ok_iff once).mp taken
  apply (read_eq_ok_iff once).mpr
  exact ⟨admits.again once settled, (admits.held_held once settled).symm⟩

/-- A dictionary is read alike in any order. -/
theorem read_perm (once : (schema.fields.map (·.name)).Nodup)
    (distinct : (entries.map (·.1)).Nodup) {others : Entries} (reordered : entries.Perm others)
    (taken : schema.read entries = .ok values) : schema.read others = .ok values := by
  have named := named_of_read taken
  obtain ⟨other, rfl⟩ := exists_entriesOf_iff.mpr fun entry member =>
    named entry (reordered.mem_iff.mpr member)
  obtain ⟨given, rfl⟩ := exists_entriesOf_iff.mpr named
  have same := perm_of_entriesOf reordered
  obtain ⟨admits, rfl⟩ := (read_eq_ok_iff once).mp taken
  apply (read_eq_ok_iff once).mpr
  exact ⟨admits.perm same, held_perm (distinct_of_entriesOf distinct) same⟩

/-- Fields under distinct names are gathered as they are declared. -/
theorem foldl_declare {fields : List Field} (distinct : (fields.map (·.name)).Nodup) :
    fields.foldl declare [] = fields := by
  induction fields using List.reverseRecOn with
  | nil => rfl
  | append_singleton fields field ih =>
    rw [List.map_append, List.nodup_append] at distinct
    obtain ⟨earlier, _, apart⟩ := distinct
    have unknown : ¬ (field? fields field.name).isSome = true := by
      intro known
      exact apart _ (field?_isSome_iff.mp known) _ (by simp) rfl
    rw [List.foldl_append, ih earlier]
    exact if_neg unknown

theorem ofLayers_single (once : (schema.fields.map (·.name)).Nodup) : ofLayers [schema] = schema := by
  simp [ofLayers, foldl_declare once]

end Schema

namespace Settings

open Schema

theorem schema_once : (schema.fields.map (·.name)).Nodup := by decide

theorem schema_settled : schema.Settled := by
  intro field member _
  simp only [schema, List.mem_cons, List.not_mem_nil, or_false] at member
  rcases member with rfl | rfl | rfl | rfl | rfl | rfl | rfl | rfl | rfl | rfl <;> rfl

theorem schema_types : ∀ field ∈ schema.fields,
    field.type = .text ∨ field.type = .flag ∨ field.type = .positive := by
  simp [schema]

/-- The value of a field in the settings that values make up. -/
def valueAt (values : List (String × Value)) (field : Field) : Value :=
  match field.type with
  | .text => .text (textAt values field.name)
  | .flag => .bool (flagAt values field.name)
  | _ => .int (integerAt values field.name)

theorem values_ofValues (values : List (String × Value)) :
    (ofValues values).values = schema.fields.map fun field => (field.name, valueAt values field) :=
  rfl

variable {field : Field} {v : Value} {given values : List (String × Value)} {entries : Entries}

/-- A value of the kind of its field is kept whole. -/
theorem valueAt_eq (member : field ∈ schema.fields) (found : values.lookup field.name = some v)
    (holds : field.Holds v) : valueAt values field = v := by
  have taken := holds.fits.taken
  have unchanged := holds.unchanged
  rcases schema_types field member with type | type | type
  · rw [type] at unchanged
    have text : v = .text v.render := unchanged.symm
    rw [text] at found
    simp only [valueAt, type, textAt, found]
    exact unchanged
  · rw [type] at taken
    cases taken
    simp only [valueAt, type, flagAt, found]
  · rw [type] at taken
    cases taken
    simp only [valueAt, type, integerAt, found]

theorem values_of_admits (admits : schema.Admits given) :
    (ofValues (schema.held given)).values = schema.held given := by
  rw [values_ofValues]
  apply List.map_congr_left
  intro field member
  have holds := admits.holds schema_once schema_settled member
  rw [valueAt_eq member (lookup_held schema_once member given) holds]

theorem expirySeconds_pos (admits : schema.Admits given) :
    0 < (ofValues (schema.held given)).expirySeconds := by
  have member : { name := "presigned_url_expiry_seconds", type := .positive, default := .int 3600 } ∈
      schema.fields := by simp [schema]
  have found := lookup_held schema_once member given
  have taken := (admits.holds schema_once schema_settled member).fits.taken
  generalize Field.held _ given = v at found taken
  cases taken with
  | positive above =>
    change 0 < integerAt _ "presigned_url_expiry_seconds"
    rw [integerAt, found]
    exact above

/-- What is read is the values of settings: texts, flags and an integer above zero. -/
theorem exists_settings (taken : schema.read entries = .ok values) :
    ∃ s, read entries = .ok s ∧ values = s.values ∧ 0 < s.expirySeconds := by
  refine ⟨ofValues values, by rw [read, taken]; rfl, ?_⟩
  obtain ⟨given, rfl⟩ := exists_entriesOf_iff.mpr (named_of_read taken)
  obtain ⟨admits, rfl⟩ := (read_eq_ok_iff schema_once).mp taken
  exact ⟨(values_of_admits admits).symm, expirySeconds_pos admits⟩

end Settings

/-- Where the defaults are such as their fields take them, values that were read are read again as
they are, and a dictionary in another order is read alike. The settings of a storage are an instance:
whatever is read for them is six texts, three flags and an integer above zero. -/
theorem Schema.reading_normal :
    (∀ (layers : List Schema) (entries : Entries) (values : List (String × Value)),
      (ofLayers layers).Settled → (ofLayers layers).read entries = .ok values →
        (ofLayers layers).read (entriesOf values) = .ok values ∧
          ((entries.map (·.1)).Nodup → ∀ others, entries.Perm others →
            (ofLayers layers).read others = .ok values)) ∧
      ofLayers [Settings.schema] = Settings.schema ∧ Settings.schema.Settled ∧
      ∀ entries values, Settings.schema.read entries = .ok values →
        ∃ s, Settings.read entries = .ok s ∧ values = s.values ∧ 0 < s.expirySeconds := by
  refine ⟨?_, ofLayers_single Settings.schema_once, Settings.schema_settled,
    fun _ _ => Settings.exists_settings⟩
  intro layers entries values settled taken
  have once := (ofLayers_gathers layers).once
  constructor
  · exact read_again once settled taken
  · intro distinct others reordered
    exact read_perm once distinct reordered taken

/-- A field that may be left out, and one that is declared again as a required one. -/
def Schema.layered : List Schema := [
  ⟨"Archive", [
    { name := "name", type := .text, default := .text "archive" },
    { name := "limit", type := .positive, default := .int 1 },
    { name := "open", type := .flag, default := .bool true }]⟩,
  ⟨"BoundedArchive", [{ name := "limit", type := .integer, required := true }]⟩]

theorem Schema.reading_normal_layered :
    (ofLayers layered).Settled ∧
      (ofLayers layered).read (entriesOf [("limit", .int 0), ("name", .bool true)]) =
        .ok [("name", .text "True"), ("limit", .int 0), ("open", .bool true)] ∧
      (ofLayers layered).read
          (entriesOf [("name", .text "True"), ("limit", .int 0), ("open", .bool true)]) =
        .ok [("name", .text "True"), ("limit", .int 0), ("open", .bool true)] ∧
      (ofLayers layered).read (entriesOf [("name", .bool true), ("limit", .int 0)]) =
        .ok [("name", .text "True"), ("limit", .int 0), ("open", .bool true)] := by
  have settled : (ofLayers layered).Settled := by
    refine List.forall_mem_cons.mpr ⟨fun _ => rfl, ?_⟩
    exact List.forall_mem_cons.mpr ⟨nofun, List.forall_mem_singleton.mpr fun _ => rfl⟩
  have taken : (ofLayers layered).read (entriesOf [("limit", .int 0), ("name", .bool true)]) =
      .ok [("name", .text "True"), ("limit", .int 0), ("open", .bool true)] := by
    rfl
  obtain ⟨again, reordered⟩ := reading_normal.1 layered _ _ settled taken
  exact ⟨settled, taken, again, reordered (by decide) _ (.swap _ _ _)⟩

end ObjectStorage
