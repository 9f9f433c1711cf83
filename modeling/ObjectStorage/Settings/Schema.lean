import ObjectStorage.Text.Integer
import ObjectStorage.Value

/-! Declared settings: fields with types and defaults, gathered over layers of declarations, and
the reading of a dictionary against them. -/

namespace ObjectStorage

/-- What values a field takes. -/
inductive FieldType where
  | text
  | flag
  | integer
  | number
  | list
  | dictionary
  /-- An integer above zero. -/
  | positive
  /-- No type was declared. -/
  | untyped
  deriving DecidableEq, Repr

/-- The name of a type for people. -/
def FieldType.name : FieldType → String
  | text => "string"
  | flag => "boolean (true or false)"
  | integer => "int"
  | number => "float"
  | list => "list"
  | dictionary => "dict"
  | positive => "positive integer"
  | untyped => "None"

/-- Why a value is not an integer above zero. -/
inductive PositiveError where
  | notInteger
  | notPositive (n : Int)
  deriving DecidableEq, Repr

def PositiveError.message : PositiveError → String
  | notInteger => ""
  | notPositive n =>
    if Text.isWritable n then s!"{n} is not greater than zero" else Text.tooLongToWrite

/-- The integer above zero that a value is. -/
def Value.positive : Value → Except PositiveError Int
  | int n => if n ≤ 0 then .error (.notPositive n) else .ok n
  | _ => .error .notInteger

/-- The name of an entry of a dictionary; a name that is not text can only be shown, and sometimes
not even that. -/
inductive EntryName where
  | text (name : String)
  | foreign (shown : String)
  | unwritable
  deriving DecidableEq, Repr

/-- The name under which an entry with this key is known. -/
def EntryName.ofValue : Value → EntryName
  | .text name => .text name
  | .int n => if Text.isWritable n then .foreign (Value.int n).render else .unwritable
  | v => .foreign v.render

/-- A dictionary that settings are read from, in its own order. -/
abbrev Entries := List (EntryName × Value)

/-- A declared field. -/
structure Field where
  name : String
  type : FieldType
  required : Bool := false
  default : Value := .null

/-- What is wrong with a dictionary, said of the schema of this name. -/
inductive SettingsError where
  | unrecognized (schema entry : String)
  | wrongType (schema field : String) (type : FieldType)
  | missing (schema field : String) (type : FieldType)
  | malformed (schema field reason : String)
  /-- An integer has too many digits to be made a text. -/
  | unwritable
  /-- So has one under which nothing is recognized. -/
  | unwritableEntry
  /-- The declaration itself is at fault. -/
  | noType (field : String)
  deriving DecidableEq, Repr

def SettingsError.message : SettingsError → String
  | unrecognized schema entry => s!"{schema} contains unrecognized field: {entry}"
  | wrongType schema field type => s!"In {schema}, {field} field requires a {type.name}"
  | missing schema field type => s!"{schema} is missing a required field: {field}, a {type.name}"
  | malformed schema field reason => s!"In {schema}, {field} field is malformed: {reason}"
  | unwritable | unwritableEntry => Text.tooLongToWrite
  | noType field => s!"No type info for Field {field}"

/-- Fields under the name that errors give them. -/
structure Schema where
  name : String
  fields : List Field

namespace Schema

/-- The value that a field makes of a given one. A text field takes all that is written like text;
nothing else is converted. -/
def accept (schema : String) (field : Field) (v : Value) : Except SettingsError Value :=
  let refuse : Except SettingsError Value := .error (.wrongType schema field.name field.type)
  match field.type, v with
  | .untyped, _ => .error (.noType field.name)
  | .positive, v =>
    match v.positive with
    | .ok n => .ok (.int n)
    | .error .notInteger => refuse
    | .error e => .error (.malformed schema field.name e.message)
  | .text, .text s => .ok (.text s)
  | .text, .bool b => .ok (.text (Value.bool b).render)
  | .text, .int n =>
    if Text.isWritable n then .ok (.text (Value.int n).render) else .error .unwritable
  | .text, .float x => .ok (.text (Value.float x).render)
  | .flag, .bool b => .ok (.bool b)
  | .integer, .int n => .ok (.int n)
  | .number, .float x => .ok (.float x)
  | .list, .list items => .ok (.list items)
  | .dictionary, .dict entries => .ok (.dict entries)
  | _, _ => refuse

/-- The field of a name. -/
def field? (fields : List Field) (name : String) : Option Field :=
  fields.find? (·.name == name)

/-- Adds a declaration: a field that is there already is replaced where it stands. -/
def declare (fields : List Field) (field : Field) : List Field :=
  if (field? fields field.name).isSome then
    fields.map fun old => if old.name = field.name then field else old
  else fields ++ [field]

/-- The fields of layers of declarations, each built on the one before; errors carry the name of
the last layer. -/
def ofLayers (layers : List Schema) : Schema where
  name := (layers.getLast?.map (·.name)).getD "Base"
  fields := (layers.flatMap (·.fields)).foldl declare []

/-- The value of one entry under the name of its field. -/
def readEntry (schema : Schema) (entry : EntryName × Value) :
    Except SettingsError (String × Value) :=
  match entry.1 with
  | .unwritable => .error .unwritableEntry
  | .foreign shown => .error (.unrecognized schema.name shown)
  | .text name =>
    match field? schema.fields name with
    | none => .error (.unrecognized schema.name name)
    | some field => (accept schema.name field entry.2).map (name, ·)

/-- The value of a field: the given one, or the default. -/
def fill (schema : Schema) (given : List (String × Value)) (field : Field) :
    Except SettingsError (String × Value) :=
  match given.lookup field.name with
  | some v => .ok (field.name, v)
  | none =>
    if field.required then .error (.missing schema.name field.name field.type)
    else .ok (field.name, field.default)

/-- The values of all fields, in the order of the fields. Entries are looked at first, in their
order, and then what they leave out. -/
def read (schema : Schema) (entries : Entries) : Except SettingsError (List (String × Value)) := do
  let given ← entries.mapM schema.readEntry
  schema.fields.mapM (schema.fill given)

end Schema

end ObjectStorage
