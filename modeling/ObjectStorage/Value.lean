import ObjectStorage.Calendar
import ObjectStorage.Decimal.Shortest
import ObjectStorage.Text.Quoted

/-! Values as settings files hold them and as the object store answers with them. -/

namespace ObjectStorage

/-- A value of a settings file or of an answer. -/
inductive Value where
  | null
  | bool (b : Bool)
  | int (n : Int)
  | float (x : Float)
  | text (s : String)
  | bytes (data : ByteArray)
  | date (d : Date)
  | timestamp (t : Timestamp)
  | list (items : List Value)
  | set (members : List Value)
  | dict (entries : List (Value × Value))
  deriving Inhabited

namespace Value

/-- Nothing, false, zero and everything that is empty. -/
def isVoid : Value → Bool
  | null => true
  | bool b => !b
  | int n => n == 0
  | float x => x == 0.0
  | text s => s.isEmpty
  | bytes data => data.isEmpty
  | date _ => false
  | timestamp _ => false
  | list items => items.isEmpty
  | set members => members.isEmpty
  | dict entries => entries.isEmpty

/-- The integer that a value is as a key: truth counts as one and falsehood as zero. -/
def wholeKey? : Value → Option Int
  | bool b => some (if b then 1 else 0)
  | int n => some n
  | float x => Decimal.toInt? x
  | _ => none

/-- Whether two values are the same key. Numbers are by what they count, whatever their kind; values
that hold others are never keys. -/
def sameKey (a b : Value) : Bool :=
  match wholeKey? a, wholeKey? b with
  | some m, some n => m == n
  | none, none =>
    match a, b with
    | null, null => true
    | float x, float y => x == y
    | text s, text t => s == t
    | bytes x, bytes y => x == y
    | date x, date y => x == y
    | timestamp x, timestamp y => x == y
    | _, _ => false
  | _, _ => false

/-- The name of the kind of a value that holds others, and so is no key. -/
def keylessKind? : Value → Option String
  | list _ => some "list"
  | set _ => some "set"
  | dict _ => some "dict"
  | _ => none

/-- The value under a name of a dictionary. -/
def member? (name : String) : Value → Option Value
  | dict entries => (entries.find? fun entry => entry.1.sameKey (.text name)).map (·.2)
  | _ => none

mutual

/-- The text of a value inside another one: text is quoted there. -/
def nested : Value → String
  | null => "None"
  | bool b => if b then "True" else "False"
  | int n => toString n
  | float x => Decimal.render x
  | text s => Text.quoted s
  | bytes data => Text.quotedBytes data
  | date d => d.render
  | timestamp t => t.render
  | list items => "[" ++ nestedItems items ++ "]"
  | set [] => "set()"
  | set (m :: ms) => "\x7b" ++ nestedItems (m :: ms) ++ "\x7d"
  | dict entries => "\x7b" ++ nestedEntries entries ++ "\x7d"

/-- The texts of several values, between commas. -/
def nestedItems : List Value → String
  | [] => ""
  | [v] => v.nested
  | v :: w :: rest => v.nested ++ ", " ++ nestedItems (w :: rest)

/-- The texts of the entries of a dictionary, between commas. -/
def nestedEntries : List (Value × Value) → String
  | [] => ""
  | [(k, v)] => k.nested ++ ": " ++ v.nested
  | (k, v) :: e :: rest => k.nested ++ ": " ++ v.nested ++ ", " ++ nestedEntries (e :: rest)

end

/-- The text of a value on its own. -/
def render : Value → String
  | text s => s
  | v => v.nested

end Value

end ObjectStorage
