/-! Tags, which say what a node is, and the tag that a plain scalar has by its looks. -/

namespace ObjectStorage.Yaml

inductive Tag where
  | null
  | bool
  | int
  | float
  | binary
  | timestamp
  | orderedMap
  | pairs
  | set
  | text
  | sequence
  | mapping
  /-- The entries of other mappings belong to this one. -/
  | merge
  /-- The value that a mapping has as a scalar. -/
  | value
  | unknown
  deriving DecidableEq, Repr

namespace Tag

/-- What the names of all known tags begin with. -/
def home : String := "tag:yaml.org,2002:"

/-- The tag of a full name. -/
def ofName (name : String) : Tag :=
  (([("null", null), ("bool", bool), ("int", int), ("float", float), ("binary", binary),
    ("timestamp", timestamp), ("omap", orderedMap), ("pairs", pairs), ("set", set),
    ("str", text), ("seq", sequence), ("map", mapping), ("merge", merge),
    ("value", value)].map fun (word, tag) => (home ++ word, tag)).lookup name).getD unknown

/-- The words for true, then those for false, in lower case. -/
def trueWords : List String := ["yes", "true", "on"]
def falseWords : List String := ["no", "false", "off"]

/-- The spellings of a word of lower case: as it is, with a capital, and in capitals. -/
def spellings (word : String) : List String := [word, word.capitalize, word.toUpper]

def looksNull (s : List Char) : Bool :=
  ("" :: "~" :: spellings "null").contains (String.ofList s)

def looksBool (s : List Char) : Bool :=
  ((trueWords ++ falseWords).flatMap spellings).contains (String.ofList s)

def isDigitOrBar (c : Char) : Bool := c.isDigit || c == '_'

/-- The text after a sign, if there is one. -/
def unsigned : List Char → List Char
  | '-' :: rest => rest
  | '+' :: rest => rest
  | s => s

/-- One or two digits that count to sixty at most. -/
def looksSixtieth : List Char → Bool
  | [a] => a.isDigit
  | [a, b] => '0' ≤ a && a ≤ '5' && b.isDigit
  | _ => false

/-- Parts of a text between colons. -/
def colonParts (s : List Char) : List (List Char) := s.splitOn ':'

/-- Digits and bars, with a digit first. -/
def looksRun : List Char → Bool
  | c :: rest => c.isDigit && rest.all isDigitOrBar
  | [] => false

def looksInt (s : List Char) : Bool :=
  match unsigned s with
  | '0' :: 'b' :: digits =>
    !digits.isEmpty && digits.all fun c => c == '0' || c == '1' || c == '_'
  | '0' :: 'x' :: digits =>
    !digits.isEmpty &&
      digits.all fun c => isDigitOrBar c || ('a' ≤ c && c ≤ 'f') || ('A' ≤ c && c ≤ 'F')
  | '0' :: digits => digits.all fun c => ('0' ≤ c && c ≤ '7') || c == '_'
  | s =>
    match colonParts s with
    | first :: sixtieths => looksRun first && sixtieths.all looksSixtieth
    | [] => false

/-- A signed exponent, or none. -/
def looksExponent : List Char → Bool
  | [] => true
  | e :: sign :: digits =>
    (e == 'e' || e == 'E') && (sign == '-' || sign == '+') && !digits.isEmpty &&
      digits.all Char.isDigit
  | _ => false

/-- Digits before a point, what may follow it, and an exponent. -/
def looksFraction (s : List Char) : Bool :=
  looksRun (s.takeWhile isDigitOrBar) &&
    match s.dropWhile isDigitOrBar with
    | '.' :: rest => looksExponent (rest.dropWhile isDigitOrBar)
    | _ => false

/-- Parts between colons, of which the last one has a point. -/
def looksSixtiethFraction (s : List Char) : Bool :=
  match colonParts s with
  | first :: second :: rest =>
    let parts := second :: rest
    looksRun first && parts.dropLast.all looksSixtieth &&
      match parts.getLast? with
      | some last =>
        looksSixtieth (last.takeWhile (· != '.')) &&
          (match last.dropWhile (· != '.') with
            | '.' :: digits => digits.all isDigitOrBar
            | _ => false)
      | none => false
  | _ => false

def looksFloat (s : List Char) : Bool :=
  let named (words : List String) (s : List Char) : Bool := words.contains (String.ofList s)
  looksFraction (unsigned s) || looksSixtiethFraction (unsigned s) ||
    (match s with
      | '.' :: c :: rest => c.isDigit && looksExponent (rest.dropWhile isDigitOrBar)
      | _ => false) ||
    named [".inf", ".Inf", ".INF"] (unsigned s) || named [".nan", ".NaN", ".NAN"] s

end Tag

end ObjectStorage.Yaml
