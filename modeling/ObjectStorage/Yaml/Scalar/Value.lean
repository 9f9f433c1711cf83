import ObjectStorage.Decimal.Reading
import ObjectStorage.Text.Base64
import ObjectStorage.Text.Integer
import ObjectStorage.Text.LowerCase
import ObjectStorage.Value
import ObjectStorage.Yaml.Error
import ObjectStorage.Yaml.Tag
import ObjectStorage.Yaml.Timestamp

/-! The tags of plain scalars and the values of tagged ones. -/

namespace ObjectStorage.Yaml

/-- The tag that a scalar has by its looks; text if it looks like nothing else. One line feed at the
end is overlooked, unless it is all there is. -/
def Tag.ofLooks (text : List Text.CodePoint) : Tag :=
  let chars := (Text.ofCodePoints text).toList
  let s := if chars = ['\n'] then chars else withoutFinalBreak chars
  if looksBool s then .bool
  else if looksFloat s then .float
  else if looksInt s then .int
  else if s = ['<', '<'] then .merge
  else if looksNull s then .null
  else if looksTimestamp s then .timestamp
  else if s = ['='] then .value
  else if s = ['!'] ∨ s = ['&'] ∨ s = ['*'] then .unknown
  else .text

namespace Scalar

open Text (CodePoint)

/-- The characters of a number; bars between digits do not count. -/
def digitsOf (text : List CodePoint) : List CodePoint := text.filter (· != .char '_')

/-- A sign, as a factor, and the digits after it. There must be something. -/
def signed : List CodePoint → Except Error (Int × List CodePoint)
  | [] => .error .emptyNumber
  | .char '-' :: rest => .ok (-1, rest)
  | .char '+' :: rest => .ok (1, rest)
  | rest => .ok (1, rest)

/-- An integer of a base, or the error that says what is wrong with the text. -/
def integer (base : Nat) (digits : List CodePoint) : Except Error Int :=
  (Text.readInteger base (Text.ofCodePoints digits)).mapError fun
    | .notInteger =>
      let shown := String.ofList ((Text.quotedCodePoints digits).toList.take 200)
      .badValue s!"invalid literal for int() with base {base}: {shown}"
    | .tooLong count => .badValue (Text.tooLongToRead count)

/-- An integer: by a mark in base two, eight or sixteen, by colons in base sixty, else in ten. -/
def intValue (text : List CodePoint) : Except Error Value := do
  let (sign, digits) ← signed (digitsOf text)
  let n ← match digits with
    | [.char '0'] => pure 0
    | .char '0' :: .char 'b' :: rest => integer 2 rest
    | .char '0' :: .char 'x' :: rest => integer 16 rest
    | .char '0' :: _ => integer 8 digits
    | [] => throw .emptyNumber
    | _ =>
      if digits.contains (.char ':') then do
        let parts ← (digits.splitOn (.char ':')).mapM (integer 10)
        pure (parts.foldl (fun n part => n * 60 + part) 0)
      else integer 10 digits
  pure (.int (sign * n))

/-- A decimal number, or the error that says which text is none. -/
def number (digits : List CodePoint) : Except Error Float :=
  match Decimal.read? (Text.ofCodePoints digits) with
  | some x => .ok x
  | none =>
    .error (.badValue s!"could not convert string to float: {Text.quotedCodePoints digits}")

/-- The sum of parts in base sixty, last part first; `unit` is what the next part counts. -/
def sumSixtieths (unit : Nat) (sum : Float) : List Float → Except Error Float
  | [] => .ok sum
  | part :: rest =>
    if Nat.pow 2 1024 ≤ unit then .error .unitTooLarge
    else sumSixtieths (unit * 60) (sum + part * Float.ofNat unit) rest

/-- A number with a point, by colons in base sixty, or one of the words for infinity and for no
number. -/
def floatValue (text : List CodePoint) : Except Error Value := do
  let (sign, digits) ← signed (Text.lowerCodePoints (digitsOf text))
  let factor : Float := if sign < 0 then -1.0 else 1.0
  if digits = Text.codePoints ".inf" then pure (.float (factor * (1.0 / 0.0)))
  else if digits = Text.codePoints ".nan" then pure (.float (0.0 / 0.0))
  else if digits.contains (.char ':') then do
    let parts ← (digits.splitOn (.char ':')).mapM number
    pure (.float (factor * (← sumSixtieths 1 0.0 parts.reverse)))
  else pure (.float (factor * (← number digits)))

def boolValue (text : List CodePoint) : Except Error Value :=
  let word := Text.lowerCodePoints text
  if (Tag.trueWords.map Text.codePoints).contains word then .ok (.bool true)
  else if (Tag.falseWords.map Text.codePoints).contains word then .ok (.bool false)
  else .error (.unknownWord word)

/-- The character of a code point, if it is one of ASCII. -/
def ascii? (p : CodePoint) : Option Char := p.char?.filter (·.toNat < 0x80)

def binaryValue (text : List CodePoint) : Except Error Value :=
  match (text.mapM ascii?).bind Text.decodeBase64 with
  | some bytes => .ok (.bytes bytes)
  | none => .error .malformed

def timestampValue (text : List CodePoint) : Except Error Value :=
  let checked (r : Except CalendarError Value) : Except Error Value :=
    r.mapError fun e => .badValue e.message
  match readTimestamp? (withoutFinalBreak (Text.ofCodePoints text).toList) with
  | some (.inl date) => checked (date.check.map .date)
  | some (.inr timestamp) => checked (timestamp.check.map .timestamp)
  | none => .error .noTimestamp

/-- The value of a scalar; a tag that is none of a scalar's makes no value. -/
def value (tag : Tag) (text : List CodePoint) : Except Error Value :=
  match tag with
  | .null => .ok .null
  | .bool => boolValue text
  | .int => intValue text
  | .float => floatValue text
  | .binary => binaryValue text
  | .timestamp => timestampValue text
  | .text => .ok (.text (Text.ofCodePoints text))
  | _ => .error .malformed

end Scalar

end ObjectStorage.Yaml
