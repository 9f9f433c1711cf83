import ObjectStorage.Text.CodePoint
import ObjectStorage.Text.Utf8

/-! What can go wrong with a document. -/

namespace ObjectStorage.Yaml

inductive Error where
  /-- The text is no document, or a tag does not fit what it stands before. -/
  | malformed
  /-- A scalar cannot be read as its tag says. -/
  | badValue (text : String)
  /-- A word that is no truth value is tagged as one. -/
  | unknownWord (word : List Text.CodePoint)
  /-- A number is tagged where there is no text. -/
  | emptyNumber
  /-- A timestamp is tagged where there is none. -/
  | noTimestamp
  /-- A collection that stands for a scalar is tagged as a timestamp. -/
  | timestampOfCollection
  /-- An escape names a number that is no code point by far. -/
  | codeTooLarge
  /-- A number in base sixty has more places than doubles reach. -/
  | unitTooLarge
  /-- A scalar stands for itself, or collections stand in one another beyond measure. -/
  | endless
  /-- The bytes of the text are no characters. -/
  | encoding (e : Text.Utf8Error)
  deriving DecidableEq, Repr

def Error.message : Error → String
  | malformed => ""
  | badValue text => text
  | unknownWord word => Text.quotedCodePoints word
  | emptyNumber => "string index out of range"
  | noTimestamp => "'NoneType' object has no attribute 'groupdict'"
  | timestampOfCollection => "expected string or bytes-like object, got 'list'"
  | codeTooLarge => "Python int too large to convert to C int"
  | unitTooLarge => "int too large to convert to float"
  | endless => "maximum recursion depth exceeded"
  | encoding e => e.message

end ObjectStorage.Yaml
