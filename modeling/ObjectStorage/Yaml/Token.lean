import ObjectStorage.Text.CodePoint

/-! The tokens of a document. -/

namespace ObjectStorage.Yaml

inductive Directive where
  | version (major : Int)
  /-- Tags that begin with the handle stand for the longer ones that begin with `lead`. -/
  | tag (handle lead : String)
  | other
  deriving DecidableEq, Repr

inductive Token where
  | directive (d : Directive)
  | documentStart
  | documentEnd
  | streamEnd
  | blockSequenceStart
  | blockMappingStart
  | blockEnd
  | flowSequenceStart
  | flowSequenceEnd
  | flowMappingStart
  | flowMappingEnd
  | key
  | value
  | blockEntry
  | flowEntry
  | reference (name : String)
  | anchor (name : String)
  | tag (handle? : Option String) (suffix : String)
  | scalar (text : List Text.CodePoint) (plain : Bool)
  deriving DecidableEq, Repr

end ObjectStorage.Yaml
