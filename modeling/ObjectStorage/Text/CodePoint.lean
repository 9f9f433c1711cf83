import ObjectStorage.Text.Quoted

/-! Code points. Some are no characters but halves of one, and only a pair of them makes sense; a text
that is written by codes may still name a half alone. -/

namespace ObjectStorage.Text

/-- A character, or half of one that stands alone. -/
inductive CodePoint where
  | char (c : Char)
  | half (code : Nat)
  deriving DecidableEq, Repr

namespace CodePoint

/-- The code point of a number that is not beyond all of them. -/
def ofNat (n : Nat) : CodePoint :=
  if n < 0xd800 ∨ 0xe000 ≤ n then .char (Char.ofNat n) else .half n

def char? : CodePoint → Option Char
  | char c => some c
  | half _ => none

/-- How a code point is written where nothing is quoted: only a half needs an escape. -/
def written : CodePoint → List Char
  | char c => [c]
  | half code => escapeByCode code

/-- How a code point is written between quotes. -/
def escape (quote : Char) : CodePoint → List Char
  | char c => escapeChar quote c
  | half code => escapeByCode code

end CodePoint

/-- The code points of a text. -/
def codePoints (s : String) : List CodePoint := s.toList.map .char

/-- The text of code points, with an escape for each half, as errors show it. -/
def ofCodePoints (s : List CodePoint) : String := String.ofList (s.flatMap (·.written))

/-- Code points between quotes. -/
def quotedCodePoints (s : List CodePoint) : String :=
  let quote := quoteFor (s.filterMap (·.char?))
  String.ofList (quote :: s.flatMap (·.escape quote) ++ [quote])

end ObjectStorage.Text
