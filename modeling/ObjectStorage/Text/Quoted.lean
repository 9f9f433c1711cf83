import ObjectStorage.Text.Printable

/-! Quoted text: a text between quotes on one line, every character that cannot be shown written as
an escape. -/

namespace ObjectStorage.Text

/-- The last `width` hexadecimal digits of a number, in lower case. -/
def hexDigits (n : Nat) : (width : Nat) → List Char
  | 0 => []
  | width + 1 => hexDigits (n / 16) width ++ [Nat.digitChar (n % 16)]

/-- How a character that cannot be shown is written: by two, four or eight hexadecimal digits. -/
def escapeByCode (n : Nat) : List Char :=
  if n < 0x100 then '\\' :: 'x' :: hexDigits n 2
  else if n < 0x10000 then '\\' :: 'u' :: hexDigits n 4
  else '\\' :: 'U' :: hexDigits n 8

/-- One character between quotes. -/
def escapeChar (quote c : Char) : List Char :=
  if c = quote ∨ c = '\\' then ['\\', c]
  else if c = '\n' then ['\\', 'n']
  else if c = '\t' then ['\\', 't']
  else if c = '\r' then ['\\', 'r']
  else if isPrintable c then [c]
  else escapeByCode c.toNat

/-- Single quotes are used, unless the text has one and no double quote. -/
def quoteFor (s : List Char) : Char :=
  if '\'' ∈ s ∧ '"' ∉ s then '"' else '\''

/-- A text between quotes. -/
def quoted (s : String) : String :=
  let quote := quoteFor s.toList
  String.ofList (quote :: s.toList.flatMap (escapeChar quote) ++ [quote])

/-- One byte between single or double quotes: the byte as a character if that is a printable ASCII
character, else two hexadecimal digits. -/
private def escapeByte (quote : Char) (b : UInt8) : List Char :=
  let c := Char.ofNat b.toNat
  if c = quote ∨ c = '\\' then ['\\', c]
  else if c = '\n' then ['\\', 'n']
  else if c = '\t' then ['\\', 't']
  else if c = '\r' then ['\\', 'r']
  else if 0x20 ≤ b ∧ b < 0x7F then [c]
  else '\\' :: 'x' :: hexDigits b.toNat 2

/-- Bytes between quotes, marked by a leading letter. -/
def quotedBytes (bytes : ByteArray) : String :=
  let chars := bytes.toList.map fun b => Char.ofNat b.toNat
  let quote := quoteFor chars
  String.ofList ('b' :: quote :: bytes.toList.flatMap (escapeByte quote) ++ [quote])

end ObjectStorage.Text
