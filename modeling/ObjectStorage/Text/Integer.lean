/-! Integers read from text: blanks around, one sign, digits of any script, and single underscores
between digits. -/

namespace ObjectStorage.Text

/-- The zeros of the decimal digits of every script (Unicode 14.0, general category Nd); the other
nine digits follow each zero. -/
def decimalZeros : List Nat := [
  0x30, 0x660, 0x6F0, 0x7C0, 0x966, 0x9E6, 0xA66, 0xAE6, 0xB66, 0xBE6, 0xC66, 0xCE6, 0xD66, 0xDE6,
   0xE50, 0xED0, 0xF20, 0x1040, 0x1090, 0x17E0, 0x1810, 0x1946, 0x19D0, 0x1A80, 0x1A90, 0x1B50,
   0x1BB0, 0x1C40, 0x1C50, 0xA620, 0xA8D0, 0xA900, 0xA9D0, 0xA9F0, 0xAA50, 0xABF0, 0xFF10,
   0x104A0, 0x10D30, 0x11066, 0x110F0, 0x11136, 0x111D0, 0x112F0, 0x11450, 0x114D0, 0x11650,
   0x116C0, 0x11730, 0x118E0, 0x11950, 0x11C50, 0x11D50, 0x11DA0, 0x16A60, 0x16AC0, 0x16B50,
   0x1D7CE, 0x1D7D8, 0x1D7E2, 0x1D7EC, 0x1D7F6, 0x1E140, 0x1E2F0, 0x1E950, 0x1FBF0]

/-- The value of a decimal digit of any script. -/
def decimalDigit? (c : Char) : Option Nat :=
  if c.toNat < 0x80 then
    if '0' ≤ c ∧ c ≤ '9' then some (c.toNat - '0'.toNat) else none
  else
    (decimalZeros.find? fun first => first ≤ c.toNat && c.toNat < first + 10).map (c.toNat - ·)

/-- The blanks of ASCII that may stand around a number. -/
def isAsciiBlank (c : Char) : Bool :=
  c == ' ' || ('\t' ≤ c && c ≤ '\r')

/-- The blanks beyond ASCII that may stand around a number. -/
def isWideBlank (c : Char) : Bool :=
  c == '\x85' || c == '\u00a0' || c == '\u1680' || ('\u2000' ≤ c && c ≤ '\u200a') ||
    c == '\u2028' || c == '\u2029' || c == '\u202f' || c == '\u205f' || c == '\u3000'

/-- A number's character in ASCII: digits and blanks beyond ASCII become the ASCII ones, and
whatever else is beyond ASCII a character that no number has. -/
def plainDigit (c : Char) : Char :=
  if c.toNat < 0x80 then c
  else if isWideBlank c then ' '
  else
    match decimalDigit? c with
    | some d => Nat.digitChar d
    | none => '?'

/-- Drops the blanks at both ends. -/
def trimBlanks (s : List Char) : List Char :=
  ((s.dropWhile isAsciiBlank).reverse.dropWhile isAsciiBlank).reverse

/-- The value of an ASCII digit or letter as a digit. -/
def digitValue? (c : Char) : Option Nat :=
  if '0' ≤ c ∧ c ≤ '9' then some (c.toNat - '0'.toNat)
  else if 'a' ≤ c ∧ c ≤ 'z' then some (c.toNat - 'a'.toNat + 10)
  else if 'A' ≤ c ∧ c ≤ 'Z' then some (c.toNat - 'A'.toNat + 10)
  else none

/-- Why a text is not read as an integer. -/
inductive IntegerError where
  | notInteger
  /-- There are more digits than are ever turned into a number. -/
  | tooLong (digits : Nat)
  deriving DecidableEq, Repr

/-- The greatest number of decimal digits that are read or written. -/
def digitLimit : Nat := 4300

/-- What is said of so many digits that are too many to be read. -/
def tooLongToRead (digits : Nat) : String :=
  s!"Exceeds the limit ({digitLimit} digits) for integer string conversion: value has " ++
    s!"{digits} digits; use sys.set_int_max_str_digits() to increase the limit"

/-- What is said of an integer that has too many digits to be written. -/
def tooLongToWrite : String :=
  s!"Exceeds the limit ({digitLimit} digits) for integer string conversion; " ++
    "use sys.set_int_max_str_digits() to increase the limit"

/-- Whether an integer has few enough digits to be written. -/
def isWritable (n : Int) : Bool := n.natAbs < Nat.pow 10 digitLimit

/-- Bases in which any number of digits is read. -/
def isUnlimited (base : Nat) : Bool := base == 2 || base == 8 || base == 16

/-- Digits of a base with single underscores between them, for the value and the number of the
digits so far; gives both, and what follows. `afterDigit` says that a digit has just been read, so
that an underscore or the end may follow. -/
def readDigits? (base : Nat) : (value count : Nat) → (afterDigit : Bool) → List Char →
    Option (Nat × Nat × List Char)
  | value, count, afterDigit, [] => if afterDigit then some (value, count, []) else none
  | value, count, afterDigit, c :: rest =>
    if c = '_' then
      if afterDigit then readDigits? base value count false rest else none
    else
      match (digitValue? c).filter (· < base) with
      | some d => readDigits? base (value * base + d) (count + 1) true rest
      | none => if afterDigit then some (value, count, c :: rest) else none

/-- The natural number that digits of a base write; only blanks may follow them. -/
def readNatural (base : Nat) (s : List Char) : Except IntegerError Nat :=
  match readDigits? base 0 0 false s with
  | none => .error .notInteger
  | some (value, count, rest) =>
    if !isUnlimited base ∧ digitLimit < count then .error (.tooLong count)
    else if rest.all isAsciiBlank then .ok value
    else .error .notInteger

/-- The digits after the mark of their base (`0b`, `0o`, `0x`), if the mark is there; one
underscore may follow the mark. -/
def dropBaseMark (base : Nat) (s : List Char) : List Char :=
  let mark := match base with
    | 2 => some 'b'
    | 8 => some 'o'
    | 16 => some 'x'
    | _ => none
  match mark, s with
  | some letter, '0' :: c :: rest =>
    if c = letter ∨ c = letter.toUpper then
      match rest with
      | '_' :: digits => digits
      | digits => digits
    else s
  | _, _ => s

/-- Reads an integer of the given base. -/
def readInteger (base : Nat) (s : String) : Except IntegerError Int :=
  match (s.toList.map plainDigit).dropWhile isAsciiBlank with
  | '-' :: rest => (readNatural base (dropBaseMark base rest)).map fun n => -(n : Int)
  | '+' :: rest => (readNatural base (dropBaseMark base rest)).map fun n => (n : Int)
  | rest => (readNatural base (dropBaseMark base rest)).map fun n => (n : Int)

end ObjectStorage.Text
