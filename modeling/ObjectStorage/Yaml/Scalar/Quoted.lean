import ObjectStorage.Yaml.Cursor

/-! Scalars between quotes. A line break in them is a space, and further ones stay; between double
quotes there are escapes. -/

namespace ObjectStorage.Yaml.Scalar

open Text (CodePoint)

/-- A character written by a single one after a backslash. -/
def escaped? (c : Char) : Option Char :=
  [('0', '\x00'), ('a', '\x07'), ('b', '\x08'), ('t', '\t'), ('\t', '\t'), ('n', '\n'),
    ('v', '\x0b'), ('f', '\x0c'), ('r', '\r'), ('e', '\x1b'), (' ', ' '), ('"', '"'),
    ('\\', '\\'), ('/', '/'), ('N', '\x85'), ('_', '\u00a0'), ('L', '\u2028'),
    ('P', '\u2029')].lookup c

/-- How many hexadecimal digits follow a letter after a backslash. -/
def codeLength? (c : Char) : Option Nat :=
  [('x', 2), ('u', 4), ('U', 8)].lookup c

def hexValue? (c : Char) : Option Nat :=
  if '0' ≤ c ∧ c ≤ '9' then some (c.toNat - '0'.toNat)
  else if 'a' ≤ c ∧ c ≤ 'f' then some (c.toNat - 'a'.toNat + 10)
  else if 'A' ≤ c ∧ c ≤ 'F' then some (c.toNat - 'A'.toNat + 10)
  else none

/-- The number that exactly these hexadecimal digits write. -/
def hexNumber? (digits : List Char) : Option Nat :=
  digits.foldlM (fun n c => (hexValue? c).map (n * 16 + ·)) 0

/-- The code point that an escape gives. -/
def ofCode (n : Nat) : Except Error CodePoint :=
  if n < 0x110000 then .ok (.ofNat n)
  else if n < Nat.pow 2 31 then .error (.badValue "chr() arg not in range(0x110000)")
  else .error .codeTooLarge

/-- The code that so many hexadecimal digits write next. -/
def code (length : Nat) (c : Cursor) : Except Error Nat := do
  let digits := c.rest.take length
  match hexNumber? digits with
  | none => throw .malformed
  | some n => if digits.length < length then c.atEnd () *> throw .malformed else pure n

def isBlank (c : Char) : Bool := c == ' ' || c == '\t'

/-- The empty lines inside a quoted scalar, with the blanks that begin each line; `breaks` are the
ones so far, newest first. -/
def emptyLines (fuel : Nat) (breaks : List Char) (c : Cursor) :
    Except Error (List Char × Cursor) := do
  match fuel with
  | 0 => pure (breaks, c)
  | fuel + 1 =>
    if ← c.atDocumentMark then throw .malformed
    else
      match ← (← c.skip isBlank).lineBreak? with
      | (some ch, c) => emptyLines fuel (ch :: breaks) c
      | (none, c) => pure (breaks, c)

/-- What the blanks and line breaks that come next inside a quoted scalar count for, newest
character first. -/
def foldGap (c : Cursor) : Except Error (List Char × Cursor) := do
  let (blanks, c) ← c.span isBlank
  if c.peek.isNone then throw .malformed
  match ← c.lineBreak? with
  | (none, c) => pure (blanks.reverse, c)
  | (some ch, c) =>
    let (breaks, c) ← emptyLines (c.bound + 1) [] c
    pure (if ch ≠ '\n' then breaks ++ [ch] else if breaks.isEmpty then [' '] else breaks, c)

/-- What stands after a backslash, newest code point first. -/
def unescape (c : Cursor) : Except Error (List CodePoint × Cursor) := do
  match c.peek with
  | none => throw .malformed
  | some ch =>
    match escaped? ch, codeLength? ch with
    | some real, _ => pure ([.char real], ← c.next)
    | none, some length =>
      let c ← c.next
      let real ← ofCode (← code length c)
      pure ([real], ← c.forward length)
    | none, none =>
      match ← c.lineBreak? with
      | (some _, c) =>
        let (breaks, c) ← emptyLines (c.bound + 1) [] c
        pure (breaks.map .char, c)
      | (none, _) => throw .malformed

/-- The rest of a quoted scalar, for the text so far, newest code point first. -/
def quotedFrom (double : Bool) (fuel : Nat) (text : List CodePoint) (c : Cursor) :
    Except Error (List CodePoint × Cursor) := do
  match fuel, c.peek with
  | fuel + 1, some ch =>
    if ch = '\'' ∧ !double then
      if (← c.peekAt 1) = some '\'' then quotedFrom double fuel (.char '\'' :: text) (← c.forward 2)
      else pure (text.reverse, ← c.next)
    else if ch = '"' ∧ double then pure (text.reverse, ← c.next)
    else if ch = '\\' ∧ double then
      let (more, c) ← unescape (← c.next)
      quotedFrom double fuel (more ++ text) c
    else if isBlankOrBreak ch then
      let (gap, c) ← foldGap c
      quotedFrom double fuel (gap.map .char ++ text) c
    else quotedFrom double fuel (.char ch :: text) (← c.next)
  | _, _ => throw .malformed

/-- A scalar between quotes, from its opening quote on. -/
def quoted (c : Cursor) : Except Error (List CodePoint × Cursor) := do
  quotedFrom (c.peek == some '"') (c.bound + 1) [] (← c.next)

end ObjectStorage.Yaml.Scalar
