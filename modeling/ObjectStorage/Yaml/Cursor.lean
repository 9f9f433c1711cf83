import ObjectStorage.Yaml.Error

/-! A place in the text of a document, and the classes of characters that end its pieces. A text
may be readable up to a point only; whoever looks beyond that point gets the error that stands there,
and a place is always one from which there is something to see: a character or the end. -/

namespace ObjectStorage.Yaml

/-- A line feed, a next line, or a separator of lines or paragraphs. -/
def isBreak (c : Char) : Bool :=
  c == '\n' || c == '\r' || c == '\x85' || c == '\u2028' || c == '\u2029'

def isBlankOrBreak (c : Char) : Bool := c == ' ' || c == '\t' || isBreak c

/-- The text from a place on, and where the place is. -/
structure Cursor where
  rest : List Char
  /-- What is wrong with the text after `rest`; nothing if it ends there. -/
  beyond? : Option Error := none
  index : Nat := 0
  line : Nat := 0
  column : Nat := 0
  /-- No less than the number of characters in `rest`. -/
  bound : Nat := rest.length

namespace Cursor

/-- The end of the readable text: the end of the text, or the error that stands there. -/
def atEnd {α : Type} (c : Cursor) (answer : α) : Except Error α :=
  match c.beyond? with
  | some e => .error e
  | none => .ok answer

/-- The same place, if there is something to see. -/
def checked (c : Cursor) : Except Error Cursor := if c.rest.isEmpty then c.atEnd c else .ok c

/-- The character at the place; nothing at the end. -/
def peek (c : Cursor) : Option Char := c.rest.head?

/-- The character some places ahead. -/
def peekAt (c : Cursor) (n : Nat) : Except Error (Option Char) :=
  match c.rest.drop n with
  | ch :: _ => .ok (some ch)
  | [] => c.atEnd none

/-- The next characters, fewer than `n` only at the end. -/
def peekMany (c : Cursor) (n : Nat) : Except Error (List Char) :=
  let chars := c.rest.take n
  if chars.length < n then c.atEnd chars else .ok chars

/-- The place one character on. A byte order mark takes no room on a line. -/
def step (c : Cursor) : Cursor :=
  match c.rest with
  | [] => c
  | ch :: rest =>
    if isBreak ch then { c with rest, index := c.index + 1, line := c.line + 1, column := 0 }
    else
      let column := if ch = '\ufeff' then c.column else c.column + 1
      { c with rest, index := c.index + 1, column }

/-- Goes on by one character. -/
def next (c : Cursor) : Except Error Cursor := c.step.checked

/-- Goes on by some characters. -/
def forward (c : Cursor) : (n : Nat) → Except Error Cursor
  | 0 => c.checked
  | n + 1 => c.step.forward n

/-- The end of the text, or a character of a class. -/
def endOr (p : Char → Bool) (ch : Option Char) : Bool :=
  match ch with
  | none => true
  | some ch => p ch

def atBreakOrEnd (c : Cursor) : Bool := endOr isBreak c.peek

/-- A space, a line break or the end. -/
def atSpaceOrEnd (c : Cursor) : Bool := endOr (fun ch => ch == ' ' || isBreak ch) c.peek

/-- The character some places ahead is a blank, a line break or the end. -/
def blankAt (c : Cursor) (n : Nat) : Except Error Bool := do
  pure (endOr isBlankOrBreak (← c.peekAt n))

/-- The characters of a class that come next, and the place after them. -/
def span (c : Cursor) (p : Char → Bool) : Except Error (List Char × Cursor) := do
  let taken := c.rest.takeWhile p
  pure (taken, ← c.forward taken.length)

def skip (c : Cursor) (p : Char → Bool) : Except Error Cursor := do
  pure (← c.span p).2

def skipSpaces (c : Cursor) : Except Error Cursor := c.skip (· == ' ')

/-- Skips spaces and a comment, if there is one, up to the end of the line. -/
def skipToBreak (c : Cursor) : Except Error Cursor := do
  let c ← c.skipSpaces
  if c.peek = some '#' then c.skip (!isBreak ·) else pure c

/-- A line break as it counts in a scalar: most are line feeds. -/
def lineBreak? (c : Cursor) : Except Error (Option Char × Cursor) := do
  match c.peek with
  | some ch =>
    if ch = '\u2028' ∨ ch = '\u2029' then pure (some ch, ← c.next)
    else if isBreak ch then pure (some '\n', ← c.next)
    else pure (none, c)
  | none => pure (none, c)

/-- The marks for the start and the end of a document. -/
def atMark (c : Cursor) (mark : Char) : Except Error Bool := do
  if (← c.peekMany 3) = [mark, mark, mark] then c.blankAt 3 else pure false

def atDocumentMark (c : Cursor) : Except Error Bool := do
  if ← c.atMark '-' then pure true else c.atMark '.'

end Cursor

end ObjectStorage.Yaml
