import ObjectStorage.Yaml.Cursor

/-! Scalars in blocks of lines: the lines as they are, or folded into one where nothing but a line
break parts them. -/

namespace ObjectStorage.Yaml.Scalar

/-- What becomes of the line breaks at the end of a block. -/
inductive Chomping where
  | strip
  | clip
  | keep
  deriving DecidableEq, Repr

/-- What the header of a block says. -/
structure BlockHeader where
  chomping : Chomping := .clip
  /-- How much deeper than its surroundings the block is said to be. -/
  increment? : Option Nat := none

/-- The sign for what becomes of line breaks, if it comes next. -/
def chompingSign (c : Cursor) : Except Error (Option Chomping × Cursor) := do
  match c.peek with
  | some '+' => pure (some .keep, ← c.next)
  | some '-' => pure (some .strip, ← c.next)
  | _ => pure (none, c)

/-- The digit for how deep a block is, if it comes next; zero is not deep enough. -/
def depthDigit (c : Cursor) : Except Error (Option Nat × Cursor) := do
  match c.peek with
  | some ch =>
    if ch = '0' then throw .malformed
    else if '1' ≤ ch ∧ ch ≤ '9' then pure (some (ch.toNat - '0'.toNat), ← c.next)
    else pure (none, c)
  | none => pure (none, c)

/-- The header, whose two parts come in either order, up to the end of its line. -/
def blockHeader (c : Cursor) : Except Error (BlockHeader × Cursor) := do
  let (early, c) ← chompingSign c
  let (increment?, c) ← depthDigit c
  let (late, c) ← if early.isNone ∧ increment?.isSome then chompingSign c else pure (none, c)
  if !c.atSpaceOrEnd then throw .malformed
  let c ← c.skipToBreak
  if !c.atBreakOrEnd then throw .malformed
  pure (⟨(early.or late).getD .clip, increment?⟩, (← c.lineBreak?).2)

/-- The empty lines before the first line of a block, and the greatest column that spaces reach. -/
def measureIndent (fuel : Nat) (breaks : List Char) (deepest : Nat) (c : Cursor) :
    Except Error (List Char × Nat × Cursor) := do
  match fuel with
  | 0 => pure (breaks, deepest, c)
  | fuel + 1 =>
    let c ← c.skipSpaces
    let deepest := max deepest c.column
    match ← c.lineBreak? with
    | (some ch, c) => measureIndent fuel (ch :: breaks) deepest c
    | (none, c) => pure (breaks, deepest, c)

/-- Skips spaces up to a column. -/
def skipIndent (indent : Nat) (c : Cursor) : Except Error Cursor :=
  c.forward ((c.rest.take (indent - c.column)).takeWhile (· == ' ')).length

/-- The empty lines before the next line of a block, newest break first, and the place where the
next line begins. -/
def blockGap (indent : Nat) (fuel : Nat) (breaks : List Char) (c : Cursor) :
    Except Error (List Char × Cursor) := do
  match fuel with
  | 0 => pure (breaks, c)
  | fuel + 1 =>
    match ← (← skipIndent indent c).lineBreak? with
    | (some ch, c) => blockGap indent fuel (ch :: breaks) c
    | (none, c) => pure (breaks, c)

/-- A block with the line breaks that its header leaves at the end, for the text without them; all
newest first. -/
def chomp (chomping : Chomping) (text lastBreak breaks : List Char) : List Char :=
  match chomping with
  | .strip => text
  | .clip => lastBreak ++ text
  | .keep => breaks ++ lastBreak ++ text

/-- The lines of a block, for the text so far, the last line break and the empty lines after it, all
newest first. -/
def blockLines (folded : Bool) (chomping : Chomping) (indent : Nat) (fuel : Nat)
    (text breaks lastBreak : List Char) (c : Cursor) : Except Error (List Char × Cursor) := do
  match fuel with
  | 0 => pure (chomp chomping text lastBreak breaks, c)
  | fuel + 1 =>
    if c.column = indent ∧ c.peek.isSome then
      let beginsBlank (c : Cursor) : Bool := c.peek == some ' ' || c.peek == some '\t'
      let wasBlank := beginsBlank c
      let (line, c) ← c.span (!isBreak ·)
      let text := line.reverse ++ breaks ++ text
      let (lineBreak?, c) ← c.lineBreak?
      let lineBreak := lineBreak?.toList
      let (breaks, c) ← blockGap indent (c.bound + 1) [] c
      if c.column = indent ∧ c.peek.isSome then
        let text :=
          if folded ∧ lineBreak = ['\n'] ∧ !wasBlank ∧ !beginsBlank c then
            if breaks.isEmpty then ' ' :: text else text
          else lineBreak ++ text
        blockLines folded chomping indent fuel text breaks lineBreak c
      else pure (chomp chomping text lineBreak breaks, c)
    else pure (chomp chomping text lastBreak breaks, c)

/-- A block from its indicator on, in surroundings of an indentation. -/
def block (surroundings : Int) (c : Cursor) : Except Error (String × Cursor) := do
  let folded := c.peek == some '>'
  let (header, c) ← blockHeader (← c.next)
  let least := (max 1 (surroundings + 1)).toNat
  let (indent, breaks, c) ← match header.increment? with
    | some n => do
      let indent := least + n - 1
      pure (indent, ← blockGap indent (c.bound + 1) [] c)
    | none => do
      let (breaks, deepest, c) ← measureIndent (c.bound + 1) [] 0 c
      pure (max least deepest, breaks, c)
  let (text, c) ← blockLines folded header.chomping indent (c.bound + 1) [] breaks [] c
  pure (String.ofList text.reverse, c)

end ObjectStorage.Yaml.Scalar
