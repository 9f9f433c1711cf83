import ObjectStorage.Yaml.Cursor

/-! Scalars without quotes, which end where the document's own signs begin. -/

namespace ObjectStorage.Yaml.Scalar

/-- The signs of flow collections. -/
def isFlowSign (c : Char) : Bool :=
  c == ',' || c == '[' || c == ']' || c == '\x7b' || c == '\x7d'

/-- Whether a plain scalar stops before this character, which is the next one. -/
def plainStops (inFlow : Bool) (ch : Char) (c : Cursor) : Except Error Bool := do
  if isBlankOrBreak ch || (inFlow && (isFlowSign ch || ch == '?')) then pure true
  else if ch = ':' then
    let isSign (ch : Char) : Bool := isBlankOrBreak ch || (inFlow && isFlowSign ch)
    pure (Cursor.endOr isSign (← c.peekAt 1))
  else pure false

/-- A run of characters without blanks, newest first. -/
def plainRun (inFlow : Bool) (fuel : Nat) (run : List Char) (c : Cursor) :
    Except Error (List Char × Cursor) := do
  match fuel, c.peek with
  | fuel + 1, some ch =>
    if ← plainStops inFlow ch c then pure (run, c)
    else plainRun inFlow fuel (ch :: run) (← c.next)
  | _, _ => pure (run, c)

/-- What stands between two runs of a plain scalar. -/
structure PlainGap where
  /-- The characters that the gap counts for, newest first; none if the scalar ends here. -/
  text : List Char
  /-- A line ended in the gap, so that a new key may begin. -/
  newLine : Bool
  cursor : Cursor

/-- The empty lines in a gap, newest break first; nothing if a document ends in it. -/
def plainBreaks (fuel : Nat) (breaks : List Char) (c : Cursor) :
    Except Error (Option (List Char) × Cursor) := do
  match fuel with
  | 0 => pure (some breaks, c)
  | fuel + 1 =>
    let c ← c.skipSpaces
    match ← c.lineBreak? with
    | (some ch, c) =>
      if ← c.atDocumentMark then pure (none, c) else plainBreaks fuel (ch :: breaks) c
    | (none, c) => pure (some breaks, c)

def plainGap (c : Cursor) : Except Error PlainGap := do
  let (spaces, c) ← c.span (· == ' ')
  match ← c.lineBreak? with
  | (none, c) => pure ⟨spaces, false, c⟩
  | (some ch, c) =>
    if ← c.atDocumentMark then pure ⟨[], true, c⟩
    else
      match ← plainBreaks (c.bound + 1) [] c with
      | (none, c) => pure ⟨[], true, c⟩
      | (some breaks, c) =>
        let text := if ch ≠ '\n' then breaks ++ [ch] else if breaks.isEmpty then [' '] else breaks
        pure ⟨text, true, c⟩

/-- The rest of a plain scalar that must stay deeper than `indent`, for the text so far and the gap
after it; gives the text, the place after it, and whether a new key may begin there. -/
def plainFrom (indent : Int) (inFlow : Bool) (fuel : Nat) (text gap : List Char)
    (keyAllowed : Bool) (c : Cursor) : Except Error (String × Cursor × Bool) := do
  match fuel with
  | 0 => pure (String.ofList text.reverse, c, keyAllowed)
  | fuel + 1 =>
    if c.peek = some '#' then pure (String.ofList text.reverse, c, keyAllowed)
    else
      let (run, after) ← plainRun inFlow (c.bound + 1) [] c
      if run.isEmpty then pure (String.ofList text.reverse, c, keyAllowed)
      else
        let text := run ++ gap ++ text
        let gap ← plainGap after
        let c := gap.cursor
        if gap.text.isEmpty ∨ c.peek = some '#' ∨ (!inFlow ∧ (c.column : Int) < indent) then
          pure (String.ofList text.reverse, c, gap.newLine)
        else plainFrom indent inFlow fuel text gap.text gap.newLine c

/-- A plain scalar in surroundings of an indentation. -/
def plain (surroundings : Int) (inFlow keyAllowed : Bool) (c : Cursor) :
    Except Error (String × Cursor × Bool) :=
  plainFrom (surroundings + 1) inFlow (c.bound + 1) [] [] keyAllowed c

end ObjectStorage.Yaml.Scalar
