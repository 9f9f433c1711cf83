import ObjectStorage.Yaml.Scalar.Block
import ObjectStorage.Yaml.Scalar.Plain
import ObjectStorage.Yaml.Scalar.Quoted
import ObjectStorage.Yaml.Scalar.Value
import ObjectStorage.Yaml.Source
import ObjectStorage.Yaml.Token

/-! The token stream of a text. A mapping key is known as one only by the colon after it, so each
place where a key may begin is remembered until the colon comes or no longer can. -/

namespace ObjectStorage.Yaml

/-- A place where a key may have begun. -/
structure KeyStart where
  /-- How many tokens came before it. -/
  before : Nat
  /-- Nothing but a key can stand there. -/
  required : Bool
  index : Nat
  line : Nat
  column : Nat

/-- The stream up to a place in the text. -/
structure TokenStream where
  cursor : Cursor
  /-- The tokens that are still to be used, in order. -/
  waiting : List Token := []
  /-- How many tokens have been used. -/
  used : Nat := 0
  /-- The last token is among those that are waiting or used. -/
  isDone : Bool := false
  /-- How many flow collections are open. -/
  depth : Nat := 0
  /-- The column of the innermost block collection. -/
  indent : Int := -1
  outerIndents : List Int := []
  keyAllowed : Bool := true
  /-- Where a key may have begun, for each depth of flow collections. -/
  keyStarts : List (Nat × KeyStart) := []

namespace TokenStream

abbrev Step := TokenStream → Except Error TokenStream

def inFlow (s : TokenStream) : Bool := s.depth != 0

def column (s : TokenStream) : Int := s.cursor.column

def push (s : TokenStream) (t : Token) : TokenStream := { s with waiting := s.waiting ++ [t] }

/-- Puts a token before others, at a place given by the number of all tokens before it. -/
def insert (s : TokenStream) (before : Nat) (t : Token) : TokenStream :=
  { s with waiting := s.waiting.insertIdx (before - s.used) t }

/-- Skips spaces, comments and line breaks. A key may begin on a new line of a block. -/
def skipGap (fuel : Nat) (s : TokenStream) : Except Error TokenStream := do
  match fuel with
  | 0 => pure s
  | fuel + 1 =>
    match ← (← s.cursor.skipToBreak).lineBreak? with
    | (some _, cursor) =>
      skipGap fuel { s with cursor, keyAllowed := s.keyAllowed || !s.inFlow }
    | (none, cursor) => pure { s with cursor }

/-- Gives up the places whose colon can no longer come: a key stays on one line and within 1024
characters. -/
def dropStaleKeys (s : TokenStream) : Except Error TokenStream :=
  let isStale (k : KeyStart) : Bool :=
    k.line != s.cursor.line || s.cursor.index - k.index > 1024
  if s.keyStarts.any fun k => isStale k.2 && k.2.required then .error .malformed
  else .ok { s with keyStarts := s.keyStarts.filter fun k => !isStale k.2 }

/-- Gives up the place at the current depth. -/
def forgetKey (s : TokenStream) : Except Error TokenStream :=
  match s.keyStarts.lookup s.depth with
  | some k =>
    if k.required then .error .malformed
    else .ok { s with keyStarts := s.keyStarts.filter (·.1 != s.depth) }
  | none => .ok s

/-- Remembers that a key may begin here. -/
def rememberKey (s : TokenStream) : Except Error TokenStream := do
  if !s.keyAllowed then pure s
  else
    let required := !s.inFlow && s.indent == s.column
    let before := s.used + s.waiting.length
    let k : KeyStart := ⟨before, required, s.cursor.index, s.cursor.line, s.cursor.column⟩
    let s ← s.forgetKey
    pure { s with keyStarts := (s.depth, k) :: s.keyStarts }

/-- Ends the block collections that are deeper than a column. -/
def unwind (s : TokenStream) (column : Int) : TokenStream :=
  if s.inFlow then s
  else
    let ended := (s.indent :: s.outerIndents).takeWhile (column < ·)
    let left := (s.indent :: s.outerIndents).dropWhile (column < ·)
    { s with
      waiting := s.waiting ++ ended.map fun _ => Token.blockEnd
      indent := left.headD (-1)
      outerIndents := left.drop 1 }

/-- Begins a block collection at a column, unless one stands there; tells whether it did. -/
def addIndent (s : TokenStream) (column : Int) : TokenStream × Bool :=
  if s.indent < column then
    ({ s with indent := column, outerIndents := s.indent :: s.outerIndents }, true)
  else (s, false)

/-- Leaves all blocks for something that concerns the whole document. -/
def leaveBlocks (s : TokenStream) : Except Error TokenStream := do
  let s ← (s.unwind (-1)).forgetKey
  pure { s with keyAllowed := false }

def forward (s : TokenStream) (n : Nat) : Except Error TokenStream := do
  pure { s with cursor := ← s.cursor.forward n }

def streamEnd : Step := fun s => do
  let s ← s.leaveBlocks
  pure ({ s with keyStarts := [], isDone := true }.push .streamEnd)

def documentMark (t : Token) : Step := fun s => do
  pure ((← (← s.leaveBlocks).forward 3).push t)

def isNameChar (c : Char) : Bool := c.isAlphanum || c == '-' || c == '_'

/-- The characters of tags and of the text behind handles. -/
def isTagChar (c : Char) : Bool :=
  c.isAlphanum || "-;/?:@&=+$,_.!~*'()[]%".toList.contains c

/-- Bytes written by a per cent sign and two hexadecimal digits each, newest first. -/
def tagBytes (fuel : Nat) (bytes : List UInt8) (c : Cursor) :
    Except Error (List UInt8 × Cursor) := do
  match fuel, c.peek with
  | fuel + 1, some '%' =>
    let c ← c.next
    let n ← Scalar.code 2 c
    tagBytes fuel (n.toUInt8 :: bytes) (← c.forward 2)
  | _, _ => pure (bytes, c)

/-- The text of a tag, newest character first. -/
def tagChars (fuel : Nat) (text : List Char) (c : Cursor) : Except Error (List Char × Cursor) := do
  match fuel, c.peek with
  | fuel + 1, some ch =>
    if ch = '%' then
      let (bytes, c) ← tagBytes (c.bound + 1) [] c
      match String.fromUTF8? ⟨bytes.reverse.toArray⟩ with
      | some s => tagChars fuel (s.toList.reverse ++ text) c
      | none => throw .malformed
    else if isTagChar ch then tagChars fuel (ch :: text) (← c.next)
    else pure (text, c)
  | _, _ => pure (text, c)

def tagText (c : Cursor) : Except Error (String × Cursor) := do
  let start := c.index
  let (text, c) ← tagChars (c.bound + 1) [] c
  if c.index = start then throw .malformed
  pure (String.ofList text.reverse, c)

/-- A handle: one exclamation mark, or a name between two of them. -/
def tagHandle (c : Cursor) : Except Error (String × Cursor) := do
  if c.peek ≠ some '!' then throw .malformed
  let (name, c) ← (← c.next).span isNameChar
  if c.peek = some '!' then pure (String.ofList ('!' :: name ++ ['!']), ← c.next)
  else if name.isEmpty ∧ c.peek = some ' ' then pure ("!", c)
  else throw .malformed

/-- A decimal number of a directive. -/
def directiveNumber (c : Cursor) : Except Error (Int × Cursor) := do
  let (digits, c) ← c.span Char.isDigit
  if digits.isEmpty then throw .malformed
  pure (← Scalar.integer 10 (digits.map .char), c)

def directiveOf (name : String) (c : Cursor) : Except Error (Directive × Cursor) := do
  match name with
  | "YAML" =>
    let (major, c) ← directiveNumber (← c.skipSpaces)
    if c.peek ≠ some '.' then throw .malformed
    let (_, c) ← directiveNumber (← c.next)
    if !c.atSpaceOrEnd then throw .malformed
    pure (.version major, c)
  | "TAG" =>
    let (handle, c) ← tagHandle (← c.skipSpaces)
    if c.peek ≠ some ' ' then throw .malformed
    let (lead, c) ← tagText (← c.skipSpaces)
    if !c.atSpaceOrEnd then throw .malformed
    pure (.tag handle lead, c)
  | _ => pure (.other, ← c.skip (!isBreak ·))

def directive : Step := fun s => do
  let s ← s.leaveBlocks
  let (name, c) ← (← s.cursor.next).span isNameChar
  if name.isEmpty ∨ !c.atSpaceOrEnd then throw .malformed
  let (d, c) ← directiveOf (String.ofList name) c
  let c ← c.skipToBreak
  if !c.atBreakOrEnd then throw .malformed
  let (_, cursor) ← c.lineBreak?
  pure ({ s with cursor }.push (.directive d))

def flowStart (t : Token) : Step := fun s => do
  let s ← s.rememberKey
  pure ((← { s with depth := s.depth + 1, keyAllowed := true }.forward 1).push t)

def flowEnd (t : Token) : Step := fun s => do
  let s ← s.forgetKey
  pure ((← { s with depth := s.depth - 1, keyAllowed := false }.forward 1).push t)

def flowEntry : Step := fun s => do
  let s ← { s with keyAllowed := true }.forgetKey
  pure ((← s.forward 1).push .flowEntry)

/-- Begins a block collection here if none stands here; only where a key may begin. -/
def beginBlock (t : Token) : Step := fun s =>
  if s.inFlow then .ok s
  else if !s.keyAllowed then .error .malformed
  else
    let (s, added) := s.addIndent s.column
    .ok (if added then s.push t else s)

def blockEntry : Step := fun s => do
  let s ← s.beginBlock .blockSequenceStart
  let s ← { s with keyAllowed := true }.forgetKey
  pure ((← s.forward 1).push .blockEntry)

def explicitKey : Step := fun s => do
  let s ← s.beginBlock .blockMappingStart
  let s ← { s with keyAllowed := !s.inFlow }.forgetKey
  pure ((← s.forward 1).push .key)

/-- A colon: what stands at the remembered place is its key. -/
def value : Step := fun s => do
  let s ← match s.keyStarts.lookup s.depth with
    | some k =>
      let s := { s with
        keyStarts := s.keyStarts.filter (·.1 != s.depth)
        keyAllowed := false }.insert k.before .key
      if s.inFlow then pure s
      else
        let (s, added) := s.addIndent k.column
        pure (if added then s.insert k.before .blockMappingStart else s)
    | none =>
      let s ← s.beginBlock .blockMappingStart
      { s with keyAllowed := !s.inFlow }.forgetKey
  pure ((← s.forward 1).push .value)

/-- An anchor, or a reference to one. -/
def anchor (token : String → Token) : Step := fun s => do
  let s ← s.rememberKey
  let (name, cursor) ← (← s.cursor.next).span isNameChar
  let mayFollow (ch : Char) : Bool := isBlankOrBreak ch || "?:,]\x7d%@\x60".toList.contains ch
  if name.isEmpty ∨ !Cursor.endOr mayFollow cursor.peek then throw .malformed
  pure ({ s with keyAllowed := false, cursor }.push (token (String.ofList name)))

/-- Whether an exclamation mark stands in the word that begins one character on. -/
def hasSecondMark (c : Cursor) : Except Error Bool := do
  let endsWord (ch : Char) : Bool := ch == ' ' || isBreak ch
  match (c.rest.drop 1).find? fun ch => ch == '!' || endsWord ch with
  | some ch => pure (ch == '!')
  | none => c.atEnd false

/-- A tag: whole between angle brackets, or behind a handle. -/
def tag : Step := fun s => do
  let s ← s.rememberKey
  let c := s.cursor
  let (token, cursor) ←
    if (← c.peekAt 1) = some '<' then do
      let (text, c) ← tagText (← c.forward 2)
      if c.peek ≠ some '>' then throw Error.malformed
      pure (Token.tag none text, ← c.next)
    else if ← c.blankAt 1 then pure (Token.tag none "!", ← c.next)
    else do
      let (handle, c) ← if ← hasSecondMark c then tagHandle c else pure ("!", ← c.next)
      let (text, c) ← tagText c
      pure (Token.tag (some handle) text, c)
  if !cursor.atSpaceOrEnd then throw .malformed
  pure ({ s with keyAllowed := false, cursor }.push token)

def blockScalar : Step := fun s => do
  let s ← { s with keyAllowed := true }.forgetKey
  let (text, cursor) ← Scalar.block s.indent s.cursor
  pure ({ s with cursor }.push (.scalar (Text.codePoints text) false))

def quotedScalar : Step := fun s => do
  let s ← s.rememberKey
  let (text, cursor) ← Scalar.quoted s.cursor
  pure ({ s with cursor, keyAllowed := false }.push (.scalar text false))

def plainScalar : Step := fun s => do
  let s ← s.rememberKey
  let (text, cursor, keyAllowed) ← Scalar.plain s.indent s.inFlow false s.cursor
  pure ({ s with cursor, keyAllowed }.push (.scalar (Text.codePoints text) true))

/-- The characters that never begin a plain scalar on their own. -/
def isIndicator (c : Char) : Bool :=
  isBlankOrBreak c || "-?:,[]\x7b\x7d#&*!|>'\"%@\x60".toList.contains c

/-- Whether a plain scalar begins with this character, which is the next one. -/
def beginsPlain (s : TokenStream) (ch : Char) : Except Error Bool := do
  if !isIndicator ch then pure true
  else if ← s.cursor.blankAt 1 then pure false
  else pure (ch == '-' || (!s.inFlow && (ch == '?' || ch == ':')))

/-- A token that begins with this character, which is the next one, unless it is a mark of the whole
document. -/
def inner (ch : Char) : Step := fun s => do
  match ch with
  | '[' => flowStart .flowSequenceStart s
  | '\x7b' => flowStart .flowMappingStart s
  | ']' => flowEnd .flowSequenceEnd s
  | '\x7d' => flowEnd .flowMappingEnd s
  | ',' => flowEntry s
  | '*' => anchor .reference s
  | '&' => anchor .anchor s
  | '!' => tag s
  | '\'' | '"' => quotedScalar s
  | _ =>
    if ch = '-' then
      if ← s.cursor.blankAt 1 then return ← blockEntry s
    if ch = '?' ∨ ch = ':' then
      if ← pure s.inFlow <||> s.cursor.blankAt 1 then
        return ← if ch = '?' then explicitKey s else value s
    if (ch = '|' ∨ ch = '>') ∧ !s.inFlow then blockScalar s
    else if ← beginsPlain s ch then plainScalar s
    else throw .malformed

/-- One token more, with what it entails. The place is not at a gap. -/
def scanToken : Step := fun s => do
  let c := s.cursor
  match c.peek with
  | none => streamEnd s
  | some ch =>
    if c.column = 0 then
      if ch = '%' then return ← directive s
      if ch = '-' then
        if ← c.atMark '-' then return ← documentMark .documentStart s
      if ch = '.' then
        if ← c.atMark '.' then return ← documentMark .documentEnd s
    inner ch s

/-- Goes on by one token of the text. -/
def scanMore : Step := fun s => do
  let s ← s.skipGap (s.cursor.bound + 1)
  let s ← s.dropStaleKeys
  scanToken (s.unwind s.column)

/-- Goes on until the next token is there and cannot become a key any more. Every token but the last
takes at least one character. -/
def fill (fuel : Nat) (s : TokenStream) : Except Error TokenStream := do
  match fuel with
  | 0 => pure s
  | fuel + 1 =>
    if s.isDone then pure s
    else if s.waiting.isEmpty then fill fuel (← s.scanMore)
    else
      let s ← s.dropStaleKeys
      if s.keyStarts.any (·.2.before == s.used) then fill fuel (← s.scanMore) else pure s

/-- The next token, and the stream with it still to be used. -/
def peek (s : TokenStream) : Except Error (Token × TokenStream) := do
  let s ← s.fill (s.cursor.bound + 2)
  pure (s.waiting.headD .streamEnd, s)

/-- The stream without its next token. -/
def drop (s : TokenStream) : TokenStream :=
  { s with waiting := s.waiting.drop 1, used := s.used + 1 }

end TokenStream

/-- The tokens of a text, none of which has been scanned yet. A byte order mark in front is no part of
the text. -/
def TokenStream.ofSource (source : Source) : Except Error TokenStream := do
  let text := match source.chars with
    | '\ufeff' :: rest => rest
    | chars => chars
  let cursor : Cursor := { rest := text, beyond? := source.beyond? }
  pure { cursor := ← cursor.checked }

end ObjectStorage.Yaml
