import ObjectStorage.Yaml.TokenStream

/-! The nodes of a document. A node may stand in several places, and even inside itself, so nodes
are numbered and their children given by number. The text is scanned no further than the nodes ask
for, so that what is wrong with them is found before what is wrong with the text after them. -/

namespace ObjectStorage.Yaml

inductive Node where
  | scalar (tag : Tag) (text : List Text.CodePoint)
  | sequence (tag : Tag) (items : List Nat)
  | mapping (tag : Tag) (entries : List (Nat × Nat))

/-- How many nodes or pairs of nodes stand in a node. -/
def Node.size : Node → Nat
  | .scalar .. => 0
  | .sequence _ items => items.length
  | .mapping _ entries => entries.length

/-- What is known while nodes are made of tokens. -/
structure Builder where
  stream : TokenStream
  nodes : Array Node := #[]
  anchors : List (String × Nat) := []
  /-- What the handles of tags stand for. -/
  handles : List (String × String) := []
  /-- How many collections the next node stands in. -/
  depth : Nat := 0

namespace Builder

abbrev Build := StateT Builder (Except Error)

/-- What handles stand for unless a document says otherwise. -/
def usualHandles : List (String × String) := [("!", "!"), ("!!", Tag.home)]

def malformed {α : Type} : Build α := throw .malformed

/-- The next token. -/
def peek : Build Token := do
  let (token, stream) ← (← get).stream.peek
  modify fun b => { b with stream }
  pure token

/-- Goes on by one token, which has been looked at. -/
def skip : Build Unit := modify fun b => { b with stream := b.stream.drop }

/-- Goes on by one token, which must be this one. -/
def expect (t : Token) : Build Unit := do
  if (← peek) = t then skip else malformed

/-- Goes on by one token if it is this one, and tells whether it was. -/
def accept (t : Token) : Build Bool := do
  if (← peek) = t then
    skip
    pure true
  else pure false

/-- Whether the next token is one of these. -/
def peekIn (ts : List Token) : Build Bool := do
  pure (ts.contains (← peek))

/-- Adds a node. -/
def add (node : Node) : Build Nat := do
  let n := (← get).nodes.size
  modify fun b => { b with nodes := b.nodes.push node }
  pure n

/-- The node where there is nothing. -/
def addEmpty : Build Nat := add (.scalar .null [])

/-- Puts a node in the place of one that was added before. -/
def replace (n : Nat) (node : Node) : Build Unit :=
  modify fun b => { b with nodes := b.nodes.setIfInBounds n node }

/-- The full name of a tag; an unknown handle is an error. -/
def tagName (handle? : Option String) (suffix : String) : Build String := do
  match handle? with
  | none => pure suffix
  | some handle =>
    match (← get).handles.lookup handle with
    | some lead => pure (lead ++ suffix)
    | none => malformed

/-- What may stand before a node: an anchor and a full tag, in either order. -/
def properties : Build (Option String × Option String) := do
  match ← peek with
  | .anchor name =>
    skip
    match ← peek with
    | .tag handle? suffix =>
      skip
      pure (some name, some (← tagName handle? suffix))
    | _ => pure (some name, none)
  | .tag handle? suffix =>
    skip
    match ← peek with
    | .anchor name =>
      skip
      pure (some name, some (← tagName handle? suffix))
    | _ => pure (none, some (← tagName handle? suffix))
  | _ => pure (none, none)

/-- An anchor may name one node of a document only. -/
def setAnchor (anchor? : Option String) (n : Nat) : Build Unit := do
  match anchor? with
  | none => pure ()
  | some name =>
    if ((← get).anchors.lookup name).isSome then malformed
    modify fun b => { b with anchors := (name, n) :: b.anchors }

/-- The tag of a scalar. One without a tag, or with a lone exclamation mark, has a tag by its looks
unless it is quoted and has no mark. -/
def scalarTag (tag? : Option String) (text : List Text.CodePoint) (plain : Bool) : Tag :=
  match tag? with
  | none => if plain then Tag.ofLooks text else .text
  | some name => if name = "!" then Tag.ofLooks text else Tag.ofName name

/-- The tag of a collection. -/
def collectionTag (tag? : Option String) (usual : Tag) : Tag :=
  match tag? with
  | none => usual
  | some name => if name = "!" then usual else Tag.ofName name

/-- How many collections may stand in one another. The reader is recursive: each collection takes two
of the thousand calls that may be open at once, and the program around it takes a few. -/
def depthLimit : Nat := 490

/-- The contents of a collection. -/
def inside {α : Type} (contents : Build α) : Build α := do
  let depth := (← get).depth
  if depthLimit ≤ depth then throw .endless
  modify fun b => { b with depth := depth + 1 }
  let result ← contents
  modify fun b => { b with depth }
  pure result

/-- Adds a sequence whose items come after it. -/
def addSequence (anchor? tag? : Option String) (items : Build (List Nat)) : Build Nat := do
  let tag := collectionTag tag? .sequence
  let n ← add (.sequence tag [])
  setAnchor anchor? n
  replace n (.sequence tag (← inside items))
  pure n

/-- Adds a mapping whose entries come after it. -/
def addMapping (anchor? tag? : Option String) (entries : Build (List (Nat × Nat))) :
    Build Nat := do
  let tag := collectionTag tag? .mapping
  let n ← add (.mapping tag [])
  setAnchor anchor? n
  replace n (.mapping tag (← inside entries))
  pure n

/-- Where a node may stand: in a block, after a key of a block, or in a flow collection. -/
inductive Context where
  | block
  | entry
  | flow
  deriving DecidableEq

mutual

/-- One node. After a key of a block, a sequence need not be indented. -/
def node (fuel : Nat) (context : Context) : Build Nat := do
  match fuel with
  | 0 => malformed
  | fuel + 1 =>
    if let .reference name ← peek then
      skip
      match (← get).anchors.lookup name with
      | some n => pure n
      | none => malformed
    else
      let (anchor?, tag?) ← properties
      match ← peek, context with
      | .blockEntry, .entry => addSequence anchor? tag? (looseItems fuel [])
      | .scalar text plain, _ =>
        skip
        let n ← add (.scalar (scalarTag tag? text plain) text)
        setAnchor anchor? n
        pure n
      | .flowSequenceStart, _ =>
        skip
        addSequence anchor? tag? (flowItems fuel [])
      | .flowMappingStart, _ =>
        skip
        addMapping anchor? tag? (flowEntries fuel [])
      | .blockSequenceStart, .block | .blockSequenceStart, .entry =>
        skip
        addSequence anchor? tag? (blockItems fuel [])
      | .blockMappingStart, .block | .blockMappingStart, .entry =>
        skip
        addMapping anchor? tag? (blockEntries fuel [])
      | _, _ =>
        if anchor?.isNone ∧ tag?.isNone then malformed
        else
          let plain := tag?.isNone
          let n ← add (.scalar (scalarTag tag? [] plain) [])
          setAnchor anchor? n
          pure n

/-- A node, or the empty one before one of these tokens. -/
def nodeUnless (fuel : Nat) (context : Context) (ends : List Token) : Build Nat := do
  match fuel with
  | 0 => malformed
  | fuel + 1 => if ← peekIn ends then addEmpty else node fuel context

/-- The items of a block sequence, after those that are there, newest first. -/
def blockItems (fuel : Nat) (items : List Nat) : Build (List Nat) := do
  match fuel with
  | 0 => malformed
  | fuel + 1 =>
    if ← accept .blockEntry then
      let item ← nodeUnless fuel .block [.blockEntry, .blockEnd]
      blockItems fuel (item :: items)
    else
      expect .blockEnd
      pure items.reverse

/-- The items of a sequence that is not indented; it ends with the entry that it belongs to. -/
def looseItems (fuel : Nat) (items : List Nat) : Build (List Nat) := do
  match fuel with
  | 0 => malformed
  | fuel + 1 =>
    if ← accept .blockEntry then
      let item ← nodeUnless fuel .block [.blockEntry, .key, .value, .blockEnd]
      looseItems fuel (item :: items)
    else pure items.reverse

/-- The entries of a block mapping. -/
def blockEntries (fuel : Nat) (entries : List (Nat × Nat)) : Build (List (Nat × Nat)) := do
  match fuel with
  | 0 => malformed
  | fuel + 1 =>
    if ← accept .key then
      let key ← nodeUnless fuel .entry [.key, .value, .blockEnd]
      let value ←
        if ← accept .value then nodeUnless fuel .entry [.key, .value, .blockEnd] else addEmpty
      blockEntries fuel ((key, value) :: entries)
    else
      expect .blockEnd
      pure entries.reverse

/-- The items of a flow sequence; a single entry of a mapping may stand for an item. -/
def flowItems (fuel : Nat) (items : List Nat) : Build (List Nat) := do
  match fuel with
  | 0 => malformed
  | fuel + 1 =>
    if ← accept .flowSequenceEnd then pure items.reverse
    else
      if !items.isEmpty then expect .flowEntry
      if ← accept .flowSequenceEnd then pure items.reverse
      else if ← accept .key then
        let item ← addMapping none none do
          let key ← nodeUnless fuel .flow [.value, .flowEntry, .flowSequenceEnd]
          let value ←
            if ← accept .value then nodeUnless fuel .flow [.flowEntry, .flowSequenceEnd]
            else addEmpty
          pure [(key, value)]
        flowItems fuel (item :: items)
      else
        let item ← node fuel .flow
        flowItems fuel (item :: items)

/-- The entries of a flow mapping; a node alone is a key. -/
def flowEntries (fuel : Nat) (entries : List (Nat × Nat)) : Build (List (Nat × Nat)) := do
  match fuel with
  | 0 => malformed
  | fuel + 1 =>
    if ← accept .flowMappingEnd then pure entries.reverse
    else
      if !entries.isEmpty then expect .flowEntry
      if ← accept .flowMappingEnd then pure entries.reverse
      else if ← accept .key then
        let key ← nodeUnless fuel .flow [.value, .flowEntry, .flowMappingEnd]
        let value ←
          if ← accept .value then nodeUnless fuel .flow [.flowEntry, .flowMappingEnd]
          else addEmpty
        flowEntries fuel ((key, value) :: entries)
      else
        let key ← node fuel .flow
        let value ← addEmpty
        flowEntries fuel ((key, value) :: entries)

end

/-- The directives before a document, for the handles they have set so far. -/
def directives (fuel : Nat) (versioned : Bool) (handles : List (String × String)) : Build Unit := do
  match fuel, ← peek with
  | fuel + 1, .directive d =>
    skip
    match d with
    | .version major =>
      if versioned ∨ major ≠ 1 then malformed
      directives fuel true handles
    | .tag handle lead =>
      if (handles.lookup handle).isSome then malformed
      directives fuel versioned ((handle, lead) :: handles)
    | .other => directives fuel versioned handles
  | _, _ => modify fun b => { b with handles := handles ++ usualHandles }

def isDirective : Token → Bool
  | .directive _ => true
  | _ => false

/-- Skips the marks of the end of a document. -/
def skipEnds (fuel : Nat) : Build Unit := do
  match fuel with
  | 0 => malformed
  | fuel + 1 => if ← accept .documentEnd then skipEnds fuel

/-- The root of the only document, if there is one. -/
def document (fuel : Nat) : Build (Option Nat) := do
  let first ← peek
  if first = .streamEnd then pure none
  else
    let root ←
      if isDirective first ∨ first = .documentStart then do
        directives fuel false []
        expect .documentStart
        let next ← peek
        if isDirective next ∨ [.documentStart, .documentEnd, .streamEnd].contains next then addEmpty
        else node fuel .block
      else do
        modify fun b => { b with handles := usualHandles }
        node fuel .block
    skipEnds fuel
    if (← peek) ≠ .streamEnd then
      directives fuel false []
      malformed
    pure (some root)

end Builder

/-- The nodes of a document and its root, if it has one. -/
structure Graph where
  nodes : Array Node
  root? : Option Nat

/-- The document that a text holds. A character leads to four tokens at most, and each of them to a
few steps. -/
def Graph.ofSource (source : Source) : Except Error Graph := do
  let fuel := 16 * source.chars.length + 64
  let stream ← TokenStream.ofSource source
  let (root?, builder) ← Builder.document fuel |>.run { stream }
  pure ⟨builder.nodes, root?⟩

end ObjectStorage.Yaml
