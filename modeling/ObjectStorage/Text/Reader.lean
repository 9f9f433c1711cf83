import ObjectStorage.Text.Utf8

/-! Text files, read some characters at a time: UTF-8 in blocks of bytes, with the three line endings
read as one. An error is found when its block is read; its position counts from what the block
before has left over. -/

namespace ObjectStorage.Text

/-- A text file that is being read. -/
structure Reader where
  bytes : ByteArray
  /-- Where the next block begins. -/
  position : Nat := 0
  /-- The bytes of a character that the last block cut off. -/
  left : List UInt8 := []
  /-- A carriage return was last, which may be the first half of a line ending. -/
  halfEnding : Bool := false
  /-- Characters that have been decoded and not been given out. -/
  ready : List Char := []
  /-- The average number of bytes for a character of the last block. -/
  width : Float := 0.0

/-- Every line ending becomes a line feed. -/
def unifyNewlines : List Char → List Char
  | [] => []
  | '\r' :: '\n' :: rest => '\n' :: unifyNewlines rest
  | c :: rest => (if c = '\r' then '\n' else c) :: unifyNewlines rest

namespace Reader

/-- The least number of bytes that a block holds. -/
def blockSize : Nat := 8192

/-- The number of bytes in a block from which so many characters are wanted: as many as they took in
the last block, and not too few. -/
def sizeFor (r : Reader) (wanted : Nat) : Nat :=
  let width := if r.width < 1.0 then 1.0 else r.width
  max blockSize (width * Float.ofNat wanted).toUInt64.toNat

/-- Decoded characters with their line endings unified, and whether a carriage return at the end is
held back. -/
def settle (halfEnding atEnd : Bool) (chars : List Char) : List Char × Bool :=
  if chars.isEmpty ∧ !atEnd then ([], halfEnding)
  else
    let chars := if halfEnding then '\r' :: chars else chars
    if chars.getLast? = some '\r' ∧ !atEnd then (unifyNewlines chars.dropLast, true)
    else (unifyNewlines chars, false)

/-- Reads one block; tells whether the end was found there. -/
def nextBlock (r : Reader) (wanted : Nat) : Except Utf8Error (Bool × Reader) := do
  let block := r.bytes.extract r.position (r.position + r.sizeFor wanted)
  let atEnd := block.isEmpty
  let (decoded, left) ←
    if atEnd then do
      decodeEnd r.left
      pure ([], [])
    else
      let bytes := r.left ++ block.toList
      decodeBlock (bytes.length + 1) 0 [] bytes
  let (chars, halfEnding) := settle r.halfEnding atEnd decoded.reverse
  let width :=
    if chars.isEmpty then 0.0 else Float.ofNat block.size / Float.ofNat chars.length
  pure (atEnd ∧ chars.isEmpty,
    { r with
      position := r.position + block.size, left, halfEnding, width, ready := r.ready ++ chars })

/-- Reads blocks until so many characters are ready or the end is found. -/
def prepare (fuel : Nat) (r : Reader) (count : Nat) : Except Utf8Error Reader := do
  match fuel with
  | 0 => pure r
  | fuel + 1 =>
    let ready := r.ready.length
    if count ≤ ready then pure r
    else
      let (isEnd, r) ← r.nextBlock (count - ready)
      if isEnd then pure r else prepare fuel r count

/-- Reads so many characters, or fewer at the end. -/
def read (r : Reader) (count : Nat) : Except Utf8Error (List Char × Reader) := do
  let r ← prepare (r.bytes.size + 2) r count
  pure (r.ready.take count, { r with ready := r.ready.drop count })

end Reader

end ObjectStorage.Text
