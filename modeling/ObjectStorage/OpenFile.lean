import ObjectStorage.Upload.Operations

/-! Files that are open for reading: the pieces that their bytes come in, and the reads that fail. -/

namespace ObjectStorage

/-- The pieces of at most `size` bytes that data is read in, from a position on. -/
def piecesFrom (data : ByteArray) (size : Nat) : (count position : Nat) → Upload.Source
  | 0, _ => []
  | count + 1, position =>
    .ok (data.extract position (position + size)) ::
      piecesFrom data size count (position + size)

/-- The pieces of `readSize` bytes that data is read in: all of it at once if the size is negative,
and nothing if it is zero. -/
def piecesOf (data : ByteArray) (readSize : Int) : Upload.Source :=
  if readSize < 0 then [.ok data]
  else if readSize = 0 then []
  else
    let size := readSize.toNat
    piecesFrom data size ((data.size + size - 1) / size) 0

/-- A file that is open for reading. -/
structure OpenFile where
  data : ByteArray
  /-- Of the reads of a size, how many give their bytes before one fails, and what it fails with. -/
  failure? : Int → Option (Nat × Fault)

namespace OpenFile

/-- What is read of a file, so many bytes at a time. -/
def reads (file : OpenFile) (readSize : Int) : Upload.Source :=
  match file.failure? readSize with
  | none => piecesOf file.data readSize
  | some (count, e) => (piecesOf file.data readSize).take count ++ [.error e]

/-- The greatest number of bytes that can be asked for at once. -/
def readLimit : Int := Nat.pow 2 63 - 1

/-- Data that is there already. A read of it fails only if no machine can address so much. -/
def inMemory (data : ByteArray) : OpenFile where
  data
  failure? readSize :=
    if readSize < -readLimit - 1 ∨ readLimit < readSize then some (0, .oversizedRead) else none

/-- The greatest block of bytes: a few bytes are needed to describe it. -/
def blockLimit : Int := readLimit - 33

/-- Data that is fetched by the reads themselves, where there is room for so many bytes. The room for
a whole read is made before it, however little there is to read. -/
def fetched (room : Int) (data : ByteArray) : OpenFile where
  data
  failure? readSize :=
    if readLimit < readSize then some (0, .oversizedRead)
    else if blockLimit < readSize then some (0, .oversizedBlock)
    else if room < readSize then some (0, .noRoom)
    else none

end OpenFile

end ObjectStorage
