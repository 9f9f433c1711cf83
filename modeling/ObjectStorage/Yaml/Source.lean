import ObjectStorage.Text.Reader
import ObjectStorage.Yaml.Error

/-! The text of a document as far as it can be read. A file is read in pieces, and a piece in which
something is wrong is out of reach as a whole. -/

namespace ObjectStorage.Yaml

/-- The characters that a document may hold. -/
def isAllowed (c : Char) : Bool :=
  c == '\t' || c == '\n' || c == '\r' || (' ' ≤ c && c ≤ '~') || c == '\x85' ||
    ('\u00a0' ≤ c && c ≤ '\ud7ff') || ('\ue000' ≤ c && c ≤ '\ufffd') || 0x10000 ≤ c.toNat

structure Source where
  chars : List Char
  /-- What is wrong with the text after these characters; nothing if they are all. -/
  beyond? : Option Error := none

namespace Source

/-- The number of characters in a piece. The first piece is twice as long. -/
def pieceSize : Nat := 4096

/-- The characters of a piece, all of which must be allowed. -/
def accepted (piece : List Char) : Except Error (List Char) :=
  if piece.all isAllowed then .ok piece else .error .malformed

/-- One piece more; a piece without characters is the end. -/
def nextPiece (reader : Text.Reader) : Except Error (List Char × Text.Reader) := do
  let (piece, reader) ← (reader.read pieceSize).mapError .encoding
  pure (← accepted piece, reader)

/-- The first piece. -/
def firstPiece (reader : Text.Reader) : Except Error (List Char × Text.Reader) := do
  let (front, reader) ← (reader.read pieceSize).mapError .encoding
  let (back, reader) ← (reader.read pieceSize).mapError .encoding
  pure (← accepted (front ++ back), reader)

/-- The text after some pieces, which come newest first. -/
def collect (fuel : Nat) (pieces : List (List Char)) (reader : Text.Reader) : Source :=
  match fuel with
  | 0 => ⟨pieces.reverse.flatten, none⟩
  | fuel + 1 =>
    match nextPiece reader with
    | .error e => ⟨pieces.reverse.flatten, some e⟩
    | .ok ([], _) => ⟨pieces.reverse.flatten, none⟩
    | .ok (piece, reader) => collect fuel (piece :: pieces) reader

/-- The text that the bytes of a file hold. -/
def ofBytes (bytes : ByteArray) : Source :=
  match firstPiece { bytes } with
  | .error e => ⟨[], some e⟩
  | .ok (piece, reader) => collect (bytes.size / pieceSize + 2) [piece] reader

end Source

end ObjectStorage.Yaml
