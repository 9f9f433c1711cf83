import ObjectStorage.Proofs.Pieces
import ObjectStorage.Yaml.Source

/-! Short files: what fits into one block is read as a whole, however many characters are wanted at
a time (`Source.ofBytes_short`). -/

namespace ObjectStorage

namespace Text

theorem unifyNewlines_of_plain {chars : List Char} (plain : '\r' ∉ chars) :
    unifyNewlines chars = chars := by
  induction chars with
  | nil => rfl
  | cons c rest ih =>
    obtain ⟨other, further⟩ := not_or.mp fun member => plain (List.mem_cons.mpr member)
    unfold unifyNewlines
    split
    · rename_i same
      cases same
    · rename_i same
      cases same
      exact absurd rfl other
    · rename_i same
      cases same
      rw [if_neg (Ne.symm other), ih further]

namespace Reader

variable {r : Reader} {bytes : ByteArray} {chars : List Char} {count : Nat}

/-- Characters without a carriage return are given out as they are. -/
theorem settle_of_plain (plain : '\r' ∉ chars) (atEnd : Bool) :
    settle false atEnd chars = (chars, false) := by
  have last : chars.getLast? ≠ some '\r' := fun same => plain (List.mem_of_getLast? same)
  unfold settle
  by_cases idle : chars.isEmpty ∧ !atEnd
  · rw [if_pos idle, List.isEmpty_iff.mp idle.1]
  · simp only [idle, ↓reduceIte, Bool.false_eq_true, last, false_and,
      unifyNewlines_of_plain plain]

/-- All bytes have been read, and no character was cut off. -/
structure AtEnd (r : Reader) : Prop where
  size_le : r.bytes.size ≤ r.position
  left_eq : r.left = []
  whole : r.halfEnding = false

theorem nextBlock_of_atEnd (atEnd : r.AtEnd) (wanted : Nat) :
    r.nextBlock wanted = .ok (true, { r with width := 0.0 }) := by
  have nothing : r.bytes.extract r.position (r.position + r.sizeFor wanted) = .empty :=
    ByteArray.extract_eq_empty_iff.mpr (Nat.le_trans (Nat.min_le_right _ _) atEnd.size_le)
  obtain ⟨bytes, position, left, halfEnding, ready, width⟩ := r
  obtain ⟨_, rfl, rfl⟩ := atEnd
  have none : ByteArray.empty.isEmpty = true := rfl
  simp only [nextBlock, nothing, none]
  simp [settle, unifyNewlines, decodeEnd, utf8Front, bind, Except.bind, pure, Except.pure]

/-- At the end there is nothing more than what is ready. -/
theorem read_of_atEnd (atEnd : r.AtEnd) (few : r.ready.length < count) :
    r.read count = .ok (r.ready, { r with ready := [], width := 0.0 }) := by
  have more : ¬ count ≤ r.ready.length := Nat.not_le_of_lt few
  simp [read, prepare, more, nextBlock_of_atEnd atEnd, bind, Except.bind, pure, Except.pure,
    List.take_of_length_le (Nat.le_of_lt few), Nat.le_of_lt few]

/-- The first block of a short file is all of it. -/
theorem nextBlock_first (short : bytes.size ≤ blockSize) (nonempty : bytes.isEmpty = false)
    (decoded : decodeBlock (bytes.toList.length + 1) 0 [] bytes.toList = .ok (chars.reverse, []))
    (plain : '\r' ∉ chars) (wanted : Nat) :
    ∃ width, nextBlock { bytes } wanted =
      .ok (false, { bytes, position := bytes.size, ready := chars, width }) := by
  have enough : bytes.size ≤ sizeFor { bytes } wanted :=
    Nat.le_trans short (Nat.le_max_left _ _)
  have whole : bytes.extract 0 (sizeFor { bytes } wanted) = bytes := by
    rw [extract_of_size_le enough, ByteArray.extract_zero_size]
  simp [nextBlock, whole, nonempty, decoded, settle_of_plain plain, bind, Except.bind, pure,
    Except.pure]

/-- A short file is read at once. -/
theorem read_first (short : bytes.size ≤ blockSize) (nonempty : bytes.isEmpty = false)
    (decoded : decodeBlock (bytes.toList.length + 1) 0 [] bytes.toList = .ok (chars.reverse, []))
    (plain : '\r' ∉ chars) (few : chars.length < count) :
    read { bytes } count = .ok (chars, { bytes, position := bytes.size, width := 0.0 }) := by
  obtain ⟨width, first⟩ := nextBlock_first short nonempty decoded plain (count - 0)
  have atEnd : AtEnd { bytes, position := bytes.size, ready := chars, width } :=
    ⟨Nat.le_refl _, rfl, rfl⟩
  have some : ¬ count ≤ 0 := by omega
  have more : ¬ count ≤ chars.length := Nat.not_le_of_lt few
  rw [Nat.sub_zero] at first
  simp [read, prepare, some, more, first, nextBlock_of_atEnd atEnd, bind, Except.bind, pure,
    Except.pure, List.take_of_length_le (Nat.le_of_lt few), Nat.le_of_lt few]

end Reader

end Text

namespace Yaml.Source

open Text Text.Reader

/-- The text of a file that fits into one block and one piece. -/
theorem ofBytes_short {bytes : ByteArray} {chars : List Char} (short : bytes.size ≤ blockSize)
    (nonempty : bytes.isEmpty = false)
    (decoded : decodeBlock (bytes.toList.length + 1) 0 [] bytes.toList = .ok (chars.reverse, []))
    (plain : '\r' ∉ chars) (few : chars.length < pieceSize)
    (allowed : chars.all isAllowed = true) : ofBytes bytes = ⟨chars, none⟩ := by
  have positive : 0 < pieceSize := by decide
  have first := read_first short nonempty decoded plain few
  have rest := read_of_atEnd (r := { bytes, position := bytes.size, width := 0.0 })
    ⟨Nat.le_refl _, rfl, rfl⟩ positive
  have piece : firstPiece { bytes } =
      .ok (chars, { bytes, position := bytes.size, width := 0.0 }) := by
    simp only [firstPiece, first, rest, accepted, bind, Except.bind, pure, Except.pure,
      Except.mapError, List.append_nil, allowed, ↓reduceIte]
  have next : nextPiece { bytes, position := bytes.size, width := 0.0 } =
      .ok ([], { bytes, position := bytes.size, width := 0.0 }) := by
    simp only [nextPiece, rest, accepted, bind, Except.bind, pure, Except.pure, Except.mapError,
      List.all_nil, ↓reduceIte]
  unfold ofBytes
  rw [piece]
  dsimp only
  unfold collect
  rw [next]
  simp only [List.reverse_singleton, List.flatten_singleton]

end Yaml.Source

end ObjectStorage
