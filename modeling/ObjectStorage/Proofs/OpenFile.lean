import ObjectStorage.OpenFile
import ObjectStorage.Proofs.Upload.Attempt

/-! What is read of an open file. The reads of a size that end without a fault have given all of its
bytes (`OpenFile.data_reads`). -/

namespace ObjectStorage

open Upload

/-- A fault behind so many reads is not met if the reads end without one. -/
theorem Upload.Source.data_take {source : Source} {count : Nat} {e : Fault}
    (ended : Source.ending (source.take count ++ [.error e]) = .ok ()) :
    Source.data (source.take count ++ [.error e]) = source.data := by
  unfold Source.data
  induction source generalizing count with
  | nil => simp [Source.ending] at ended
  | cons read source ih =>
    cases count with
    | zero => simp [Source.ending] at ended
    | succ count =>
      rw [List.take_succ_cons, List.cons_append] at ended ⊢
      cases read with
      | error e => cases ended
      | ok data =>
        by_cases empty : data.isEmpty = true
        · simp only [Source.pieces, empty, ↓reduceIte]
        · simp only [Source.ending, empty, Bool.false_eq_true, ↓reduceIte] at ended
          simp only [Source.pieces, empty, Bool.false_eq_true, ↓reduceIte, joined_cons, ih ended]

theorem data_piecesFrom (data : ByteArray) {size : Nat} (positive : 0 < size)
    (count position : Nat) :
    Source.data (piecesFrom data size count position) =
      data.extract position (position + count * size) := by
  unfold Source.data
  induction count generalizing position with
  | zero => simp [piecesFrom, Source.pieces]
  | succ count ih =>
    simp only [piecesFrom, Source.pieces]
    split
    · rename_i empty
      have nothing : data.extract position (position + size) = .empty := by
        apply ByteArray.size_eq_zero_iff.mp
        simpa [ByteArray.isEmpty] using empty
      have beyond : data.size ≤ position := by
        have front := ByteArray.extract_eq_empty_iff.mp nothing
        omega
      apply Eq.symm
      rw [joined_nil, ByteArray.extract_eq_empty_iff]
      exact Nat.le_trans (Nat.min_le_right _ _) beyond
    · have whole : position + (count + 1) * size = position + size + count * size := by
        rw [Nat.succ_mul]
        omega
      rw [joined_cons, ih, whole, ← ByteArray.extract_eq_extract_append_extract]
      · omega
      · omega

/-- The pieces of data make up all of it, but for reads of no bytes. -/
theorem data_piecesOf (data : ByteArray) {size : Int} (some : size ≠ 0) :
    Source.data (piecesOf data size) = data := by
  by_cases negative : size < 0
  · simp only [piecesOf, negative, ↓reduceIte, Source.data, Source.pieces]
    split
    · rename_i blank
      exact (ByteArray.size_eq_zero_iff.mp (by simpa [ByteArray.isEmpty] using blank)).symm
    · simp [joined_cons]
  · have positive : 0 < size.toNat := by omega
    have enough : data.size ≤ (data.size + size.toNat - 1) / size.toNat * size.toNat := by
      have division := Nat.div_add_mod' (data.size + size.toNat - 1) size.toNat
      have less := Nat.mod_lt (data.size + size.toNat - 1) positive
      omega
    simp only [piecesOf, negative, some, ↓reduceIte]
    rw [data_piecesFrom data positive, Nat.zero_add, extract_of_size_le enough,
      ByteArray.extract_zero_size]

namespace OpenFile

variable (file : OpenFile) {size : Int}

theorem data_reads (some : size ≠ 0) (ended : (file.reads size).ending = .ok ()) :
    (file.reads size).data = file.data := by
  cases failing : file.failure? size with
  | none =>
    simp only [reads, failing]
    exact data_piecesOf file.data some
  | some failure =>
    simp only [reads, failing] at ended ⊢
    rw [Source.data_take ended, data_piecesOf file.data some]

end OpenFile

end ObjectStorage
