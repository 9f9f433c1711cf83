import Mathlib.Algebra.GroupWithZero.Nat
import Mathlib.Data.List.Induction

/-! Data in pieces of one size: where each piece lies in the whole, and what is left over. -/

namespace ObjectStorage

/-- Pieces of data, one after another. -/
def joined (pieces : List ByteArray) : ByteArray := pieces.foldl (· ++ ·) .empty

@[simp] theorem joined_nil : joined [] = .empty := rfl

@[simp] theorem joined_snoc (pieces : List ByteArray) (piece : ByteArray) :
    joined (pieces ++ [piece]) = joined pieces ++ piece := by
  simp [joined]

theorem joined_append (pieces more : List ByteArray) :
    joined (pieces ++ more) = joined pieces ++ joined more := by
  induction more using List.reverseRecOn with
  | nil => simp
  | append_singleton more piece ih =>
    rw [← List.append_assoc, joined_snoc, joined_snoc, ih, ByteArray.append_assoc]

theorem joined_cons (piece : ByteArray) (pieces : List ByteArray) :
    joined (piece :: pieces) = piece ++ joined pieces := by
  have one : joined [piece] = piece := by simp [joined]
  rw [← List.singleton_append, joined_append, one]

theorem size_joined (pieces : List ByteArray) :
    (joined pieces).size = (pieces.map ByteArray.size).sum := by
  induction pieces using List.reverseRecOn with
  | nil => rfl
  | append_singleton pieces piece ih => simp [ih]

/-- A part of data that reaches beyond its end stops there. -/
theorem extract_of_size_le {data : ByteArray} {start stop : Nat} (beyond : data.size ≤ stop) :
    data.extract start stop = data.extract start data.size := by
  apply ByteArray.ext
  rw [ByteArray.data_extract, ByteArray.data_extract]
  apply Array.extract_eq_extract_right.mpr
  rw [ByteArray.size_data]
  omega

/-- A front and what is behind it make up the whole. -/
theorem extract_append_rest {data : ByteArray} {size : Nat} (enough : size ≤ data.size) :
    data.extract 0 size ++ data.extract size data.size = data := by
  rw [← ByteArray.extract_eq_extract_append_extract size (Nat.zero_le size) enough,
    ByteArray.extract_zero_size]

/-- Data is cut into pieces of one size and a rest. -/
structure Cut (size : Nat) (pieces : List ByteArray) (rest data : ByteArray) : Prop where
  full : ∀ piece ∈ pieces, piece.size = size
  whole : joined pieces ++ rest = data

/-- Data is cut into pieces of one size, but the last piece may be smaller. -/
structure Parted (size : Nat) (pieces : List ByteArray) (data : ByteArray) : Prop where
  length_eq : pieces.length = (data.size + size - 1) / size
  piece_eq : ∀ (i : Nat) (within : i < pieces.length),
    pieces[i] = data.extract (i * size) ((i + 1) * size)
  full : ∀ (i : Nat) (more : i + 1 < pieces.length), pieces[i].size = size
  last : ∀ piece ∈ pieces.getLast?, 1 ≤ piece.size ∧ piece.size ≤ size

namespace Cut

variable {size : Nat} {pieces : List ByteArray} {rest data : ByteArray}

theorem nil (size : Nat) (data : ByteArray) : Cut size [] data data where
  full := by simp
  whole := by simp

/-- More data joins the rest. -/
theorem feed (cut : Cut size pieces rest data) (more : ByteArray) :
    Cut size pieces (rest ++ more) (data ++ more) where
  full := cut.full
  whole := by rw [← ByteArray.append_assoc, cut.whole]

/-- The front of the rest becomes a piece. -/
theorem snoc (cut : Cut size pieces rest data) (enough : size ≤ rest.size) :
    Cut size (pieces ++ [rest.extract 0 size]) (rest.extract size rest.size) data where
  full := by
    intro piece member
    rcases List.mem_append.mp member with old | new
    · exact cut.full piece old
    · rw [List.mem_singleton.mp new, ByteArray.size_extract]
      omega
  whole := by
    rw [joined_snoc, ByteArray.append_assoc, extract_append_rest enough, cut.whole]

theorem size_pieces (cut : Cut size pieces rest data) :
    (pieces.map ByteArray.size).sum = pieces.length * size := by
  have same : pieces.map ByteArray.size = List.replicate pieces.length size := by
    rw [List.map_eq_replicate_iff]
    exact cut.full
  rw [same, List.sum_replicate_nat]

theorem size_eq (cut : Cut size pieces rest data) :
    data.size = pieces.length * size + rest.size := by
  rw [← cut.whole, ByteArray.size_append, size_joined, cut.size_pieces]

theorem length_eq (cut : Cut size pieces rest data) (few : rest.size < size) :
    pieces.length = data.size / size := by
  rw [cut.size_eq, Nat.add_comm, Nat.add_mul_div_right _ _ (Nat.zero_lt_of_lt few),
    Nat.div_eq_of_lt few, Nat.zero_add]

theorem rest_size (cut : Cut size pieces rest data) (few : rest.size < size) :
    rest.size = data.size % size := by
  rw [cut.size_eq, Nat.add_comm, Nat.add_mul_mod_self_right, Nat.mod_eq_of_lt few]

theorem rest_eq (cut : Cut size pieces rest data) :
    rest = data.extract (pieces.length * size) data.size := by
  have front : pieces.length * size = (joined pieces).size := by
    rw [size_joined, cut.size_pieces]
  rw [← cut.whole, ByteArray.extract_append_eq_right front ByteArray.size_append]

theorem piece_eq (cut : Cut size pieces rest data) (i : Nat) (within : i < pieces.length) :
    pieces[i] = data.extract (i * size) ((i + 1) * size) := by
  have front : i * size = (joined (pieces.take i)).size := by
    have before : Cut size (pieces.take i) .empty (joined (pieces.take i)) :=
      ⟨fun piece member => cut.full piece (List.mem_of_mem_take member), by simp⟩
    rw [before.size_eq, List.length_take, Nat.min_eq_left (Nat.le_of_lt within)]
    simp
  have here : pieces[i].size = size := cut.full pieces[i] (List.getElem_mem within)
  have split : pieces = pieces.take i ++ ([pieces[i]] ++ pieces.drop (i + 1)) := by simp
  have apart : data =
      joined (pieces.take i) ++ (pieces[i] ++ (joined (pieces.drop (i + 1)) ++ rest)) := by
    have one : joined [pieces[i]] = pieces[i] := by simp [joined]
    rw [← cut.whole]
    conv => lhs; rw [split]
    rw [joined_append, joined_append, one, ByteArray.append_assoc, ByteArray.append_assoc]
  rw [apart, Nat.succ_mul, ← Nat.add_zero (i * size), Nat.add_assoc, Nat.zero_add,
    ByteArray.extract_append_size_add' front, ByteArray.extract_append_eq_left here.symm]

/-- Full pieces with nothing left over. -/
theorem parted (cut : Cut size pieces rest data) (positive : 0 < size) (done : rest.size = 0) :
    Parted size pieces data where
  length_eq := by
    have same : data.size + size - 1 = (size - 1) + pieces.length * size := by
      rw [cut.size_eq, done]
      omega
    rw [same, Nat.add_mul_div_right _ _ positive, Nat.div_eq_of_lt (by omega), Nat.zero_add]
  piece_eq := cut.piece_eq
  full i more := cut.full pieces[i] (List.getElem_mem _)
  last piece member := by
    rw [cut.full piece (List.mem_of_getLast? member)]
    exact ⟨positive, Nat.le_refl size⟩

/-- Full pieces, and the rest as the last one. -/
theorem parted_rest (cut : Cut size pieces rest data) (left : rest.size ≠ 0)
    (few : rest.size ≤ size) : Parted size (pieces ++ [rest]) data where
  length_eq := by
    have same : data.size + size - 1 = (rest.size - 1) + (pieces.length + 1) * size := by
      rw [cut.size_eq, Nat.succ_mul]
      omega
    have positive : 0 < size := by omega
    rw [same, Nat.add_mul_div_right _ _ positive, Nat.div_eq_of_lt (by omega), Nat.zero_add]
    simp
  piece_eq i within := by
    by_cases old : i < pieces.length
    · rw [List.getElem_append_left old]
      exact cut.piece_eq i old
    · have last : i = pieces.length := by
        simp at within
        omega
      subst last
      have beyond : data.size ≤ (pieces.length + 1) * size := by
        rw [cut.size_eq, Nat.succ_mul]
        omega
      rw [extract_of_size_le beyond, ← cut.rest_eq]
      simp
  full i more := by
    have old : i < pieces.length := by simpa using more
    rw [List.getElem_append_left old]
    exact cut.full pieces[i] (List.getElem_mem old)
  last piece member := by
    simp at member
    rw [← member]
    exact ⟨Nat.pos_of_ne_zero left, few⟩

end Cut

end ObjectStorage
