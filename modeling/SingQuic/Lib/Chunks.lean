import Mathlib.Data.List.Basic

/-! Splitting a list into consecutive pieces of a fixed size, the last of which
may be shorter, and putting the pieces together again. -/
namespace Chunks
variable {α : Type}

/-- Pieces needed to cover `length` elements. -/
def count (size length : Nat) : Nat := (length + size - 1) / size

def piece (size : Nat) (data : List α) (index : Nat) : List α :=
  (data.drop (index * size)).take size

def chunks (size : Nat) (data : List α) : List (List α) :=
  (List.range (count size data.length)).map (piece size data)

variable {size : Nat} {data : List α}

theorem count_covers (positive : 0 < size) (length : Nat) : length ≤ count size length * size := by
  have split := Nat.div_add_mod (length + size - 1) size
  have bound := Nat.mod_lt (length + size - 1) positive
  rw [Nat.mul_comm] at split
  simp only [count]
  omega

theorem count_eq_zero (positive : 0 < size) (length : Nat) : count size length = 0 ↔ length = 0 := by
  rw [count, Nat.div_eq_zero_iff]
  omega

@[simp] theorem length_chunks : (chunks size data).length = count size data.length := by
  simp [chunks]

theorem flatten_range (number : Nat) :
    ((List.range number).map (piece size data)).flatten = data.take (number * size) := by
  induction number with
  | zero => simp
  | succ number ih =>
    rw [List.range_succ, List.map_append, List.flatten_append, ih]
    simp only [List.map_cons, List.map_nil, List.flatten_cons, List.flatten_nil, List.append_nil,
      piece, Nat.succ_mul, List.take_add]

/-- Nothing is lost, duplicated or reordered by splitting. -/
theorem flatten_chunks (positive : 0 < size) : (chunks size data).flatten = data := by
  rw [chunks, flatten_range]
  exact List.take_of_length_le (count_covers positive data.length)

theorem mem_chunks {part : List α} :
    part ∈ chunks size data ↔ ∃ index < count size data.length, piece size data index = part := by
  simp [chunks]

theorem length_piece_le (index : Nat) : (piece size data index).length ≤ size := by
  rw [piece, List.length_take]
  exact Nat.min_le_left _ _

/-- No piece is empty: there are only as many as the data needs. -/
theorem piece_ne_nil (positive : 0 < size) {index : Nat} (present : index < count size data.length) :
    piece size data index ≠ [] := by
  have covered : (index + 1) * size ≤ data.length + size - 1 :=
    (Nat.le_div_iff_mul_le positive).mp present
  rw [Nat.succ_mul] at covered
  apply List.ne_nil_of_length_pos
  rw [piece, List.length_take, List.length_drop]
  omega

end Chunks
