import Mathlib.Data.BitVec
import Mathlib.Order.Lattice

/-! Unsigned arithmetic of a fixed width that stops at the largest value instead of
wrapping, and why an early stop can go unnoticed: a clamp before a monotone map leaves
no trace if a later clamp lies below the image of the first. -/
namespace Saturating

theorem min_map_min {α β : Type*} [LinearOrder α] [LinearOrder β] {f : α → β} (monotone : Monotone f)
    {limit : α} {cap : β} (above : cap ≤ f limit) (value : α) :
    min (f (min value limit)) cap = min (f value) cap := by
  rw [monotone.map_min, min_assoc, min_eq_right above]

variable {width : Nat}

/-- `saturating_mul` of the unsigned integers of a width. -/
def mul (left right : BitVec width) : BitVec width :=
  if left.toNat * right.toNat < 2 ^ width then left * right else BitVec.allOnes width

theorem toNat_mul (left right : BitVec width) :
    (mul left right).toNat = min (left.toNat * right.toNat) (2 ^ width - 1) := by
  have positive : 0 < 2 ^ width := Nat.two_pow_pos width
  unfold mul
  split
  · rename_i fits
    rw [BitVec.toNat_mul, Nat.mod_eq_of_lt fits, Nat.min_eq_left (by omega)]
  · rename_i exceeds
    rw [BitVec.toNat_allOnes, Nat.min_eq_right (by omega)]

/-- `min(MAX) as uN`: a cast to a narrower width that clamps first. -/
def narrow (narrower : Nat) (value : BitVec width) : BitVec narrower :=
  (if value ≤ (BitVec.allOnes narrower).setWidth width then value
    else (BitVec.allOnes narrower).setWidth width).setWidth narrower

theorem toNat_narrow {narrower : Nat} (less : narrower ≤ width) (value : BitVec width) :
    (narrow narrower value).toNat = min value.toNat (2 ^ narrower - 1) := by
  have positive : 0 < 2 ^ narrower := Nat.two_pow_pos narrower
  have widened : ((BitVec.allOnes narrower).setWidth width).toNat = 2 ^ narrower - 1 := by
    rw [BitVec.toNat_setWidth, BitVec.toNat_allOnes]
    apply Nat.mod_eq_of_lt
    calc
      2 ^ narrower - 1 < 2 ^ narrower := by omega
      _ ≤ 2 ^ width := Nat.pow_le_pow_right (by decide) less
  unfold narrow
  rw [BitVec.toNat_setWidth]
  split
  · rename_i small
    rw [BitVec.le_def, widened] at small
    rw [Nat.mod_eq_of_lt (by omega), Nat.min_eq_left small]
  · rename_i large
    rw [BitVec.le_def, widened] at large
    rw [widened, Nat.mod_eq_of_lt (by omega), Nat.min_eq_right (by omega)]

end Saturating
