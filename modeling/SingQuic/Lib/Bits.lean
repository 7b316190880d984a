import Mathlib.Data.Nat.Bitwise
import Mathlib.Data.List.Basic
import Mathlib.Data.UInt

/-! Bits of numbers and of byte strings, the most significant bit first. A codec
that packs codes of different widths into bytes is specified over these lists:
what its shifts and masks compute is a concatenation, a `take` or a `drop`. -/
namespace Bits

/-- The low `width` bits of a number. -/
def ofNat : Nat → Nat → List Bool
  | 0, _ => []
  | width + 1, value => value.testBit width :: ofNat width value

/-- The number that bits spell. -/
def toNat (bits : List Bool) : Nat := bits.foldl (fun value bit => value * 2 + bit.toNat) 0

def ofBytes (bytes : List UInt8) : List Bool := bytes.flatMap fun byte => ofNat 8 byte.toNat

@[simp] theorem ofNat_zero_width (value : Nat) : ofNat 0 value = [] := rfl

@[simp] theorem length_ofNat (width value : Nat) : (ofNat width value).length = width := by
  induction width with
  | zero => rfl
  | succ width ih => rw [ofNat, List.length_cons, ih]

/-- Only the low bits count. -/
theorem ofNat_congr {width value other : Nat}
    (agree : ∀ index < width, value.testBit index = other.testBit index) :
    ofNat width value = ofNat width other := by
  induction width with
  | zero => rfl
  | succ width ih =>
    rw [ofNat, ofNat, agree width (Nat.lt_succ_self width),
      ih fun index bound => agree index (Nat.lt_succ_of_lt bound)]

theorem ofNat_eq_replicate {width value : Nat} (ones : ∀ index < width, value.testBit index = true) :
    ofNat width value = List.replicate width true := by
  induction width with
  | zero => rfl
  | succ width ih =>
    rw [ofNat, ones width (Nat.lt_succ_self width), List.replicate_succ,
      ih fun index bound => ones index (Nat.lt_succ_of_lt bound)]

/-- A field in front of another: the high bits, then the low ones. -/
theorem ofNat_append (high low value : Nat) :
    ofNat (high + low) value = ofNat high (value >>> low) ++ ofNat low value := by
  induction high with
  | zero => rw [Nat.zero_add, ofNat_zero_width, List.nil_append]
  | succ high ih =>
    rw [Nat.succ_add, ofNat, ih, ofNat, Nat.testBit_shiftRight, Nat.add_comm low high,
      List.cons_append]

theorem ofNat_mod (width value : Nat) : ofNat width (value % 2 ^ width) = ofNat width value :=
  ofNat_congr fun index bound => by rw [Nat.testBit_mod_two_pow, decide_eq_true bound, Bool.true_and]

@[simp] theorem toNat_nil : toNat [] = 0 := rfl

theorem toNat_concat (bits : List Bool) (bit : Bool) :
    toNat (bits ++ [bit]) = toNat bits * 2 + bit.toNat := by
  rw [toNat, List.foldl_append]
  rfl

theorem toNat_lt (bits : List Bool) : toNat bits < 2 ^ bits.length := by
  induction bits using List.reverseRecOn with
  | nil => decide
  | append_singleton bits bit ih =>
    have digit := bit.toNat_le
    rw [toNat_concat, List.length_append, List.length_singleton, Nat.pow_succ]
    omega

/-- The largest number of its width is the one that ones spell. -/
theorem toNat_eq_ones {bits : List Bool} : toNat bits = 2 ^ bits.length - 1 ↔ bits.all id = true := by
  induction bits using List.reverseRecOn with
  | nil => exact ⟨fun _ => rfl, fun _ => rfl⟩
  | append_singleton bits bit ih =>
    have bound := toNat_lt bits
    have both : (bits ++ [bit]).all id = true ↔ bits.all id = true ∧ bit = true := by simp
    rw [both, ← ih, toNat_concat, List.length_append, List.length_singleton, Nat.pow_succ]
    cases bit
    · simp only [Bool.toNat_false, Bool.false_eq_true, and_false, iff_false]
      omega
    · simp only [Bool.toNat_true, and_true]
      omega

theorem ofNat_concat (width value : Nat) :
    ofNat (width + 1) value = ofNat width (value / 2) ++ [value.testBit 0] := by
  rw [ofNat_append, Nat.shiftRight_one]
  rfl

/-- Writing a number and reading it back keeps its low bits. -/
theorem toNat_ofNat (width value : Nat) : toNat (ofNat width value) = value % 2 ^ width := by
  induction width generalizing value with
  | zero => rw [ofNat_zero_width, toNat_nil, Nat.pow_zero, Nat.mod_one]
  | succ width ih =>
    have low : (value.testBit 0).toNat = value % 2 := by
      rw [Nat.testBit_zero]
      rcases Nat.mod_two_eq_zero_or_one value with even | odd <;> simp [*]
    rw [ofNat_concat, toNat_concat, ih, low, Nat.pow_succ', Nat.mod_mul]
    omega

/-- Any bits are those of the number they spell. -/
theorem ofNat_toNat (bits : List Bool) : ofNat bits.length (toNat bits) = bits := by
  induction bits using List.reverseRecOn with
  | nil => rfl
  | append_singleton bits bit ih =>
    have high : (toNat bits * 2 + bit.toNat) / 2 = toNat bits := by
      have digit := bit.toNat_lt
      omega
    have low : (toNat bits * 2 + bit.toNat).testBit 0 = bit := by
      rw [Nat.testBit_zero]
      cases bit <;> simp
    rw [List.length_append, List.length_singleton, ofNat_concat, toNat_concat, high, low, ih]

/-- A word of three fields. -/
theorem ofNat_fields {width first second third : Nat} (whole : first + second + third = width)
    (value : Nat) : ofNat width value =
      ofNat first (value >>> (second + third)) ++ (ofNat second (value >>> third) ++ ofNat third value) := by
  rw [← whole, Nat.add_assoc, ofNat_append, ofNat_append]

/-- Shifting a field to the top of its word and back down isolates it. -/
theorem shift_field {width first second third : Nat} (whole : first + second + third = width)
    (value : Nat) : (value <<< first % 2 ^ width) >>> (width - second) =
      toNat (((ofNat width value).drop first).take second) := by
  have middle : ((ofNat width value).drop first).take second = ofNat second (value >>> third) := by
    rw [ofNat_fields whole, List.drop_left' (length_ofNat _ _), List.take_left' (length_ofNat _ _)]
  rw [middle, toNat_ofNat]
  apply Nat.eq_of_testBit_eq
  intro index
  rw [Nat.testBit_shiftRight, Nat.testBit_mod_two_pow, Nat.testBit_shiftLeft, Nat.testBit_mod_two_pow,
    Nat.testBit_shiftRight]
  by_cases inside : index < second
  · have place : width - second + index - first = third + index := by omega
    rw [place, decide_eq_true inside, decide_eq_true (by omega), decide_eq_true (by omega),
      Bool.true_and]
  · rw [decide_eq_false inside, decide_eq_false (by omega), Bool.false_and, Bool.false_and]

@[simp] theorem ofBytes_nil : ofBytes [] = [] := rfl

@[simp] theorem ofBytes_cons (byte : UInt8) (bytes : List UInt8) :
    ofBytes (byte :: bytes) = ofNat 8 byte.toNat ++ ofBytes bytes := rfl

@[simp] theorem ofBytes_append (front back : List UInt8) :
    ofBytes (front ++ back) = ofBytes front ++ ofBytes back := List.flatMap_append

@[simp] theorem length_ofBytes (bytes : List UInt8) : (ofBytes bytes).length = 8 * bytes.length := by
  induction bytes with
  | nil => rfl
  | cons byte bytes ih =>
    rw [ofBytes_cons, List.length_append, length_ofNat, ih, List.length_cons]
    omega

theorem ofBytes_replicate_ones (count : Nat) :
    ofBytes (List.replicate count 255) = List.replicate (8 * count) true := by
  induction count with
  | zero => rfl
  | succ count ih =>
    have byte : ofNat 8 (255 : UInt8).toNat = List.replicate 8 true := by decide
    rw [List.replicate_succ, ofBytes_cons, byte, ih, List.replicate_append_replicate]
    congr 1
    omega

theorem ofBytes_take (bytes : List UInt8) (count : Nat) :
    ofBytes (bytes.take count) = (ofBytes bytes).take (8 * count) := by
  induction count generalizing bytes with
  | zero => simp
  | succ count ih =>
    cases bytes with
    | nil => simp
    | cons byte bytes =>
      have inside : 8 * (count + 1) = (ofNat 8 byte.toNat).length + 8 * count := by
        rw [length_ofNat]
        omega
      rw [List.take_succ_cons, ofBytes_cons, ofBytes_cons, ih, inside, List.take_length_add_append]

theorem ofBytes_drop (bytes : List UInt8) (count : Nat) :
    ofBytes (bytes.drop count) = (ofBytes bytes).drop (8 * count) := by
  induction count generalizing bytes with
  | zero => simp
  | succ count ih =>
    cases bytes with
    | nil => simp
    | cons byte bytes =>
      have inside : 8 * (count + 1) = (ofNat 8 byte.toNat).length + 8 * count := by
        rw [length_ofNat]
        omega
      rw [List.drop_succ_cons, ofBytes_cons, ih, inside, List.drop_length_add_append]

/-- The bits of a byte string from a byte on: that byte, then the others. -/
theorem drop_ofBytes {bytes : List UInt8} {index : Nat} (inside : index < bytes.length) :
    (ofBytes bytes).drop (8 * index) =
      ofNat 8 (bytes[index]).toNat ++ (ofBytes bytes).drop (8 * (index + 1)) := by
  rw [← ofBytes_drop, List.drop_eq_getElem_cons inside, ofBytes_cons, ofBytes_drop]

/-- Overwriting a byte leaves the bits on both sides. -/
theorem ofBytes_set {bytes : List UInt8} {index : Nat} (inside : index < bytes.length) (byte : UInt8) :
    ofBytes (bytes.set index byte) =
      (ofBytes bytes).take (8 * index) ++ ofNat 8 byte.toNat ++
        (ofBytes bytes).drop (8 * (index + 1)) := by
  rw [List.set_eq_take_append_cons_drop, if_pos inside, ofBytes_append, ofBytes_cons, ofBytes_take,
    ofBytes_drop, List.append_assoc]

theorem ofBytes_set_pair {bytes : List UInt8} {index : Nat} (inside : index + 1 < bytes.length)
    (first second : UInt8) :
    ofBytes ((bytes.set index first).set (index + 1) second) =
      (ofBytes bytes).take (8 * index) ++ (ofNat 8 first.toNat ++ ofNat 8 second.toNat) ++
        (ofBytes bytes).drop (8 * (index + 2)) := by
  have front : (ofBytes (bytes.set index first)).take (8 * (index + 1)) =
      (ofBytes bytes).take (8 * index) ++ ofNat 8 first.toNat := by
    rw [ofBytes_set (Nat.lt_of_succ_lt inside)]
    apply List.take_left'
    rw [List.length_append, List.length_take, length_ofBytes, length_ofNat]
    omega
  have back : (ofBytes (bytes.set index first)).drop (8 * (index + 1 + 1)) =
      (ofBytes bytes).drop (8 * (index + 2)) := by
    rw [← ofBytes_drop, List.drop_set_of_lt (by omega), ofBytes_drop]
  rw [ofBytes_set (by rw [List.length_set]; exact inside), front, back]
  simp only [List.append_assoc]

end Bits
