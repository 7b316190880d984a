import SingQuic.Lib.Wire
import Mathlib.Tactic.IntervalCases
import Mathlib.Tactic.Ring

/-! Integers of the header compression: a first byte shared with flags, then seven
bits a byte, the least significant first. The reader refuses a tenth byte of the
second kind, the writer does not. -/
namespace SingQuic.Qpack
open Wire

/-- `buf.get::<u8>()?`, with the error each caller makes of an empty buffer. -/
def getByte {ε : Type} (unexpectedEnd : ε) : Bytes → Except ε (UInt8 × Bytes)
  | [] => .error unexpectedEnd
  | byte :: rest => .ok (byte, rest)

namespace PrefixInt

inductive Error where
  | overflow
  | unexpectedEnd
  deriving DecidableEq, Repr

def maxPower : Nat := 9 * 7

/-- The loop of `decode`. A value stays below `2 ^ 64` (`decode_lt`), so `u64` never overflows. -/
def decodeTail : Nat → Nat → Bytes → Except Error (Nat × Bytes)
  | _, _, [] => .error .unexpectedEnd
  | value, power, byte :: rest =>
    let value := value + (byte.toNat &&& 127) <<< power
    let power := power + 7
    if byte.toNat &&& 128 = 0 then .ok (value, rest)
    else if maxPower ≤ power then .error .overflow
    else decodeTail value power rest

/-- Of `size` the source asserts that it is at most 8. At 0 its mask shifts a byte by all of
its bits, which panics, or leaves the byte as it is where overflows are not checked; the
mask here is the latter. Nothing calls it so. -/
def decode (size : Nat) (buf : Bytes) : Except Error ((UInt8 × Nat) × Bytes) := do
  let (first, buf) ← getByte .unexpectedEnd buf
  let flags := UInt8.ofNat (first.toNat >>> size)
  let mask := 0xFF >>> ((8 - size) % 8)
  let first := first.toNat &&& mask
  if first < mask then .ok ((flags, first), buf)
  else do
    let (value, buf) ← decodeTail mask 0 buf
    .ok ((flags, value), buf)

/-- The loop of `encode`. -/
def encodeTail (remaining : Nat) : Bytes :=
  if 128 ≤ remaining then UInt8.ofNat (remaining % 128 + 128) :: encodeTail (remaining / 128)
  else [UInt8.ofNat remaining]

def encode (size : Nat) (flags : UInt8) (value : Nat) : Bytes :=
  -- `!(0xFF << size) as u8`
  let mask := 0xFF - (0xFF <<< size) % 256
  let flags := UInt8.ofNat (flags.toNat <<< size)
  if value < mask then [flags ||| UInt8.ofNat value]
  else (UInt8.ofNat mask ||| flags) :: encodeTail (value - mask)

/-- The largest number of the first byte, which announces that bytes follow. -/
def limit (size : Nat) : Nat := 2 ^ size - 1

theorem decode_mask {size : Nat} (positive : 1 ≤ size) (bound : size ≤ 8) :
    0xFF >>> ((8 - size) % 8) = limit size := by
  interval_cases size <;> rfl

theorem encode_mask {size : Nat} (bound : size ≤ 8) : 0xFF - (0xFF <<< size) % 256 = limit size := by
  interval_cases size <;> rfl

/-- The first byte of an encoding is taken apart again. -/
theorem first_byte {size : Nat} {flags : UInt8} {value : Nat} (bound : size ≤ 8)
    (fits : flags.toNat < 2 ^ (8 - size)) (small : value ≤ limit size) :
    let first := UInt8.ofNat (flags.toNat <<< size) ||| UInt8.ofNat value
    UInt8.ofNat (first.toNat >>> size) = flags ∧ first.toNat &&& limit size = value := by
  have low : value < 2 ^ size := by
    have positive := Nat.two_pow_pos size
    rw [limit] at small
    omega
  have room : flags.toNat * 2 ^ size + value < 256 := by
    have whole : 2 ^ (8 - size) * 2 ^ size = 256 := by
      rw [← Nat.pow_add, Nat.sub_add_cancel bound]
    have below := Nat.mul_le_mul_right (2 ^ size) (Nat.succ_le_of_lt fits)
    rw [whole, Nat.succ_mul] at below
    omega
  have first : (UInt8.ofNat (flags.toNat <<< size) ||| UInt8.ofNat value).toNat =
      2 ^ size * flags.toNat + value := by
    rw [UInt8.toNat_or, UInt8.toNat_ofNat', UInt8.toNat_ofNat', Nat.shiftLeft_eq,
      Nat.mod_eq_of_lt (by omega), Nat.mod_eq_of_lt (by omega), Nat.mul_comm,
      Nat.two_pow_add_eq_or_of_lt low]
  constructor
  · rw [first, Nat.shiftRight_eq_div_pow, Nat.mul_add_div (Nat.two_pow_pos size),
      Nat.div_eq_of_lt low, Nat.add_zero, UInt8.ofNat_toNat]
  · rw [first, limit, Nat.and_two_pow_sub_one_eq_mod, Nat.mul_add_mod, Nat.mod_eq_of_lt low]

theorem payload (byte : UInt8) : byte.toNat &&& 127 = byte.toNat % 128 :=
  Nat.and_two_pow_sub_one_eq_mod byte.toNat 7

theorem continues (byte : UInt8) : byte.toNat &&& 128 = 0 ↔ byte.toNat < 128 :=
  (by decide +kernel : ∀ value : Fin 256, value.val &&& 128 = 0 ↔ value.val < 128) ⟨_, byte.toNat_lt⟩

/-- What the reader makes of the later bytes of an encoding, from any of its positions. -/
theorem decodeTail_encodeTail (remaining : Nat) : ∀ (value step : Nat) (rest : Bytes), step ≤ 8 →
    decodeTail value (7 * step) (encodeTail remaining ++ rest) =
      if remaining < 2 ^ (63 - 7 * step) then .ok (value + remaining <<< (7 * step), rest)
      else .error .overflow := by
  induction remaining using encodeTail.induct with
  | case1 remaining more ih =>
    intro value step rest bound
    have byte : (UInt8.ofNat (remaining % 128 + 128)).toNat = remaining % 128 + 128 := by
      rw [UInt8.toNat_ofNat', Nat.mod_eq_of_lt (by omega)]
    rw [encodeTail, if_pos more, List.cons_append, decodeTail, payload, if_neg (by rw [continues, byte]; omega),
      byte, Nat.add_mod_right, Nat.mod_mod]
    rcases Nat.lt_or_eq_of_le bound with inner | rfl
    · have room : 63 - 7 * step = 63 - 7 * (step + 1) + 7 := by omega
      have scale : (remaining < 2 ^ (63 - 7 * step)) = (remaining / 128 < 2 ^ (63 - 7 * (step + 1))) := by
        rw [room, Nat.pow_add, Nat.div_lt_iff_lt_mul (by decide)]
      have total : value + (remaining % 128) <<< (7 * step) + (remaining / 128) <<< (7 * (step + 1)) =
          value + remaining <<< (7 * step) := by
        have digits := congrArg (· * 2 ^ (7 * step)) (Nat.mod_add_div remaining 128)
        simp only [Nat.add_mul] at digits
        rw [Nat.shiftLeft_eq, Nat.shiftLeft_eq, Nat.shiftLeft_eq, Nat.mul_add, Nat.pow_add, ← digits]
        ring
      rw [if_neg (by rw [maxPower]; omega), ← Nat.mul_succ, ih _ _ _ (by omega), total]
      simp only [scale]
    · rw [if_pos (by decide), if_neg (by omega)]
  | case2 remaining last =>
    intro value step rest bound
    have small : remaining < 128 := Nat.not_le.mp last
    have byte : (UInt8.ofNat remaining).toNat = remaining := by
      rw [UInt8.toNat_ofNat', Nat.mod_eq_of_lt (by omega)]
    have room := Nat.pow_le_pow_right (n := 2) (by decide) (show 7 ≤ 63 - 7 * step by omega)
    rw [encodeTail, if_neg last, List.singleton_append, decodeTail, payload,
      if_pos (by rw [continues, byte]; omega), byte, Nat.mod_eq_of_lt small, if_pos (by omega)]

/-- Whatever follows, an encoding is read back with its flags, up to the value that takes the
tenth byte. -/
theorem decode_encode (size : Nat) (flags : UInt8) (positive : 1 ≤ size) (bound : size ≤ 8)
    (fits : flags.toNat < 2 ^ (8 - size)) (value : Nat) (rest : Bytes) :
    decode size (encode size flags value ++ rest) =
      if value < limit size + 2 ^ 63 then .ok ((flags, value), rest) else .error .overflow := by
  simp only [encode, encode_mask bound]
  by_cases small : value < limit size
  · obtain ⟨top, low⟩ := first_byte bound fits (Nat.le_of_lt small)
    rw [if_pos small, if_pos (by omega)]
    simp only [decode, List.singleton_append, getByte, bind, Except.bind, decode_mask positive bound, low, top]
    rw [if_pos small]
  · obtain ⟨top, low⟩ := first_byte bound fits (Nat.le_refl (limit size))
    have tail := decodeTail_encodeTail (value - limit size) (limit size) 0 rest (by omega)
    have whole : limit size + (value - limit size) = value := Nat.add_sub_cancel' (Nat.not_lt.mp small)
    have last : value - limit size < 2 ^ 63 ↔ value < limit size + 2 ^ 63 := by omega
    simp only [Nat.mul_zero, Nat.sub_zero, Nat.shiftLeft_zero, whole, last] at tail
    rw [if_neg small, UInt8.or_comm]
    simp only [decode, List.cons_append, getByte, bind, Except.bind, decode_mask positive bound, low, top,
      tail]
    rw [if_neg (Nat.lt_irrefl _)]
    by_cases inRange : value < limit size + 2 ^ 63
    · simp only [if_pos inRange]
    · simp only [if_neg inRange]

theorem decodeTail_lt {buf rest : Bytes} {start result : Nat} : ∀ {value : Nat} (step : Nat), step ≤ 8 →
    value < start + 2 ^ (7 * step) →
    decodeTail value (7 * step) buf = .ok (result, rest) → result < start + 2 ^ 63 := by
  induction buf with
  | nil =>
    intro value step _ _ read
    cases read
  | cons byte buf ih =>
    intro value step bound below read
    have digit : (byte.toNat % 128) <<< (7 * step) ≤ 127 * 2 ^ (7 * step) := by
      rw [Nat.shiftLeft_eq]
      exact Nat.mul_le_mul_right _ (Nat.le_of_lt_succ (Nat.mod_lt _ (by decide)))
    have next : value + (byte.toNat % 128) <<< (7 * step) < start + 2 ^ (7 * (step + 1)) := by
      rw [Nat.mul_succ, Nat.pow_add]
      omega
    rw [decodeTail, payload] at read
    split at read
    · obtain ⟨rfl, rfl⟩ := Prod.mk.inj (Except.ok.inj read)
      have room := Nat.pow_le_pow_right (n := 2) (by decide) (show 7 * (step + 1) ≤ 63 by omega)
      omega
    · split at read
      · cases read
      · rename_i inner
        rw [maxPower] at inner
        exact ih (step + 1) (by omega) next read

/-- No input makes the accumulator leave 64 bits, or a number the writer could not have written. -/
theorem decode_lt {size : Nat} {buf rest : Bytes} {flags : UInt8} {value : Nat} (positive : 1 ≤ size)
    (bound : size ≤ 8) (read : decode size buf = .ok ((flags, value), rest)) :
    flags.toNat < 2 ^ (8 - size) ∧ value < limit size + 2 ^ 63 := by
  cases buf with
  | nil => cases read
  | cons first buf =>
    have top : (UInt8.ofNat (first.toNat >>> size)).toNat < 2 ^ (8 - size) := by
      have room := Nat.pow_le_pow_right (n := 2) (by decide) (Nat.sub_le 8 size)
      have high : first.toNat >>> size < 2 ^ (8 - size) := by
        rw [Nat.shiftRight_eq_div_pow, Nat.div_lt_iff_lt_mul (Nat.two_pow_pos size), ← Nat.pow_add,
          Nat.sub_add_cancel bound]
        exact first.toNat_lt
      rw [UInt8.toNat_ofNat', Nat.mod_eq_of_lt (by omega)]
      exact high
    simp only [decode, getByte, bind, Except.bind, decode_mask positive bound] at read
    split at read
    · rename_i small
      obtain ⟨⟨rfl, rfl⟩, _⟩ := by simpa using read
      exact ⟨top, Nat.lt_add_right _ small⟩
    · cases tail : decodeTail (limit size) 0 buf with
      | error error => simp [tail] at read
      | ok result =>
        obtain ⟨⟨rfl, rfl⟩, _⟩ := by simpa [tail] using read
        exact ⟨top, decodeTail_lt 0 (by decide) (by omega) tail⟩

/-- Whatever is read as a number, in however many bytes, is what the writer's bytes for that number
are read as; of the numbers of 64 bits the reader refuses exactly those that no input is read as. -/
theorem number_rewritten {size : Nat} (positive : 1 ≤ size) (bound : size ≤ 8) (rest : Bytes) :
    (∀ buf after flags value, decode size buf = .ok ((flags, value), after) →
      decode size (encode size flags value ++ rest) = .ok ((flags, value), rest)) ∧
    ∀ flags value, flags.toNat < 2 ^ (8 - size) → limit size + 2 ^ 63 ≤ value →
      decode size (encode size flags value ++ rest) = .error .overflow ∧
        ∀ buf after, decode size buf ≠ .ok ((flags, value), after) := by
  constructor
  · intro buf after flags value read
    obtain ⟨fits, small⟩ := decode_lt positive bound read
    rw [decode_encode size flags positive bound fits, if_pos small]
  · intro flags value fits large
    refine ⟨by rw [decode_encode size flags positive bound fits, if_neg (Nat.not_lt.mpr large)], ?_⟩
    intro buf after read
    exact absurd (decode_lt positive bound read).2 (Nat.not_lt.mpr large)

theorem number_rewritten_five : decode 5 (encode 5 2 1337 ++ [7]) = .ok ((2, 1337), [7]) :=
  (number_rewritten (by decide) (by decide) [7]).1 [0x5f, 0x9a, 0x8a, 0x00] [] 2 1337 (by decide)

end PrefixInt
end SingQuic.Qpack
