import SingQuic.Error
import SingQuic.Lib.Wire
import Mathlib.Tactic.IntervalCases

/-! QUIC variable-length integers: the two top bits of the first byte give the
width, the rest is the value in network byte order. -/
namespace SingQuic.Varint
open Wire

def maximum : Nat := 2 ^ 62 - 1

def width (value : Nat) : Nat :=
  if value ≤ 63 then 1
  else if value ≤ 16383 then 2
  else if value ≤ 1073741823 then 4
  else 8

def tag : Nat → UInt8
  | 1 => 0x00
  | 2 => 0x40
  | 4 => 0x80
  | _ => 0xc0

def encode (value : UInt64) : Result Bytes :=
  if value.toNat > maximum then .error .invalidVarInt
  else
    let length := width value.toNat
    .ok ((bigEndian length value.toNat).modifyHead (· ||| tag length))

/-- The number of bytes the first byte announces, `1 << (first >> 6)`. -/
def announced (first : UInt8) : Nat := 2 ^ (first.toNat / 64)

/-- The remaining bytes of a number, one `read_u8` each. -/
def readTail : Nat → Nat → Reader Error Nat
  | 0, value => pure value
  | count + 1, value => do
    let byte ← Reader.readByte
    readTail count (shiftIn value byte)

/-- The value stays below `2 ^ 62`, so the shifts of the source never overflow. -/
def read : Reader Error Nat := do
  let first ← Reader.readByte
  readTail (announced first - 1) (first.toNat % 64)

theorem tagged_byte {value : Nat} {exponent : Nat} {mark : UInt8} (small : value < 64)
    (bits : mark.toNat = 64 * exponent) :
    (UInt8.ofNat value ||| mark).toNat = 64 * exponent + value := by
  rw [UInt8.toNat_or, UInt8.toNat_ofNat', bits, Nat.mod_eq_of_lt (by omega), Nat.or_comm]
  exact (Nat.two_pow_add_eq_or_of_lt (i := 6) small exponent).symm

/-- An encoding announces its own length and spells its value. -/
theorem encode_spec {value : UInt64} (small : value.toNat ≤ maximum) :
    ∃ first tail, encode value = .ok (first :: tail) ∧ announced first = tail.length + 1 ∧
      tail.foldl shiftIn (first.toNat % 64) = value.toNat ∧
      tail.length + 1 = width value.toNat := by
  have shape (count exponent : Nat) (size : width value.toNat = count + 1)
      (power : 2 ^ exponent = count + 1) (mark : (tag (count + 1)).toNat = 64 * exponent)
      (top : value.toNat / 256 ^ count < 64) :
      ∃ first tail, encode value = .ok (first :: tail) ∧ announced first = tail.length + 1 ∧
        tail.foldl shiftIn (first.toNat % 64) = value.toNat ∧
        tail.length + 1 = width value.toNat := by
    have byte := tagged_byte top mark
    refine ⟨UInt8.ofNat (value.toNat / 256 ^ count) ||| tag (count + 1),
      bigEndian count value.toNat, ?_, ?_, ?_, ?_⟩
    · rw [encode, if_neg (by omega)]
      simp only [size, bigEndian_cons, List.modifyHead_cons]
    · rw [announced, byte, length_bigEndian, Nat.mul_add_div (by decide), Nat.div_eq_of_lt top,
        Nat.add_zero, power]
    · rw [byte, foldl_bigEndian, Nat.mul_add_mod, Nat.mod_eq_of_lt top, Nat.div_add_mod']
    · rw [length_bigEndian, size]
  simp only [maximum] at small
  by_cases one : value.toNat ≤ 63
  · exact shape 0 0 (by simp [width, one]) rfl rfl (by omega)
  by_cases two : value.toNat ≤ 16383
  · exact shape 1 1 (by simp [width, one, two]) rfl rfl (by omega)
  by_cases four : value.toNat ≤ 1073741823
  · exact shape 3 2 (by simp [width, one, two, four]) rfl rfl (by omega)
  · exact shape 7 3 (by simp [width, one, two, four]) rfl rfl (by omega)

theorem readTail_append (tail rest : Bytes) (value : Nat) :
    readTail tail.length value (tail ++ rest) = .done (tail.foldl shiftIn value) rest := by
  induction tail generalizing value with
  | nil => rfl
  | cons byte tail ih =>
    rw [List.cons_append, List.length_cons, readTail, Reader.bind_done (Reader.readByte_cons byte _), ih,
      List.foldl_cons]

/-- The bytes that carry a number in one of the four widths, shortest or not: the
exponent of the width in the two top bits, the number in all the others. -/
def Spells (bytes : Bytes) (value : Nat) : Prop :=
  ∃ exponent < 4, value < 2 ^ (8 * 2 ^ exponent - 2) ∧
    bytes = bigEndian (2 ^ exponent) (exponent * 2 ^ (8 * 2 ^ exponent - 2) + value)

theorem width_layout {exponent : Nat} (small : exponent < 4) : ∃ count,
    2 ^ exponent = count + 1 ∧ 2 ^ (8 * 2 ^ exponent - 2) = 64 * 256 ^ count := by
  refine ⟨2 ^ exponent - 1, ?_, ?_⟩ <;> interval_cases exponent <;> rfl

/-- The first byte of a spelling announces how many there are, and what is left of it
starts the number. -/
theorem spells_iff {bytes : Bytes} {value : Nat} : Spells bytes value ↔ ∃ first tail,
    bytes = first :: tail ∧ announced first = tail.length + 1 ∧
      tail.foldl shiftIn (first.toNat % 64) = value := by
  constructor
  · rintro ⟨exponent, small, bound, rfl⟩
    obtain ⟨count, power, room⟩ := width_layout small
    rw [room] at bound ⊢
    have positive : 0 < 256 ^ count := Nat.pow_pos (by decide)
    have top : value / 256 ^ count < 64 := (Nat.div_lt_iff_lt_mul positive).mpr bound
    have scaled : exponent * (64 * 256 ^ count) + value = 256 ^ count * (exponent * 64) + value := by
      rw [← Nat.mul_assoc, Nat.mul_comm (exponent * 64)]
    have lead : (UInt8.ofNat (exponent * 64 + value / 256 ^ count)).toNat =
        exponent * 64 + value / 256 ^ count := by
      rw [UInt8.toNat_ofNat', Nat.mod_eq_of_lt (by omega)]
    rw [power, scaled, bigEndian_cons, Nat.mul_add_div positive]
    refine ⟨_, _, rfl, ?_, ?_⟩
    · rw [announced, lead, Nat.mul_comm exponent, Nat.mul_add_div (by decide), Nat.div_eq_of_lt top,
        Nat.add_zero, power, length_bigEndian]
    · rw [foldl_bigEndian, lead, Nat.mul_add_mod', Nat.mod_eq_of_lt top, Nat.mul_add_mod,
        Nat.div_add_mod']
  · rintro ⟨first, tail, rfl, size, rfl⟩
    have byte := first.toNat_lt
    obtain ⟨count, power, room⟩ := width_layout (show first.toNat / 64 < 4 by omega)
    have length : tail.length = count := by
      rw [announced, power] at size
      omega
    have lower := ofBigEndian_lt tail
    have number : ofBigEndian (first :: tail) =
        first.toNat / 64 * (64 * 256 ^ count) + tail.foldl shiftIn (first.toNat % 64) := by
      have split : first.toNat = first.toNat / 64 * 64 + first.toNat % 64 := by omega
      rw [foldl_shiftIn, length, ← Nat.add_assoc, ← Nat.mul_assoc, ← Nat.add_mul, ← split,
        ofBigEndian, List.foldl_cons, foldl_shiftIn, length, shiftIn, Nat.zero_mul, Nat.zero_add]
    refine ⟨first.toNat / 64, by omega, ?_, ?_⟩
    · rw [room, foldl_shiftIn, length]
      rw [length] at lower
      have part : first.toNat % 64 * 256 ^ count ≤ 63 * 256 ^ count :=
        Nat.mul_le_mul_right _ (by omega)
      omega
    · rw [room, ← number, power, ← length]
      exact (bigEndian_ofBigEndian (first :: tail)).symm

theorem Spells.le_maximum {bytes : Bytes} {value : Nat} (spelled : Spells bytes value) :
    value ≤ maximum := by
  obtain ⟨exponent, small, bound, _⟩ := spelled
  have room : 2 ^ (8 * 2 ^ exponent - 2) ≤ 2 ^ 62 := by
    interval_cases exponent <;> decide
  simp only [maximum]
  omega

theorem readTail_done {count value total : Nat} {input rest : Bytes}
    (done : readTail count value input = .done total rest) :
    ∃ tail, tail.length = count ∧ input = tail ++ rest ∧ tail.foldl shiftIn value = total := by
  induction count generalizing value input with
  | zero =>
    obtain ⟨rfl, rfl⟩ := Read.done.inj done
    exact ⟨[], rfl, rfl, rfl⟩
  | succ count ih =>
    cases input with
    | nil => contradiction
    | cons byte input =>
      obtain ⟨tail, rfl, rfl, number⟩ := ih done
      exact ⟨byte :: tail, rfl, rfl, number⟩

/-- The reader takes exactly one spelled number off the stream. -/
theorem read_eq_done_iff {input rest : Bytes} {value : Nat} :
    read input = .done value rest ↔ ∃ bytes, Spells bytes value ∧ input = bytes ++ rest := by
  constructor
  · intro done
    cases input with
    | nil => contradiction
    | cons first input =>
      obtain ⟨tail, length, rfl, number⟩ := readTail_done done
      have positive : 0 < announced first := Nat.pow_pos (by decide)
      exact ⟨first :: tail, spells_iff.mpr ⟨first, tail, rfl, by omega, number⟩, rfl⟩
  · rintro ⟨bytes, spelled, rfl⟩
    obtain ⟨first, tail, rfl, length, number⟩ := spells_iff.mp spelled
    rw [List.cons_append, read, Reader.bind_done (Reader.readByte_cons first _), length,
      Nat.add_sub_cancel, readTail_append, number]

/-- What the encoder writes is a spelling of the number, and the encoder refuses only
what does not fit into 62 bits. -/
theorem encode_spells {value : UInt64} {bytes : Bytes} (encoded : encode value = .ok bytes) :
    Spells bytes value.toNat := by
  have small : value.toNat ≤ maximum := by
    by_contra large
    rw [encode, if_pos (by omega)] at encoded
    contradiction
  obtain ⟨first, tail, same, length, number, _⟩ := encode_spec small
  rw [same] at encoded
  obtain rfl := Except.ok.inj encoded
  exact spells_iff.mpr ⟨first, tail, rfl, length, number⟩

theorem encode_ofNat_spells {value : Nat} {bytes : Bytes} (small : value ≤ maximum)
    (encoded : encode (UInt64.ofNat value) = .ok bytes) : Spells bytes value := by
  have same : (UInt64.ofNat value).toNat = value := by
    simp only [maximum] at small
    rw [UInt64.toNat_ofNat', Nat.mod_eq_of_lt (by omega)]
  have spelled := encode_spells encoded
  rwa [same] at spelled

/-- Every number that fits into 62 bits can be written, and is read back with nothing
after it touched. -/
theorem exists_encode {value : Nat} (small : value ≤ maximum) :
    ∃ bytes, encode (UInt64.ofNat value) = .ok bytes ∧
      ∀ rest, read (bytes ++ rest) = .done value rest := by
  have fits : (UInt64.ofNat value).toNat ≤ maximum := by
    rw [UInt64.toNat_ofNat']
    exact (Nat.mod_le _ _).trans small
  obtain ⟨first, tail, encoded, _⟩ := encode_spec fits
  refine ⟨_, encoded, fun rest => ?_⟩
  exact read_eq_done_iff.mpr ⟨_, encode_ofNat_spells small encoded, rfl⟩

end SingQuic.Varint
