import SingQuic.Qpack.HuffmanDecoder
import SingQuic.Qpack.PrefixInt

/-! Strings of the header compression: a length with the Huffman flag in front of it, then the
bytes. The writer always packs, the reader takes either form. -/
namespace SingQuic.Qpack
open Wire PrefixCode

namespace PrefixString

/-- The errors of the source that 64 bits leave possible. -/
inductive Error where
  | unexpectedEnd
  | integer (error : PrefixInt.Error)
  | huffmanDecoding (error : HuffmanError)
  deriving DecidableEq, Repr

def ofInteger : PrefixInt.Error → Error
  | .unexpectedEnd => .unexpectedEnd
  | error => .integer error

def decode (size : Nat) (buf : Bytes) : Except Error (Bytes × Bytes) := do
  let ((flags, len), buf) ← (PrefixInt.decode (size - 1) buf).mapError ofInteger
  if buf.length < len then .error .unexpectedEnd
  else
    let payload := buf.take len
    let rest := buf.drop len
    if flags &&& 1 = 0 then .ok (payload, rest)
    else do
      let decoded ← (hpackDecode payload).mapError .huffmanDecoding
      .ok (decoded, rest)

def encode (size : Nat) (flags : UInt8) (value : Bytes) : Bytes :=
  let encoded := hpackEncode value
  PrefixInt.encode (size - 1) (flags <<< 1 ||| 1) encoded.length ++ encoded

end PrefixString

/-- Strings whose code words a `u32` can count. -/
def Packable (value : Bytes) : Prop := (PrefixCode.encode codeWord value).length + 16 < 2 ^ 32

instance (value : Bytes) : Decidable (Packable value) := inferInstanceAs (Decidable (_ < _))

theorem packable_of_length {value : Bytes} (short : value.length < 2 ^ 27) : Packable value := by
  have upper := (length_encode value).2
  rw [Packable]
  omega

namespace PrefixString

theorem huffmanFlag (flags : UInt8) {size : Nat} (positive : 0 < size) (bound : size ≤ 8)
    (fits : flags.toNat < 2 ^ (8 - size)) :
    (flags <<< 1 ||| 1).toNat < 2 ^ (8 - (size - 1)) ∧ (flags <<< 1 ||| 1) &&& 1 ≠ 0 := by
  have room : 2 ^ (8 - (size - 1)) = 2 * 2 ^ (8 - size) := by
    rw [← Nat.pow_succ', Nat.succ_eq_add_one]
    congr 1
    omega
  have width := Nat.pow_le_pow_right (n := 2) (by decide) (show 8 - size ≤ 7 by omega)
  have value : (flags <<< 1 ||| 1).toNat = 2 * flags.toNat + 1 ∧ (flags <<< 1 ||| 1) &&& 1 ≠ 0 := by
    have all := (by decide +kernel : ∀ flags : Fin 128,
      (UInt8.ofNat flags.val <<< 1 ||| 1).toNat = 2 * flags.val + 1 ∧
        (UInt8.ofNat flags.val <<< 1 ||| 1) &&& 1 ≠ 0) ⟨flags.toNat, by omega⟩
    simpa using all
  exact ⟨by rw [value.1, room]; omega, value.2⟩

/-- A string is read back from what was written, whatever follows it. -/
theorem decode_encode (size : Nat) (flags : UInt8) {value : Bytes} (wide : 1 < size)
    (bound : size ≤ 8) (fits : flags.toNat < 2 ^ (8 - size)) (packable : Packable value) (rest : Bytes) :
    decode size (encode size flags value ++ rest) = .ok (value, rest) := by
  obtain ⟨small, unpacked⟩ := hpackDecode_hpackEncode packable
  obtain ⟨room, packed⟩ := huffmanFlag flags (Nat.zero_lt_of_lt wide) bound fits
  rw [Addressable] at small
  have length := PrefixInt.decode_encode (size - 1) _ (by omega) (by omega) room (hpackEncode value).length
    (hpackEncode value ++ rest)
  rw [if_pos (by omega)] at length
  have enough : ¬ (hpackEncode value ++ rest).length < (hpackEncode value).length := by
    rw [List.length_append]
    omega
  rw [encode, List.append_assoc, decode, length]
  simp only [Except.mapError, bind, Except.bind, if_neg enough, if_neg packed, List.take_left,
    List.drop_left, unpacked]

end PrefixString

/-- Packing a string and unpacking it gives it back. The byte strings that unpack to it are those
that begin with its code words and go on with a padding, and none of them is shorter. -/
theorem packed_string {value : Bytes} (packable : Packable value) :
    hpackDecode (hpackEncode value) = .ok value ∧
      ∀ input, Addressable input →
        (hpackDecode input = .ok value ↔
          ∃ tail, Bits.ofBytes input = PrefixCode.encode codeWord value ++ tail ∧ Padding tail) ∧
        (hpackDecode input = .ok value → (hpackEncode value).length ≤ input.length) := by
  refine ⟨(hpackDecode_hpackEncode packable).2, ?_⟩
  intro input small
  have accepted := hpackDecode_eq_ok_iff small value
  simp only [ends_iff_padding] at accepted
  refine ⟨accepted, fun decoded => ?_⟩
  obtain ⟨tail, whole, _⟩ := accepted.mp decoded
  have size := congrArg List.length whole
  rw [Packable] at packable
  have packed := length_hpackEncode (Nat.lt_of_le_of_lt (Nat.le_add_right _ 16) packable)
  rw [Bits.length_ofBytes, List.length_append] at size
  omega

theorem packed_string_auth : hpackDecode (hpackEncode [47, 97, 117, 116, 104]) = .ok [47, 97, 117, 116, 104] :=
  (packed_string (by decide +kernel)).1

end SingQuic.Qpack
