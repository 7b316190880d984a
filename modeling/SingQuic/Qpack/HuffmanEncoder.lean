import SingQuic.Lib.Wire
import SingQuic.Qpack.HuffmanTable
import Mathlib.Tactic.IntervalCases

/-! The Huffman encoder. It writes parts of code words over bits that are all ones, so
what it leaves behind is the code words of the string, filled up with ones. -/
namespace SingQuic.Qpack
open Wire PrefixCode

/-- What a `u32` keeps of a number. -/
def u32 (value : Nat) : Nat := value % 2 ^ 32

structure BitWindow where
  byte : Nat
  bit : Nat
  count : Nat
  deriving DecidableEq, Repr

namespace BitWindow

def new : BitWindow := ⟨0, 0, 0⟩

def forwards (self : BitWindow) (step : Nat) : BitWindow :=
  let bit := u32 (self.bit + self.count)
  ⟨u32 (self.byte + bit / 8), bit % 8, step⟩

def oppositeBitWindow (self : BitWindow) : BitWindow := ⟨self.byte, self.bit, 8 - self.bit % 8⟩

/-- The first bit of the window in its byte string. -/
def start (self : BitWindow) : Nat := 8 * self.byte + self.bit

/-- The first bit behind the window. -/
def finish (self : BitWindow) : Nat := self.start + self.count

theorem forwards_bit (self : BitWindow) (step : Nat) : (self.forwards step).bit < 8 :=
  Nat.mod_lt _ (by decide)

@[simp] theorem forwards_count (self : BitWindow) (step : Nat) : (self.forwards step).count = step := rfl

/-- A window moves to where it ended, as long as the counters of 32 bits can say where that is. -/
theorem forwards_start {self : BitWindow} (step : Nat) (narrow : self.bit < 8) (short : self.count ≤ 30)
    (bound : self.start < 2 ^ 34) : (self.forwards step).start = self.finish := by
  simp only [start] at bound
  simp only [forwards, start, finish, u32]
  omega

end BitWindow

structure HuffmanEncoder where
  bufferPos : BitWindow
  buffer : Bytes

def padRight : List UInt8 := [0, 1, 3, 7, 15, 31, 63, 127, 255]

def padLeft : List UInt8 := [0, 128, 192, 224, 240, 248, 252, 254, 255]

/-- The bytes written to are inside `out` (`writeBits_spec`), where the source would panic. -/
def writeBits (out : Bytes) (pos : BitWindow) (value : UInt8) : Bytes :=
  if pos.bit + pos.count ≤ 8 then
    let left := out.getD pos.byte 0 ||| padRight.getD (8 - pos.bit) 0
    let shifted := value <<< UInt8.ofNat (8 - pos.bit - pos.count) ||| padLeft.getD pos.bit 0
    let right := padRight.getD (8 - pos.count - pos.bit) 0
    out.set pos.byte ((left &&& shifted) ||| right)
  else
    let split := 8 - pos.bit
    let left := out.getD pos.byte 0 ||| padRight.getD split 0
    let shifted := (value >>> UInt8.ofNat (pos.count - split)) ||| padLeft.getD pos.bit 0
    let rem := 8 - (pos.count - split)
    (out.set pos.byte (left &&& shifted)).set (pos.byte + 1)
      ((value <<< UInt8.ofNat rem) ||| padRight.getD rem 0)

namespace HuffmanEncoder

def new : HuffmanEncoder := ⟨.new, []⟩

/-- The capacity it reserves ahead changes no byte and is left out. -/
def ensureFreeSpace (self : HuffmanEncoder) (bitCount : Nat) : HuffmanEncoder :=
  let endRange := (self.bufferPos.forwards bitCount).forwards 0
  if endRange.byte < self.buffer.length then self
  else
    let forward := endRange.byte - self.buffer.length + if 0 < endRange.bit then 1 else 0
    { self with buffer := self.buffer ++ List.replicate forward 255 }

/-- The loop of `put` over the parts of a row. -/
def putParts (self : HuffmanEncoder) (rest : Nat) : List UInt8 → HuffmanEncoder
  | [] => self
  | part :: parts =>
    let bufferPos := self.bufferPos.forwards (if rest < 8 then rest else 8)
    putParts ⟨bufferPos, writeBits self.buffer bufferPos part⟩ (rest - bufferPos.count) parts

def put (self : HuffmanEncoder) (code : UInt8) : HuffmanEncoder :=
  let encodeValue := encodeValue code
  (self.ensureFreeSpace encodeValue.bitCount).putParts encodeValue.bitCount encodeValue.buffer

end HuffmanEncoder

def hpackEncode (value : Bytes) : Bytes := (value.foldl HuffmanEncoder.put .new).buffer

theorem testBit_padRight {count : Nat} (bound : count ≤ 8) (index : Nat) :
    (padRight.getD count 0).toNat.testBit index = decide (index < count) := by
  have ones : (padRight.getD count 0).toNat = 2 ^ count - 1 := by interval_cases count <;> rfl
  rw [ones, Nat.testBit_two_pow_sub_one]

theorem testBit_padLeft {count index : Nat} (bound : count ≤ 8) (inside : index < 8) :
    (padLeft.getD count 0).toNat.testBit index = decide (8 - count ≤ index) :=
  (by decide +kernel : ∀ (count : Fin 9) (index : Fin 8),
    (padLeft.getD count 0).toNat.testBit index = decide (8 - count.val ≤ index.val))
    ⟨count, Nat.lt_succ_of_le bound⟩ ⟨index, inside⟩

theorem toNat_shift {amount : Nat} (small : amount < 8) : (UInt8.ofNat amount).toNat % 8 = amount := by
  rw [UInt8.toNat_ofNat']
  omega

theorem testBit_shiftLeft {value : UInt8} {amount index : Nat} (small : amount < 8) (inside : index < 8) :
    (value <<< UInt8.ofNat amount).toNat.testBit index =
      (decide (amount ≤ index) && value.toNat.testBit (index - amount)) := by
  rw [UInt8.toNat_shiftLeft, toNat_shift small, Nat.testBit_mod_two_pow, Nat.testBit_shiftLeft,
    decide_eq_true inside, Bool.true_and]

theorem testBit_shiftRight {value : UInt8} {amount : Nat} (small : amount < 8) (index : Nat) :
    (value >>> UInt8.ofNat amount).toNat.testBit index = value.toNat.testBit (amount + index) := by
  rw [UInt8.toNat_shiftRight, toNat_shift small, Nat.testBit_shiftRight]

/-- A part that fits in the byte: the bits in front stay, those behind become ones. -/
theorem written_inside (old value : UInt8) {bit count : Nat} (positive : 0 < count)
    (fits : bit + count ≤ 8) :
    Bits.ofNat 8 (((old ||| padRight.getD (8 - bit) 0) &&&
      (value <<< UInt8.ofNat (8 - bit - count) ||| padLeft.getD bit 0)) |||
        padRight.getD (8 - count - bit) 0).toNat =
      Bits.ofNat bit (old.toNat >>> (8 - bit)) ++ (Bits.ofNat count value.toNat ++
        List.replicate (8 - bit - count) true) := by
  have whole : bit + count + (8 - bit - count) = 8 := by omega
  rw [Bits.ofNat_fields whole]
  congr 1
  · apply Bits.ofNat_congr
    intro index inside
    have place : count + (8 - bit - count) + index = 8 - bit + index := by omega
    rw [Nat.testBit_shiftRight, Nat.testBit_shiftRight, place, UInt8.toNat_or, UInt8.toNat_and,
      UInt8.toNat_or, UInt8.toNat_or, Nat.testBit_or, Nat.testBit_and, Nat.testBit_or, Nat.testBit_or,
      testBit_padRight (by omega), testBit_padRight (by omega), testBit_padLeft (by omega) (by omega),
      decide_eq_false (by omega : ¬ 8 - bit + index < 8 - bit), decide_eq_true (Nat.le_add_right _ _),
      decide_eq_false (by omega : ¬ 8 - bit + index < 8 - count - bit), Bool.or_true, Bool.or_false,
      Bool.or_false, Bool.and_true]
  congr 1
  · apply Bits.ofNat_congr
    intro index inside
    have place : 8 - bit - count + index - (8 - bit - count) = index := by omega
    rw [Nat.testBit_shiftRight, UInt8.toNat_or, UInt8.toNat_and, UInt8.toNat_or, UInt8.toNat_or,
      Nat.testBit_or, Nat.testBit_and, Nat.testBit_or, Nat.testBit_or, testBit_padRight (by omega),
      testBit_padRight (by omega), testBit_padLeft (by omega) (by omega),
      testBit_shiftLeft (by omega) (by omega), place,
      decide_eq_true (by omega : 8 - bit - count + index < 8 - bit),
      decide_eq_false (by omega : ¬ 8 - bit ≤ 8 - bit - count + index),
      decide_eq_true (Nat.le_add_right _ _),
      decide_eq_false (by omega : ¬ 8 - bit - count + index < 8 - count - bit)]
    simp
  · apply Bits.ofNat_eq_replicate
    intro index inside
    rw [UInt8.toNat_or, Nat.testBit_or, testBit_padRight (by omega),
      decide_eq_true (by omega : index < 8 - count - bit), Bool.or_true]

/-- A part that does not fit: its first bits fill the byte. -/
theorem written_first (old value : UInt8) {bit split rest : Nat} (whole : bit + split = 8)
    (small : rest < 8) :
    Bits.ofNat 8 ((old ||| padRight.getD split 0) &&&
      ((value >>> UInt8.ofNat rest) ||| padLeft.getD bit 0)).toNat =
      Bits.ofNat bit (old.toNat >>> split) ++ Bits.ofNat split (value.toNat >>> rest) := by
  rw [← whole, Bits.ofNat_append]
  congr 1
  · apply Bits.ofNat_congr
    intro index inside
    rw [Nat.testBit_shiftRight, Nat.testBit_shiftRight, UInt8.toNat_and, UInt8.toNat_or, UInt8.toNat_or,
      Nat.testBit_and, Nat.testBit_or, Nat.testBit_or, testBit_padRight (by omega),
      testBit_padLeft (by omega) (by omega), decide_eq_false (by omega : ¬ split + index < split),
      decide_eq_true (by omega : 8 - bit ≤ split + index), Bool.or_false, Bool.or_true, Bool.and_true]
  · apply Bits.ofNat_congr
    intro index inside
    rw [UInt8.toNat_and, UInt8.toNat_or, UInt8.toNat_or, Nat.testBit_and, Nat.testBit_or, Nat.testBit_or,
      testBit_padRight (by omega), testBit_padLeft (by omega) (by omega), testBit_shiftRight small,
      Nat.testBit_shiftRight, decide_eq_true inside, decide_eq_false (by omega : ¬ 8 - bit ≤ index),
      Bool.or_true, Bool.true_and, Bool.or_false]

/-- The others start the next byte, which ends in ones. -/
theorem written_second (value : UInt8) (rest rem : Nat) (whole : rest + rem = 8) (positive : 0 < rest) :
    Bits.ofNat 8 ((value <<< UInt8.ofNat rem) ||| padRight.getD rem 0).toNat =
      Bits.ofNat rest value.toNat ++ List.replicate rem true := by
  rw [← whole, Bits.ofNat_append]
  congr 1
  · apply Bits.ofNat_congr
    intro index inside
    rw [Nat.testBit_shiftRight, UInt8.toNat_or, Nat.testBit_or, testBit_padRight (by omega),
      testBit_shiftLeft (by omega) (by omega), decide_eq_true (Nat.le_add_right _ _),
      decide_eq_false (by omega : ¬ rem + index < rem), Bool.true_and, Bool.or_false,
      Nat.add_sub_cancel_left]
  · apply Bits.ofNat_eq_replicate
    intro index inside
    rw [UInt8.toNat_or, Nat.testBit_or, testBit_padRight (by omega), decide_eq_true inside, Bool.or_true]

/-- Over ones, the bits of a part are written where the window stands; nothing else changes. -/
theorem writeBits_spec {out : Bytes} {bits : List Bool} {ones : Nat} {pos : BitWindow} (value : UInt8)
    (content : Bits.ofBytes out = bits ++ List.replicate ones true) (start : pos.start = bits.length)
    (narrow : pos.bit < 8) (positive : 0 < pos.count) (short : pos.count ≤ 8) (room : pos.count ≤ ones) :
    Bits.ofBytes (writeBits out pos value) =
      bits ++ Bits.ofNat pos.count value.toNat ++ List.replicate (ones - pos.count) true := by
  have size : 8 * out.length = bits.length + ones := by
    simpa using congrArg List.length content
  simp only [BitWindow.start] at start
  have inside : pos.byte < out.length := by omega
  have before : (Bits.ofBytes out).take (8 * pos.byte) = bits.take (8 * pos.byte) := by
    rw [content, List.take_append_of_le_length (by omega)]
  have parts : Bits.ofNat 8 (out[pos.byte]).toNat ++ (Bits.ofBytes out).drop (8 * (pos.byte + 1)) =
      (bits.drop (8 * pos.byte) ++ List.replicate (8 - pos.bit) true) ++
        List.replicate (ones - (8 - pos.bit)) true := by
    rw [← Bits.drop_ofBytes inside, content, List.drop_append_of_le_length (by omega), List.append_assoc,
      List.replicate_append_replicate, Nat.add_sub_cancel' (by omega)]
  obtain ⟨byte, after⟩ := List.append_inj parts (by simp; omega)
  have whole : pos.bit + (8 - pos.bit) = 8 := by omega
  have fields (value : Nat) : Bits.ofNat 8 value =
      Bits.ofNat pos.bit (value >>> (8 - pos.bit)) ++ Bits.ofNat (8 - pos.bit) value := by
    rw [← Bits.ofNat_append, whole]
  rw [fields] at byte
  obtain ⟨high, -⟩ := List.append_inj byte (by simp; omega)
  have old : out.getD pos.byte 0 = out[pos.byte] := List.getD_eq_getElem _ _ inside
  unfold writeBits
  split
  · rename_i fits
    have count : 8 - pos.bit - pos.count + (ones - (8 - pos.bit)) = ones - pos.count := by omega
    rw [Bits.ofBytes_set inside, old, written_inside _ _ positive fits, before, high, after,
      List.append_assoc, List.append_assoc, List.append_assoc, List.replicate_append_replicate, count,
      ← List.append_assoc, ← List.append_assoc, List.take_append_drop]
  · rename_i wide
    have split : 8 - pos.bit + (pos.count - (8 - pos.bit)) = pos.count := by omega
    have last : (Bits.ofBytes out).drop (8 * (pos.byte + 2)) =
        List.replicate (ones - (8 - pos.bit) - 8) true := by
      have next : 8 * (pos.byte + 2) = 8 * (pos.byte + 1) + 8 := by omega
      rw [next, ← List.drop_drop, after, List.drop_replicate]
    have count : 8 - (pos.count - (8 - pos.bit)) + (ones - (8 - pos.bit) - 8) = ones - pos.count := by
      omega
    have field : Bits.ofNat pos.count value.toNat =
        Bits.ofNat (8 - pos.bit) (value.toNat >>> (pos.count - (8 - pos.bit))) ++
          Bits.ofNat (pos.count - (8 - pos.bit)) value.toNat := by
      rw [← Bits.ofNat_append, split]
    rw [Bits.ofBytes_set_pair (by omega), old, written_first _ _ whole (by omega),
      written_second value (pos.count - (8 - pos.bit)) _ (by omega) (by omega), before, high, last,
      field, ← count, ← List.replicate_append_replicate]
    simp only [List.append_assoc]
    rw [← List.append_assoc, List.take_append_drop]

namespace HuffmanEncoder

/-- The encoder has written `bits`, stands behind them, and everything else is ones. -/
structure Holds (encoder : HuffmanEncoder) (bits : List Bool) : Prop where
  narrow : encoder.bufferPos.bit < 8
  short : encoder.bufferPos.count ≤ 8
  position : encoder.bufferPos.finish = bits.length
  content : Bits.ofBytes encoder.buffer =
    bits ++ List.replicate (8 * encoder.buffer.length - bits.length) true

variable {self : HuffmanEncoder} {bits : List Bool}

theorem holds_new : new.Holds [] := ⟨by decide, by decide, rfl, rfl⟩

theorem Holds.bound (holds : self.Holds bits) (few : bits.length < 2 ^ 32) :
    self.bufferPos.start < 2 ^ 34 := by
  have position := holds.position
  rw [BitWindow.finish] at position
  omega

theorem Holds.length_le (holds : self.Holds bits) : bits.length ≤ 8 * self.buffer.length := by
  have size := congrArg List.length holds.content
  rw [Bits.length_ofBytes, List.length_append, List.length_replicate] at size
  omega

/-- The window of the next part stands behind the bits written. -/
theorem Holds.next (holds : self.Holds bits) (few : bits.length < 2 ^ 32) (step : Nat) :
    (self.bufferPos.forwards step).start = bits.length := by
  have short := holds.short
  rw [BitWindow.forwards_start step holds.narrow (by omega) (holds.bound few), holds.position]

/-- The buffer grows to exactly the bytes that hold the bits so far and the next ones. -/
theorem Holds.ensureFreeSpace (holds : self.Holds bits) {count : Nat} (small : count ≤ 30)
    (few : bits.length + count < 2 ^ 32) (exact : self.buffer.length = (bits.length + 7) / 8) :
    (self.ensureFreeSpace count).Holds bits ∧
      (self.ensureFreeSpace count).buffer.length = (bits.length + count + 7) / 8 := by
  have here := holds.next (by omega) count
  have window := BitWindow.forwards_start 0 (self.bufferPos.forwards_bit count) small (by rw [here]; omega)
  have narrow := (self.bufferPos.forwards count).forwards_bit 0
  rw [BitWindow.finish, here, BitWindow.forwards_count, BitWindow.start] at window
  have enough := holds.length_le
  unfold HuffmanEncoder.ensureFreeSpace
  dsimp only
  split
  · exact ⟨holds, by omega⟩
  · have grown : ((self.bufferPos.forwards count).forwards 0).byte - self.buffer.length +
        (if 0 < ((self.bufferPos.forwards count).forwards 0).bit then 1 else 0) =
          (bits.length + count + 7) / 8 - self.buffer.length := by
      split <;> omega
    rw [grown]
    refine ⟨⟨holds.narrow, holds.short, holds.position, ?_⟩, ?_⟩
    · dsimp only
      rw [Bits.ofBytes_append, holds.content, Bits.ofBytes_replicate_ones, List.append_assoc,
        List.replicate_append_replicate, List.length_append, List.length_replicate]
      congr 2
      omega
    · dsimp only
      rw [List.length_append, List.length_replicate]
      omega

/-- Parts written one behind the other, in the room made for them. -/
theorem Holds.putParts {parts : List UInt8} {rest : Nat} (holds : self.Holds bits)
    (all : parts.length = (rest + 7) / 8) (few : bits.length + rest < 2 ^ 32)
    (room : bits.length + rest ≤ 8 * self.buffer.length) :
    (self.putParts rest parts).Holds (bits ++ partBits rest parts) ∧
      (self.putParts rest parts).buffer.length = self.buffer.length := by
  induction parts generalizing self bits rest with
  | nil => exact ⟨by rw [partBits, List.append_nil]; exact holds, rfl⟩
  | cons part parts ih =>
    rw [List.length_cons] at all
    have step : (if rest < 8 then rest else 8) = min rest 8 := by
      split <;> omega
    have start := holds.next (by omega) (min rest 8)
    have written := writeBits_spec part holds.content start (self.bufferPos.forwards_bit _)
      (by rw [BitWindow.forwards_count]; omega) (by rw [BitWindow.forwards_count]; omega)
      (by rw [BitWindow.forwards_count]; omega)
    rw [BitWindow.forwards_count] at written
    have size : (writeBits self.buffer (self.bufferPos.forwards (min rest 8)) part).length =
        self.buffer.length := by
      unfold writeBits
      split <;> simp
    have after : HuffmanEncoder.Holds ⟨self.bufferPos.forwards (min rest 8),
        writeBits self.buffer (self.bufferPos.forwards (min rest 8)) part⟩
          (bits ++ Bits.ofNat (min rest 8) part.toNat) := by
      refine ⟨self.bufferPos.forwards_bit _, ?_, ?_, ?_⟩
      · dsimp only [BitWindow.forwards_count]
        omega
      · rw [BitWindow.finish, start, BitWindow.forwards_count, List.length_append, Bits.length_ofNat]
      · dsimp only
        rw [written, size, List.length_append, Bits.length_ofNat, Nat.sub_sub]
    rw [HuffmanEncoder.putParts, step, partBits, ← List.append_assoc]
    dsimp only [BitWindow.forwards_count]
    have others : parts.length = (rest - min rest 8 + 7) / 8 := by omega
    obtain ⟨done, kept⟩ := ih after others (by rw [List.length_append, Bits.length_ofNat]; omega)
      (by rw [List.length_append, Bits.length_ofNat, size]; omega)
    exact ⟨done, by rw [kept, size]⟩

/-- One byte more: its code word behind the others, in no more bytes than they need. -/
theorem Holds.put (holds : self.Holds bits) (code : UInt8)
    (few : bits.length + (codeWord code).length < 2 ^ 32)
    (exact : self.buffer.length = (bits.length + 7) / 8) :
    (self.put code).Holds (bits ++ codeWord code) ∧
      (self.put code).buffer.length = ((bits ++ codeWord code).length + 7) / 8 := by
  have size := length_codeWord code
  rw [size] at few
  obtain ⟨free, grown⟩ := holds.ensureFreeSpace (bitCount_bounds code).2 few exact
  obtain ⟨done, kept⟩ := free.putParts (encodeValue_parts code) few (by rw [grown]; omega)
  exact ⟨done, by rw [HuffmanEncoder.put, kept, grown, List.length_append, size]⟩

theorem Holds.foldl {value : Bytes} (holds : self.Holds bits)
    (few : bits.length + (encode codeWord value).length < 2 ^ 32)
    (exact : self.buffer.length = (bits.length + 7) / 8) :
    (value.foldl HuffmanEncoder.put self).Holds (bits ++ encode codeWord value) ∧
      (value.foldl HuffmanEncoder.put self).buffer.length =
        ((bits ++ encode codeWord value).length + 7) / 8 := by
  induction value generalizing self bits with
  | nil => exact ⟨by rw [encode_nil, List.append_nil]; exact holds, by simpa using exact⟩
  | cons code value ih =>
    rw [encode_cons, List.length_append] at few
    obtain ⟨done, grown⟩ := holds.put code (by omega) exact
    rw [encode_cons, ← List.append_assoc]
    exact ih done (by rw [List.length_append]; omega) grown

end HuffmanEncoder

/-- The encoding of a string is its code words, filled up to whole bytes with ones. -/
theorem hpackEncode_spec {value : Bytes} (few : (encode codeWord value).length < 2 ^ 32) :
    ∃ ones < 8, Bits.ofBytes (hpackEncode value) = encode codeWord value ++ List.replicate ones true := by
  have start : ([] : List Bool).length + (encode codeWord value).length < 2 ^ 32 := by simpa using few
  obtain ⟨done, size⟩ := HuffmanEncoder.holds_new.foldl start rfl
  refine ⟨_, ?_, done.content⟩
  rw [size]
  simp only [List.nil_append]
  omega

end SingQuic.Qpack
