import SingQuic.Varint
import SingQuic.Hysteria2.UdpGrammar

/-! The QUIC integers of `varint.rs` on machine words: the shifting loops of the encoder
and of the reader, next to the slice decoder of the UDP messages. `none` is a panic;
`eof` is what `read_u8` answers at the end of the stream. -/
namespace SingQuic.Varint.Machine
open Wire Hysteria2.Machine

def max : UInt64 := ((1 : UInt64) <<< 62) - 1

def length (value : UInt64) : Nat :=
  if value ≤ 63 then 1
  else if value ≤ 16383 then 2
  else if value ≤ 1073741823 then 4
  else 8

/-- The loop over `output.iter_mut().rev()`: `written` lies behind the iterator. -/
def fill : Nat → UInt64 → Bytes → Bytes
  | 0, _, written => written
  | count + 1, remaining, written => fill count (remaining >>> 8) (remaining.toUInt8 :: written)

def mark : Nat → Option UInt8
  | 1 => some 0x00
  | 2 => some 0x40
  | 4 => some 0x80
  | 8 => some 0xc0
  | _ => none

def encode (value : UInt64) : Option (Result Bytes) :=
  if value > max then some (.error .invalidVarInt)
  else do
    let output := fill (length value) value []
    let first ← output[0]?
    let mark ← mark (length value)
    some (.ok (output.set 0 (first ||| mark)))

def readU8 (eof : Error) : Bytes → Result (UInt8 × Bytes)
  | [] => .error eof
  | byte :: rest => .ok (byte, rest)

/-- `for _ in 1..length`. -/
def readRest (eof : Error) : Nat → UInt64 → Bytes → Result (UInt64 × Bytes)
  | 0, value, input => .ok (value, input)
  | count + 1, value, input =>
    match readU8 eof input with
    | .error error => .error error
    | .ok (byte, input) => readRest eof count (shiftIn value byte) input

def read (usizeBits : Nat) (eof : Error) (input : Bytes) : Option (Result (UInt64 × Bytes)) :=
  match readU8 eof input with
  | .error error => some (.error error)
  | .ok (first, input) => do
    let length ← shl usizeBits (first >>> 6).toNat
    some (readRest eof (length - 1) (first &&& 0x3f).toUInt64 input)

/-- The length the first byte announces; where there is none, at least that byte is missing. -/
def needed : Bytes → Nat
  | [] => 1
  | first :: _ => announced first

def Truncated (data : Bytes) : Prop := data.length < needed data

instance (data : Bytes) : Decidable (Truncated data) := inferInstanceAs (Decidable (_ < _))

theorem length_eq (value : UInt64) : length value = width value.toNat := by
  simp only [length, width, UInt64.le_iff_toNat_le]
  rfl

/-- The loop writes the digits of the remaining value in front of those it has written. -/
theorem fill_eq (count : Nat) (remaining : UInt64) (written : Bytes) :
    fill count remaining written = bigEndian count remaining.toNat ++ written := by
  induction count generalizing remaining written with
  | zero => rfl
  | succ count ih =>
    have shifted : (remaining >>> 8).toNat = remaining.toNat / 256 := by
      rw [UInt64.toNat_shiftRight]
      exact Nat.shiftRight_eq_div_pow remaining.toNat 8
    have low : remaining.toUInt8 = UInt8.ofNat remaining.toNat := rfl
    rw [fill, ih, shifted, bigEndian, low, List.append_assoc, List.singleton_append]

theorem mark_length (value : UInt64) : mark (length value) = some (tag (width value.toNat)) := by
  rw [length_eq, width]
  repeat' split
  all_goals rfl

/-- The loop on machine words writes what the arithmetic encoder writes, and never panics. -/
theorem encode_eq (value : UInt64) : encode value = some (Varint.encode value) := by
  have bound : value > max ↔ value.toNat > maximum := UInt64.lt_iff_toNat_lt
  unfold encode Varint.encode
  rw [mark_length, length_eq, fill_eq, List.append_nil]
  by_cases large : value.toNat > maximum
  · rw [if_pos large, if_pos (bound.mpr large)]
  · rw [if_neg large, if_neg (mt bound.mp large)]
    obtain ⟨count, size⟩ : ∃ count, width value.toNat = count + 1 := by
      refine ⟨width value.toNat - 1, ?_⟩
      unfold width
      repeat' split
      all_goals rfl
    simp only [size, bigEndian_cons, List.getElem?_cons_zero, Option.bind_eq_bind, Option.bind_some,
      List.set_cons_zero, List.modifyHead_cons]

theorem readRest_eq (eof : Error) (count value : Nat) (input : Bytes) :
    readRest eof count (UInt64.ofNat value) input =
      ((readTail count value input).atEnd eof).map (Prod.map UInt64.ofNat id) := by
  induction count generalizing value input with
  | zero => rfl
  | succ count ih =>
    cases input with
    | nil => rfl
    | cons byte input =>
      rw [readRest, readU8, readTail, Reader.bind_done (Reader.readByte_cons byte input), ← ih,
        ← shiftIn_ofNat]

theorem read_eq {usizeBits : Nat} (wide : 16 ≤ usizeBits) (eof : Error) (input : Bytes) :
    read usizeBits eof input =
      some (((Varint.read input).atEnd eof).map (Prod.map UInt64.ofNat id)) := by
  cases input with
  | nil => rfl
  | cons first input =>
    rw [Varint.read, Reader.bind_done (Reader.readByte_cons first input), ← readRest_eq]
    simp only [read, readU8, shl_first wide, low_bits, Option.bind_eq_bind, Option.bind_some]

theorem toNat_ofNat_of_spells {bytes : Bytes} {value : Nat} (spelled : Spells bytes value) :
    (UInt64.ofNat value).toNat = value ∧ value < 2 ^ 62 := by
  have small := spelled.le_maximum
  simp only [maximum] at small
  refine ⟨?_, by omega⟩
  rw [UInt64.toNat_ofNat', Nat.mod_eq_of_lt (by omega)]

/-- Both decoders take the same number off a string that starts with a spelled one. -/
theorem decoders_done {usizeBits : Nat} (wide : 16 ≤ usizeBits) (eof : Error) {bytes : Bytes}
    {value : Nat} (spelled : Spells bytes value) (rest : Bytes) :
    read usizeBits eof (bytes ++ rest) = some (.ok (UInt64.ofNat value, rest)) ∧
      decodeVarint usizeBits (bytes ++ rest) = some (.ok (UInt64.ofNat value, bytes.length)) := by
  have streamed : Varint.read (bytes ++ rest) = .done value rest :=
    read_eq_done_iff.mpr ⟨bytes, spelled, rfl⟩
  have sliced : Hysteria2.decodeVarint (bytes ++ rest) = .ok (value, bytes.length) :=
    Hysteria2.decodeVarint_eq_ok_iff.mpr ⟨bytes, rest, spelled, rfl, rfl⟩
  constructor
  · rw [read_eq wide, streamed]
    rfl
  · rw [decodeVarint_eq wide, sliced]
    rfl

/-- Both decoders fail on a string that is too short for the length it announces. -/
theorem decoders_failed {usizeBits : Nat} (wide : 16 ≤ usizeBits) (eof : Error) {data : Bytes}
    (truncated : Truncated data) :
    (∃ error, read usizeBits eof data = some (.error error)) ∧
      ∃ error, decodeVarint usizeBits data = some (.error error) := by
  cases data with
  | nil => exact ⟨⟨_, rfl⟩, _, rfl⟩
  | cons first tail =>
    constructor
    · rw [read_eq wide]
      cases answer : Varint.read (first :: tail) with
      | more => exact ⟨_, rfl⟩
      | failed error => exact ⟨_, rfl⟩
      | done value rest =>
        obtain ⟨bytes, spelled, split⟩ := read_eq_done_iff.mp answer
        obtain ⟨lead, others, rfl, size, _⟩ := spells_iff.mp spelled
        rw [List.cons_append] at split
        obtain ⟨rfl, rfl⟩ := List.cons.inj split
        simp only [Truncated, needed, List.length_cons, List.length_append] at truncated
        omega
    · rw [decodeVarint_eq wide]
      have short : (first :: tail).length < announced first := truncated
      simp only [Hysteria2.decodeVarint, if_pos short]
      exact ⟨_, rfl⟩

theorem exists_spelled {data : Bytes} (enough : ¬ Truncated data) :
    ∃ bytes rest value, Spells bytes value ∧ data = bytes ++ rest := by
  cases data with
  | nil => exact absurd Nat.zero_lt_one enough
  | cons first tail =>
    have positive : 0 < announced first := Nat.pow_pos (by decide)
    refine ⟨first :: tail.take (announced first - 1), tail.drop (announced first - 1), _,
      spells_iff.mpr ⟨first, _, rfl, ?_, rfl⟩, ?_⟩
    · simp only [Truncated, needed, List.length_cons] at enough
      rw [List.length_take, Nat.min_eq_left (by omega)]
      omega
    · rw [List.cons_append, List.take_append_drop]

/-- No spelling of a number is shorter than the encoder's. -/
theorem width_le_of_spells {bytes : Bytes} {value : Nat} (spelled : Spells bytes value) :
    width value ≤ bytes.length := by
  obtain ⟨exponent, small, bound, rfl⟩ := spelled
  rw [length_bigEndian]
  unfold width
  interval_cases exponent
  all_goals
    simp only [Nat.reducePow, Nat.reduceMul, Nat.reduceSub] at bound ⊢
    repeat' split
    all_goals omega

theorem encode_refused {value : UInt64} (large : 2 ^ 62 ≤ value.toNat) :
    encode value = some (.error .invalidVarInt) := by
  rw [encode_eq, Varint.encode, if_pos (by simp only [maximum]; omega)]

theorem encode_shortest {value : UInt64} (small : value.toNat < 2 ^ 62) :
    ∃ bytes, encode value = some (.ok bytes) ∧ Spells bytes value.toNat ∧
      ∀ other, Spells other value.toNat → bytes.length ≤ other.length := by
  have fits : value.toNat ≤ maximum := by
    simp only [maximum]
    omega
  obtain ⟨first, tail, encoded, announces, number, size⟩ := encode_spec fits
  refine ⟨first :: tail, ?_, spells_iff.mpr ⟨first, tail, rfl, announces, number⟩, ?_⟩
  · rw [encode_eq, encoded]
  · intro other respelled
    rw [List.length_cons, size]
    exact width_le_of_spells respelled

theorem decoders_agree {usizeBits : Nat} (wide : 16 ≤ usizeBits) (eof : Error) {data : Bytes}
    (enough : ¬ Truncated data) : ∃ value : UInt64, ∃ length,
      value.toNat < 2 ^ 62 ∧ length ≤ data.length ∧
      read usizeBits eof data = some (.ok (value, data.drop length)) ∧
      decodeVarint usizeBits data = some (.ok (value, length)) := by
  obtain ⟨bytes, rest, value, spelled, rfl⟩ := exists_spelled enough
  obtain ⟨same, small⟩ := toNat_ofNat_of_spells spelled
  refine ⟨UInt64.ofNat value, bytes.length, by omega, by simp, ?_⟩
  rw [List.drop_left]
  exact decoders_done wide eof spelled rest

/-- The encoder and the two decoders are inverse to each other on all numbers below
`2 ^ 62`, and the decoders agree on every byte string. -/
theorem varint_routines_agree {usizeBits : Nat} (wide : 16 ≤ usizeBits) (eof : Error) :
    (∀ value : UInt64,
      ((∃ error, encode value = some (.error error)) ↔ 2 ^ 62 ≤ value.toNat) ∧
      (value.toNat < 2 ^ 62 → ∃ bytes, encode value = some (.ok bytes) ∧
        Spells bytes value.toNat ∧
        (∀ other, Spells other value.toNat → bytes.length ≤ other.length) ∧
        ∀ rest, read usizeBits eof (bytes ++ rest) = some (.ok (value, rest)) ∧
          decodeVarint usizeBits (bytes ++ rest) = some (.ok (value, bytes.length)))) ∧
    ∀ data : Bytes,
      ((∃ error, read usizeBits eof data = some (.error error)) ↔ Truncated data) ∧
      ((∃ error, decodeVarint usizeBits data = some (.error error)) ↔ Truncated data) ∧
      (¬ Truncated data → ∃ value : UInt64, ∃ length, value.toNat < 2 ^ 62 ∧ length ≤ data.length ∧
        read usizeBits eof data = some (.ok (value, data.drop length)) ∧
        decodeVarint usizeBits data = some (.ok (value, length))) := by
  constructor
  · intro value
    constructor
    · constructor
      · rintro ⟨error, failed⟩
        by_contra small
        obtain ⟨bytes, encoded, _⟩ := encode_shortest (Nat.lt_of_not_le small)
        rw [encoded] at failed
        cases Option.some.inj failed
      · intro large
        exact ⟨_, encode_refused large⟩
    · intro small
      obtain ⟨bytes, encoded, spelled, shortest⟩ := encode_shortest small
      refine ⟨bytes, encoded, spelled, shortest, ?_⟩
      intro rest
      simpa only [UInt64.ofNat_toNat] using decoders_done wide eof spelled rest
  · intro data
    refine ⟨⟨?_, fun truncated => (decoders_failed wide eof truncated).1⟩,
      ⟨?_, fun truncated => (decoders_failed wide eof truncated).2⟩, decoders_agree wide eof⟩
    · rintro ⟨error, failed⟩
      by_contra enough
      obtain ⟨value, length, _, _, streamed, _⟩ := decoders_agree wide eof enough
      rw [streamed] at failed
      cases Option.some.inj failed
    · rintro ⟨error, failed⟩
      by_contra enough
      obtain ⟨value, length, _, _, _, sliced⟩ := decoders_agree wide eof enough
      rw [sliced] at failed
      cases Option.some.inj failed

/-- A missing second byte is an error, a second byte where one would do is none. -/
theorem varint_routines_agree_word : 16 ≤ 64 ∧
    ((∃ error, read 64 .closed [0x40] = some (.error error)) ↔ Truncated [0x40]) ∧
    ¬ Truncated [0x40, 0x05] :=
  ⟨by decide, ((varint_routines_agree (by decide) .closed).2 [0x40]).1, by decide⟩

end SingQuic.Varint.Machine
