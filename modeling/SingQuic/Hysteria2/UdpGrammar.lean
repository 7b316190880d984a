import SingQuic.Hysteria2.Packet

/-! What the UDP decoder accepts, for every datagram a peer can send. The decoder is
first spelled out on machine integers, where `none` stands for a panic: an index or a
slice out of range, a failed `expect`, or arithmetic that overflows. -/
namespace SingQuic.Hysteria2
open Wire

namespace Machine

/-- `data[start..stop]`. -/
def slice (data : Bytes) (start stop : Nat) : Option Bytes :=
  if start ≤ stop ∧ stop ≤ data.length then some ((data.drop start).take (stop - start)) else none

/-- `try_into().expect(..)` into an array of the given length. -/
def array (length : Nat) (bytes : Bytes) : Option Bytes :=
  if bytes.length = length then some bytes else none

/-- Addition of two `usize`. -/
def add (usizeBits first second : Nat) : Option Nat :=
  if first + second < 2 ^ usizeBits then some (first + second) else none

/-- `1usize << amount`. -/
def shl (usizeBits amount : Nat) : Option Nat :=
  if amount < usizeBits then some (2 ^ amount % 2 ^ usizeBits) else none

/-- `(value << 8) | u64::from(byte)`, which drops what no longer fits. -/
def shiftIn (value : UInt64) (byte : UInt8) : UInt64 := value <<< 8 ||| byte.toUInt64

def decodeVarint (usizeBits : Nat) (data : Bytes) : Option (Result (UInt64 × Nat)) :=
  match data with
  | [] => some (.error (.protocol "missing Hysteria2 UDP address length"))
  | first :: _ => do
    let length ← shl usizeBits (first >>> 6).toNat
    if data.length < length then
      some (.error (.protocol "truncated Hysteria2 UDP address length"))
    else
      let tail ← slice data 1 length
      some (.ok (tail.foldl shiftIn (first &&& 0x3f).toUInt64, length))

def decodeMessage (usizeBits : Nat) (data : Bytes) : Option (Result UdpMessage) :=
  if data.length < udpHeaderSize then
    some (.error (.protocol "truncated Hysteria2 UDP message"))
  else do
    let sessionId ← (slice data 0 4).bind (array 4)
    let packetId ← (slice data 4 6).bind (array 2)
    let fragmentId ← data[6]?
    let fragmentTotal ← data[7]?
    let body ← slice data udpHeaderSize data.length
    match ← decodeVarint usizeBits body with
    | .error error => some (.error error)
    | .ok (addressLength, encodedLength) =>
      if 2 ^ usizeBits ≤ addressLength.toNat then some (.error .invalidAddress)
      else
        let addressLength := addressLength.toNat
        if addressLength = 0 ∨ maxAddressLength < addressLength then some (.error .invalidAddress)
        else
          let addressStart ← add usizeBits udpHeaderSize encodedLength
          match (add usizeBits addressStart addressLength).filter (· ≤ data.length) with
          | none => some (.error (.protocol "truncated Hysteria2 UDP address"))
          | some addressEnd =>
            let address ← slice data addressStart addressEnd
            match fromUtf8 address with
            | none => some (.error .invalidAddress)
            | some text =>
              match Address.fromStr text with
              | .error error => some (.error error)
              | .ok destination =>
                let rest ← slice data addressEnd data.length
                some (.ok ⟨UInt32.ofNat (ofBigEndian sessionId), UInt16.ofNat (ofBigEndian packetId),
                  fragmentId, fragmentTotal, destination, rest⟩)

end Machine

/-- The wire form of a message: the two ids and the two fragment bytes, the length of the
address as a number of any width, the address as text and the payload. -/
def UdpMessage.Spells (data : Bytes) (message : UdpMessage) : Prop :=
  ∃ length text, Varint.Spells length (asBytes text).length ∧ 1 ≤ (asBytes text).length ∧
    (asBytes text).length ≤ 2048 ∧ Address.fromStr text = .ok message.destination ∧
    data = bigEndian 4 message.sessionId.toNat ++ bigEndian 2 message.packetId.toNat ++
      [message.fragmentId, message.fragmentTotal] ++ length ++ asBytes text ++ message.data

theorem decodeVarint_bounds {data : Bytes} {value length : Nat}
    (decoded : decodeVarint data = .ok (value, length)) : value < 2 ^ 62 ∧ length ≤ 8 := by
  obtain ⟨bytes, rest, spelled, -, rfl⟩ := decodeVarint_eq_ok_iff.mp decoded
  have small := spelled.le_maximum
  obtain ⟨exponent, few, -, rfl⟩ := spelled
  simp only [Varint.maximum] at small
  refine ⟨by omega, ?_⟩
  rw [length_bigEndian]
  interval_cases exponent <;> decide

namespace Machine
variable {usizeBits : Nat} {data : Bytes}

theorem slice_of_le {start stop : Nat} (order : start ≤ stop) (inside : stop ≤ data.length) :
    slice data start stop = some ((data.drop start).take (stop - start)) :=
  if_pos ⟨order, inside⟩

/-- Sums of this size fit into every pointer width. -/
theorem add_of_small {first second : Nat} (wide : 16 ≤ usizeBits) (small : first + second < 2 ^ 16) :
    add usizeBits first second = some (first + second) :=
  if_pos (small.trans_le (Nat.pow_le_pow_right (by decide) wide))

theorem shiftIn_ofNat (value : Nat) (byte : UInt8) :
    shiftIn (UInt64.ofNat value) byte = UInt64.ofNat (Wire.shiftIn value byte) := by
  have digit := byte.toNat_lt
  have room : (value % 2 ^ 64) <<< 8 % 2 ^ 64 = 2 ^ 8 * (value % 2 ^ 56) := by
    rw [Nat.shiftLeft_eq]
    omega
  rw [← UInt64.toNat_inj, shiftIn, Wire.shiftIn, UInt64.toNat_or, UInt64.toNat_shiftLeft,
    UInt64.toNat_ofNat', UInt64.toNat_ofNat', UInt8.toNat_toUInt64]
  change (value % 2 ^ 64) <<< 8 % 2 ^ 64 ||| byte.toNat = _
  rw [room, ← Nat.two_pow_add_eq_or_of_lt digit]
  omega

theorem foldl_shiftIn_ofNat (bytes : Bytes) (value : Nat) :
    bytes.foldl shiftIn (UInt64.ofNat value) = UInt64.ofNat (bytes.foldl Wire.shiftIn value) := by
  induction bytes generalizing value with
  | nil => rfl
  | cons byte bytes ih => rw [List.foldl_cons, shiftIn_ofNat, ih, List.foldl_cons]

theorem shl_first (wide : 16 ≤ usizeBits) (first : UInt8) :
    shl usizeBits (first >>> 6).toNat = some (Varint.announced first) := by
  have bound := first.toNat_lt
  have amount : (first >>> 6).toNat = first.toNat / 64 := by
    rw [UInt8.toNat_shiftRight]
    exact Nat.shiftRight_eq_div_pow first.toNat 6
  have fits : 2 ^ (first.toNat / 64) < 2 ^ usizeBits :=
    Nat.pow_lt_pow_right (by decide) (by omega)
  rw [shl, amount, if_pos (by omega), Nat.mod_eq_of_lt fits, Varint.announced]

theorem low_bits (first : UInt8) : (first &&& 0x3f).toUInt64 = UInt64.ofNat (first.toNat % 64) := by
  have bound := first.toNat_lt
  have low : (first &&& 0x3f).toNat = first.toNat % 64 := by
    rw [UInt8.toNat_and]
    exact Nat.and_two_pow_sub_one_eq_mod first.toNat 6
  rw [← UInt64.toNat_inj, UInt8.toNat_toUInt64, low, UInt64.toNat_ofNat']
  omega

/-- On machine integers the length is read as it is in arithmetic without bounds. -/
theorem decodeVarint_eq (wide : 16 ≤ usizeBits) : decodeVarint usizeBits data =
    some ((Hysteria2.decodeVarint data).map fun (value, length) => (UInt64.ofNat value, length)) := by
  cases data with
  | nil => rfl
  | cons first tail =>
    have positive : 0 < Varint.announced first := Nat.pow_pos (by decide)
    rw [decodeVarint, shl_first wide, Hysteria2.decodeVarint]
    simp only [Option.bind_eq_bind, Option.bind_some]
    split
    · rfl
    · rename_i enough
      rw [slice_of_le positive (Nat.le_of_not_lt enough)]
      simp only [Option.bind_some, low_bits, foldl_shiftIn_ofNat, List.drop_take, Except.map]

/-- The decoder neither panics nor loses a bit, whatever the datagram holds. -/
theorem decodeMessage_eq (wide : 16 ≤ usizeBits) :
    decodeMessage usizeBits data = some (Hysteria2.decodeMessage data) := by
  unfold decodeMessage Hysteria2.decodeMessage
  split
  · rfl
  · rename_i enough
    have header : udpHeaderSize = 8 := rfl
    have session : (slice data 0 4).bind (array 4) = some (data.take 4) := by
      rw [slice_of_le (by decide) (by omega), Option.bind_some, array]
      exact if_pos (by simp; omega)
    have packet : (slice data 4 6).bind (array 2) = some ((data.drop 4).take 2) := by
      rw [slice_of_le (by decide) (by omega), Option.bind_some, array]
      exact if_pos (by simp; omega)
    have byte {index : Nat} (inside : index < data.length) :
        data[index]? = some (data.getD index 0) := by
      rw [List.getD_eq_getElem?_getD, List.getElem?_eq_getElem inside, Option.getD_some]
    have body : slice data udpHeaderSize data.length = some (data.drop udpHeaderSize) := by
      rw [slice_of_le (by omega) (Nat.le_refl _)]
      simp
    simp only [session, packet, byte (show 6 < data.length by omega),
      byte (show 7 < data.length by omega), body, decodeVarint_eq wide, Option.bind_eq_bind,
      Option.bind_some]
    cases decoded : Hysteria2.decodeVarint (data.drop udpHeaderSize) with
    | error error => rfl
    | ok pair =>
      obtain ⟨value, length⟩ := pair
      obtain ⟨small, short⟩ := decodeVarint_bounds decoded
      have exact' : (UInt64.ofNat value).toNat = value := by
        rw [UInt64.toNat_ofNat', Nat.mod_eq_of_lt (by omega)]
      simp only [Except.map, exact']
      by_cases illegal : value = 0 ∨ maxAddressLength < value
      · simp only [if_pos illegal, ite_self]
      · have limit : maxAddressLength = 2048 := rfl
        have fits : ¬ 2 ^ usizeBits ≤ value := by
          have room : 2 ^ 16 ≤ 2 ^ usizeBits := Nat.pow_le_pow_right (by decide) wide
          omega
        rw [if_neg fits, if_neg illegal, if_neg illegal, add_of_small wide (by omega),
          Option.bind_some, add_of_small wide (by omega), Option.filter_some]
        by_cases inside : udpHeaderSize + length + value ≤ data.length
        · have address : slice data (udpHeaderSize + length) (udpHeaderSize + length + value) =
              some ((data.drop (udpHeaderSize + length)).take value) := by
            rw [slice_of_le (by omega) inside, Nat.add_sub_cancel_left]
          have rest : slice data (udpHeaderSize + length + value) data.length =
              some (data.drop (udpHeaderSize + length + value)) := by
            rw [slice_of_le inside (Nat.le_refl _), ← List.length_drop, List.take_length]
          rw [if_neg (Nat.not_lt.mpr inside)]
          simp only [inside, decide_true, if_true, address, rest, Option.bind_some]
          cases fromUtf8 ((data.drop (udpHeaderSize + length)).take value) with
          | none => rfl
          | some text => cases parsed : Address.fromStr text <;> simp only [parsed]
        · rw [if_pos (Nat.lt_of_not_le inside)]
          simp only [inside, decide_false, Bool.false_eq_true, if_false]

end Machine

theorem bigEndian_ofNat {width : Nat} {bytes : Bytes} (size : bytes.length = width) :
    bigEndian width (ofBigEndian bytes) = bytes := by
  subst width
  exact bigEndian_ofBigEndian bytes

theorem header_fields {data : Bytes} (enough : ¬ data.length < udpHeaderSize) : data =
    bigEndian 4 (UInt32.ofNat (ofBigEndian (data.take 4))).toNat ++
      bigEndian 2 (UInt16.ofNat (ofBigEndian ((data.drop 4).take 2))).toNat ++
      [data.getD 6 0, data.getD 7 0] ++ data.drop udpHeaderSize := by
  have header : udpHeaderSize = 8 := rfl
  have session := ofBigEndian_lt (data.take 4)
  have packet := ofBigEndian_lt ((data.drop 4).take 2)
  have four : (data.take 4).length = 4 := by simp; omega
  have two : ((data.drop 4).take 2).length = 2 := by simp; omega
  rw [four] at session
  rw [two] at packet
  rw [UInt32.toNat_ofNat', Nat.mod_eq_of_lt (by omega), UInt16.toNat_ofNat',
    Nat.mod_eq_of_lt (by omega), bigEndian_ofNat four, bigEndian_ofNat two]
  have ids : data = data.take 4 ++ ((data.drop 4).take 2 ++ data.drop 6) := by
    have after : data.drop 6 = (data.drop 4).drop 2 := by rw [List.drop_drop]
    rw [after, List.take_append_drop, List.take_append_drop]
  have fragment : data.drop 6 = [data.getD 6 0, data.getD 7 0] ++ data.drop 8 := by
    rw [List.drop_eq_getElem_cons (show 6 < data.length by omega),
      List.drop_eq_getElem_cons (show 6 + 1 < data.length by omega), List.getD_eq_getElem?_getD,
      List.getD_eq_getElem?_getD, List.getElem?_eq_getElem, List.getElem?_eq_getElem]
    rfl
  rw [List.append_assoc, List.append_assoc, header, ← fragment, ← ids]

/-- The decoder accepts the wire forms of messages and nothing else. -/
theorem decodeMessage_eq_ok_iff {data : Bytes} {message : UdpMessage} :
    decodeMessage data = .ok message ↔ message.Spells data := by
  constructor
  · intro decoded
    simp only [decodeMessage] at decoded
    split at decoded
    · contradiction
    rename_i enough
    split at decoded
    · contradiction
    rename_i length encodedLength read
    split at decoded
    · contradiction
    rename_i legal
    split at decoded
    · contradiction
    rename_i inside
    split at decoded
    · contradiction
    rename_i text utf8
    split at decoded
    · contradiction
    rename_i destination parsed
    obtain rfl := Except.ok.inj decoded
    obtain ⟨bytes, rest, spelled, body, rfl⟩ := decodeVarint_eq_ok_iff.mp read
    have address := fromUtf8_eq_some_iff.mp utf8
    have after : data.drop (udpHeaderSize + bytes.length) = rest := by
      rw [← List.drop_drop, body, List.drop_left]
    have left : rest.length = data.length - (udpHeaderSize + bytes.length) := by
      rw [← after, List.length_drop]
    rw [after] at address
    have size : (asBytes text).length = length := by
      rw [← address, List.length_take]
      omega
    simp only [maxAddressLength] at legal
    refine ⟨bytes, text, by rwa [size], by omega, by omega, parsed, ?_⟩
    rw [← List.drop_drop, after, ← address, List.append_assoc, List.append_assoc,
      List.take_append_drop, ← body]
    exact header_fields enough
  · rintro ⟨length, text, spelled, positive, short, parsed, rfl⟩
    exact decodeMessage_encodeMessage parsed positive short spelled _ _ _ _ _

/-- On every target the decoder answers every datagram without a panic, with the message
the datagram spells if it spells one and with an error otherwise. -/
theorem decodeMessage_accepts_grammar (usizeBits : Nat) (wide : 16 ≤ usizeBits) (data : Bytes) :
    Machine.decodeMessage usizeBits data = some (decodeMessage data) ∧
    (∀ message, decodeMessage data = .ok message ↔ message.Spells data) ∧
    ((¬ ∃ message : UdpMessage, message.Spells data) → ∃ error, decodeMessage data = .error error) := by
  refine ⟨Machine.decodeMessage_eq wide, fun message => decodeMessage_eq_ok_iff, fun foreign => ?_⟩
  cases decoded : decodeMessage data with
  | error error => exact ⟨error, rfl⟩
  | ok message => exact absurd ⟨message, decodeMessage_eq_ok_iff.mp decoded⟩ foreign

/-- A length in the widest form, more than it needs, in front of the text `l:1`. -/
theorem decodeMessage_accepts_grammar_wide : 16 ≤ 64 ∧
    UdpMessage.Spells [0, 0, 0, 9, 0, 7, 0, 1, 0xc0, 0, 0, 0, 0, 0, 0, 3, 0x6c, 0x3a, 0x31, 0xff]
      ⟨9, 7, 0, 1, ⟨"l", 1, by decide⟩, [0xff]⟩ := by
  refine ⟨by decide, ?_⟩
  apply ((decodeMessage_accepts_grammar 64 (by decide) _).2.1 _).mp
  decide

end SingQuic.Hysteria2
