import SingQuic.Address
import SingQuic.Varint
import SingQuic.Lib.Chunks

/-! Hysteria2 UDP messages and the sender that fragments packets into them. -/
namespace SingQuic.Hysteria2
open Wire

def udpHeaderSize : Nat := 8
def maxUdpSize : Nat := 4096
def maxAddressLength : Nat := 2048
def initialUdpMtu : Nat := 1200 - 3

structure Hysteria2Packet where
  data : Bytes
  destination : Address
  deriving DecidableEq, Repr

structure UdpMessage where
  sessionId : UInt32
  packetId : UInt16
  fragmentId : UInt8
  fragmentTotal : UInt8
  destination : Address
  data : Bytes
  deriving DecidableEq, Repr

/-- The value stays below `2 ^ 62`, so the shifts of the source never overflow. -/
def decodeVarint (data : Bytes) : Result (Nat × Nat) :=
  match data with
  | [] => .error (.protocol "missing Hysteria2 UDP address length")
  | first :: _ =>
    let length := Varint.announced first
    if data.length < length then .error (.protocol "truncated Hysteria2 UDP address length")
    else .ok (((data.take length).drop 1).foldl shiftIn (first.toNat % 64), length)

def decodeMessage (data : Bytes) : Result UdpMessage :=
  if data.length < udpHeaderSize then .error (.protocol "truncated Hysteria2 UDP message")
  else
    let sessionId := UInt32.ofNat (ofBigEndian (data.take 4))
    let packetId := UInt16.ofNat (ofBigEndian ((data.drop 4).take 2))
    let fragmentId := data.getD 6 0
    let fragmentTotal := data.getD 7 0
    match decodeVarint (data.drop udpHeaderSize) with
    | .error error => .error error
    | .ok (addressLength, encodedLength) =>
      if addressLength = 0 ∨ maxAddressLength < addressLength then .error .invalidAddress
      else
        let addressStart := udpHeaderSize + encodedLength
        let addressEnd := addressStart + addressLength
        if data.length < addressEnd then .error (.protocol "truncated Hysteria2 UDP address")
        else
          match fromUtf8 ((data.drop addressStart).take addressLength) with
          | none => .error .invalidAddress
          | some text =>
            match Address.fromStr text with
            | .error error => .error error
            | .ok destination =>
              .ok ⟨sessionId, packetId, fragmentId, fragmentTotal, destination, data.drop addressEnd⟩

def encodeMessage (sessionId : UInt32) (packetId : UInt16) (fragmentId fragmentTotal : UInt8)
    (address : String) (addressLength data : Bytes) : Bytes :=
  bigEndian 4 sessionId.toNat ++ bigEndian 2 packetId.toNat ++ [fragmentId, fragmentTotal] ++
    addressLength ++ asBytes address ++ data

/-- What `send` sees of the QUIC connection: the current datagram limit and the
answer to each `send_datagram` call it makes, counted from zero. -/
structure Transport where
  maxDatagramSize : Option Nat
  sendDatagram : Nat → Bytes → Except String Unit

structure Hysteria2PacketConnection where
  sessionId : UInt32
  nextPacketId : UInt32
  deriving DecidableEq, Repr

namespace Hysteria2PacketConnection

/-- `fetch_add(1).wrapping_add(1) % u16::MAX`. -/
def packetId (self : Hysteria2PacketConnection) : UInt16 :=
  UInt16.ofNat ((self.nextPacketId + 1).toNat % 65535)

def budget (maxDatagramSize : Option Nat) : Nat :=
  min ((maxDatagramSize.map (· - 3)).getD initialUdpMtu) initialUdpMtu

/-- The frames of one packet, or the error that stops `send` before the first. -/
def frames (self : Hysteria2PacketConnection) (maxDatagramSize : Option Nat)
    (packet : Hysteria2Packet) : Result (List Bytes) :=
  let address := packet.destination.display
  let size := (asBytes address).length
  if size = 0 ∨ maxAddressLength < size then .error .invalidAddress
  else
    match Varint.encode (UInt64.ofNat size) with
    | .error error => .error error
    | .ok addressLength =>
      let headerSize := udpHeaderSize + addressLength.length + size
      if budget maxDatagramSize ≤ headerSize then
        .error (.protocol "Hysteria2 UDP address exceeds QUIC datagram size")
      else
        let fragmentSize := budget maxDatagramSize - headerSize
        let fragmentTotal := max (Chunks.count fragmentSize packet.data.length) 1
        if 255 < fragmentTotal then .error (.protocol "too many Hysteria2 UDP fragments")
        else
          let encode (fragmentId fragmentTotal : Nat) (data : Bytes) := encodeMessage self.sessionId
            self.packetId (UInt8.ofNat fragmentId) (UInt8.ofNat fragmentTotal) address addressLength data
          let pieces := (Chunks.chunks fragmentSize packet.data).zipIdx.map fun (data, fragmentId) =>
            encode fragmentId fragmentTotal data
          .ok (if packet.data = [] then pieces ++ [encode 0 1 []] else pieces)

/-- Hand the frames over one by one; the first refusal ends the loop. -/
def transmit (sendDatagram : Nat → Bytes → Except String Unit) :
    Nat → List Bytes → List Bytes × Result Unit
  | _, [] => ([], .ok ())
  | call, frame :: rest =>
    match sendDatagram call frame with
    | .error text => ([], .error (.protocol text))
    | .ok () =>
      let (emitted, result) := transmit sendDatagram (call + 1) rest
      (frame :: emitted, result)

/-- The datagrams the connection accepted, the result, and the connection after
the call. The id counter moves as soon as the payload size is accepted. -/
def send (self : Hysteria2PacketConnection) (transport : Transport) (packet : Hysteria2Packet) :
    List Bytes × Result Unit × Hysteria2PacketConnection :=
  if maxUdpSize < packet.data.length then
    ([], .error (.protocol "Hysteria2 UDP packet exceeds 4096 bytes"), self)
  else
    let after := { self with nextPacketId := self.nextPacketId + 1 }
    match self.frames transport.maxDatagramSize packet with
    | .error error => ([], .error error, after)
    | .ok frames =>
      let (emitted, result) := transmit transport.sendDatagram 0 frames
      (emitted, result, after)

end Hysteria2PacketConnection

/-- The length in front of the address is a spelled number, and the offset after it is
the size of its spelling. -/
theorem decodeVarint_eq_ok_iff {data : Bytes} {value length : Nat} :
    decodeVarint data = .ok (value, length) ↔ ∃ bytes rest, Varint.Spells bytes value ∧
      data = bytes ++ rest ∧ length = bytes.length := by
  constructor
  · intro decoded
    cases data with
    | nil => contradiction
    | cons first tail =>
      simp only [decodeVarint] at decoded
      split at decoded
      · contradiction
      · rename_i enough
        obtain ⟨rfl, rfl⟩ := Prod.mk.inj (Except.ok.inj decoded)
        obtain ⟨count, size⟩ : ∃ count, Varint.announced first = count + 1 :=
          ⟨_, (Nat.succ_pred_eq_of_pos (Nat.pow_pos (by decide))).symm⟩
        rw [size, List.length_cons] at enough
        rw [size, List.take_succ_cons, List.drop_succ_cons, List.drop_zero]
        refine ⟨first :: tail.take count, tail.drop count, ?_, by simp, by simp; omega⟩
        exact Varint.spells_iff.mpr ⟨first, tail.take count, rfl, by rw [size]; simp; omega, rfl⟩
  · rintro ⟨bytes, rest, spelled, rfl, rfl⟩
    obtain ⟨first, tail, rfl, size, number⟩ := Varint.spells_iff.mp spelled
    have enough : ¬ (first :: (tail ++ rest)).length < tail.length + 1 := by simp
    have taken : (((first :: (tail ++ rest)).take (tail.length + 1)).drop 1) = tail := by simp
    rw [List.cons_append, decodeVarint, size]
    rw [if_neg enough, taken, number, List.length_cons]

/-- The receiver reads back every field of an encoded message, unless the address
does not parse. -/
theorem decodeMessage_encodeMessage_eq {text : String} {addressLength : Bytes}
    (positive : 0 < (asBytes text).length) (bound : (asBytes text).length ≤ maxAddressLength)
    (spelled : Varint.Spells addressLength (asBytes text).length)
    (sessionId : UInt32) (packetId : UInt16) (fragmentId fragmentTotal : UInt8) (data : Bytes) :
    decodeMessage (encodeMessage sessionId packetId fragmentId fragmentTotal text addressLength data) =
      (Address.fromStr text).map fun destination =>
        ⟨sessionId, packetId, fragmentId, fragmentTotal, destination, data⟩ := by
  obtain ⟨a, b, c, d, session⟩ := List.length_eq_four.mp (length_bigEndian 4 sessionId.toNat)
  obtain ⟨e, f, packet⟩ := List.length_eq_two.mp (length_bigEndian 2 packetId.toNat)
  have sessionValue : ofBigEndian [a, b, c, d] = sessionId.toNat := by
    rw [← session, ofBigEndian_bigEndian_of_lt (by simpa using sessionId.toNat_lt)]
  have packetValue : ofBigEndian [e, f] = packetId.toNat := by
    rw [← packet, ofBigEndian_bigEndian_of_lt (by simpa using packetId.toNat_lt)]
  let header : Bytes := [a, b, c, d, e, f, fragmentId, fragmentTotal]
  let body : Bytes := addressLength ++ (asBytes text ++ data)
  have shape : encodeMessage sessionId packetId fragmentId fragmentTotal text addressLength data =
      header ++ body := by
    simp [encodeMessage, session, packet, header, body]
  have start : (header ++ body).drop (udpHeaderSize + addressLength.length) = asBytes text ++ data := by
    rw [show udpHeaderSize = header.length from rfl, List.drop_length_add_append, List.drop_left]
  have rest : (header ++ body).drop (udpHeaderSize + addressLength.length + (asBytes text).length) =
      data := by
    rw [← List.drop_drop, start, List.drop_left]
  have whole : (header ++ body).length =
      udpHeaderSize + addressLength.length + (asBytes text).length + data.length := by
    simp only [header, body, udpHeaderSize, List.length_append, List.length_cons, List.length_nil]
    omega
  rw [shape, decodeMessage, if_neg (by omega)]
  have read : decodeVarint ((header ++ body).drop udpHeaderSize) =
      .ok ((asBytes text).length, addressLength.length) := by
    rw [show udpHeaderSize = header.length from rfl, List.drop_left]
    exact decodeVarint_eq_ok_iff.mpr ⟨addressLength, _, spelled, rfl, rfl⟩
  rw [read]
  dsimp only
  rw [if_neg (by omega), if_neg (by omega), start, List.take_left, fromUtf8_asBytes]
  dsimp only
  rw [rest]
  simp only [header, List.cons_append, List.take_succ_cons, List.take_zero, List.drop_succ_cons,
    List.drop_zero, List.getD_cons_succ, List.getD_cons_zero, sessionValue, packetValue,
    UInt32.ofNat_toNat, UInt16.ofNat_toNat]
  cases Address.fromStr text <;> rfl

theorem decodeMessage_encodeMessage {text : String} {destination : Address} {addressLength : Bytes}
    (parsed : Address.fromStr text = .ok destination)
    (positive : 0 < (asBytes text).length) (bound : (asBytes text).length ≤ maxAddressLength)
    (spelled : Varint.Spells addressLength (asBytes text).length)
    (sessionId : UInt32) (packetId : UInt16) (fragmentId fragmentTotal : UInt8) (data : Bytes) :
    decodeMessage (encodeMessage sessionId packetId fragmentId fragmentTotal text addressLength data) =
      .ok ⟨sessionId, packetId, fragmentId, fragmentTotal, destination, data⟩ := by
  rw [decodeMessage_encodeMessage_eq positive bound spelled, parsed]
  rfl

namespace Hysteria2PacketConnection
variable {self : Hysteria2PacketConnection}

/-- The message the peer should read from one frame of a packet. -/
def fragment (self : Hysteria2PacketConnection) (destination : Address) (total : Nat)
    (piece : Bytes × Nat) : UdpMessage :=
  ⟨self.sessionId, self.packetId, UInt8.ofNat piece.2, UInt8.ofNat total, destination, piece.1⟩

/-- The messages of a packet cut into the given parts. -/
def messages (self : Hysteria2PacketConnection) (destination : Address) (parts : List Bytes) :
    List UdpMessage :=
  parts.zipIdx.map (self.fragment destination parts.length)

theorem mem_messages {destination : Address} {parts : List Bytes} {message : UdpMessage} :
    message ∈ self.messages destination parts ↔ ∃ index data, parts[index]? = some data ∧
      message = self.fragment destination parts.length (data, index) := by
  simp only [messages, List.mem_map, Prod.exists, List.mem_zipIdx_iff_getElem?]
  constructor
  · rintro ⟨data, index, here, rfl⟩
    exact ⟨index, data, here, rfl⟩
  · rintro ⟨index, data, here, rfl⟩
    exact ⟨data, index, here, rfl⟩

end Hysteria2PacketConnection
end SingQuic.Hysteria2
