import SingQuic.Hysteria2.Packet
import SingQuic.Lib.Table

/-! What `send` hands to the QUIC connection: how a packet is cut, which packets
are given up before the first datagram, and what the peer reads of each frame. -/
namespace SingQuic.Hysteria2
open Wire

namespace Hysteria2PacketConnection
variable {self : Hysteria2PacketConnection} {transport : Transport} {packet : Hysteria2Packet}
  {limit : Option Nat}

def addressSize (destination : Address) : Nat := (asBytes destination.display).length

/-- The bytes in front of the data in every frame to a destination. -/
def headerSize (destination : Address) : Nat :=
  udpHeaderSize + Varint.width (addressSize destination) + addressSize destination

/-- The packets `send` gives up before the first datagram. -/
def Refuses (limit : Option Nat) (packet : Hysteria2Packet) : Prop :=
  maxUdpSize < packet.data.length ∨ maxAddressLength < addressSize packet.destination ∨
    budget limit ≤ headerSize packet.destination ∨
    255 < Chunks.count (budget limit - headerSize packet.destination) packet.data.length

instance (limit : Option Nat) (packet : Hysteria2Packet) : Decidable (Refuses limit packet) :=
  inferInstanceAs (Decidable (_ ∨ _))

theorem not_refuses_iff : ¬ Refuses limit packet ↔ packet.data.length ≤ maxUdpSize ∧
    addressSize packet.destination ≤ maxAddressLength ∧ headerSize packet.destination < budget limit ∧
    Chunks.count (budget limit - headerSize packet.destination) packet.data.length ≤ 255 := by
  simp only [Refuses, not_or, Nat.not_lt, Nat.not_le]

/-- How a packet is cut; an empty one still travels in one frame. -/
def pieces (limit : Option Nat) (packet : Hysteria2Packet) : List Bytes :=
  if packet.data = [] then [[]]
  else Chunks.chunks (budget limit - headerSize packet.destination) packet.data

theorem addressSize_pos (destination : Address) : 0 < addressSize destination := by
  apply Nat.pos_of_ne_zero
  intro zero
  have bytes : asBytes destination.display = asBytes "" := List.eq_nil_of_length_eq_zero zero
  have text : destination.display = "" := by
    have same := congrArg fromUtf8 bytes
    simpa only [fromUtf8_asBytes, Option.some.injEq] using same
  have characters := Address.toList_display destination
  rw [text] at characters
  simp at characters

/-- The length field of every admissible address can be encoded. -/
theorem encode_addressSize {destination : Address} (short : addressSize destination ≤ maxAddressLength) :
    ∃ addressLength, Varint.encode (UInt64.ofNat (addressSize destination)) = .ok addressLength ∧
      addressLength.length = Varint.width (addressSize destination) := by
  simp only [maxAddressLength] at short
  have size : (UInt64.ofNat (addressSize destination)).toNat = addressSize destination := by
    rw [UInt64.toNat_ofNat', Nat.mod_eq_of_lt (by omega)]
  have fits : (UInt64.ofNat (addressSize destination)).toNat ≤ Varint.maximum := by
    rw [size, Varint.maximum]
    omega
  obtain ⟨first, tail, encoded, _, _, width⟩ := Varint.encode_spec fits
  exact ⟨first :: tail, encoded, by rw [List.length_cons, width, size]⟩

theorem spells_addressSize {destination : Address} {addressLength : Bytes}
    (short : addressSize destination ≤ maxAddressLength)
    (encoded : Varint.encode (UInt64.ofNat (addressSize destination)) = .ok addressLength) :
    Varint.Spells addressLength (addressSize destination) := by
  apply Varint.encode_ofNat_spells _ encoded
  simp only [maxAddressLength] at short
  rw [Varint.maximum]
  omega

theorem frames_refused (self : Hysteria2PacketConnection) (small : packet.data.length ≤ maxUdpSize)
    (refused : Refuses limit packet) : ∃ error, self.frames limit packet = .error error := by
  simp only [frames]
  split
  · exact ⟨_, rfl⟩
  rename_i legal
  have short : addressSize packet.destination ≤ maxAddressLength := by
    simp only [addressSize]
    omega
  obtain ⟨addressLength, encoded, width⟩ := encode_addressSize short
  simp only [addressSize] at encoded width
  rw [encoded]
  dsimp only
  rcases refused with large | long | full | many
  · omega
  · omega
  · rw [if_pos (by simpa only [headerSize, addressSize, width] using full)]
    exact ⟨_, rfl⟩
  · split
    · exact ⟨_, rfl⟩
    · rw [if_pos]
      · exact ⟨_, rfl⟩
      · simp only [headerSize, addressSize] at many
        rw [width]
        omega

theorem frames_eq (self : Hysteria2PacketConnection) (accepted : ¬ Refuses limit packet) :
    ∃ addressLength, Varint.encode (UInt64.ofNat (addressSize packet.destination)) = .ok addressLength ∧
      udpHeaderSize + addressLength.length + addressSize packet.destination =
        headerSize packet.destination ∧
      self.frames limit packet = .ok ((pieces limit packet).zipIdx.map fun piece =>
        encodeMessage self.sessionId self.packetId (UInt8.ofNat piece.2)
          (UInt8.ofNat (pieces limit packet).length) packet.destination.display addressLength piece.1) := by
  obtain ⟨_, short, room, few⟩ := not_refuses_iff.mp accepted
  obtain ⟨addressLength, encoded, width⟩ := encode_addressSize short
  have positive := addressSize_pos packet.destination
  have header : udpHeaderSize + addressLength.length + addressSize packet.destination =
      headerSize packet.destination := by
    rw [width, headerSize]
  refine ⟨addressLength, encoded, header, ?_⟩
  simp only [addressSize] at encoded header positive short
  simp only [frames]
  rw [if_neg (by omega), encoded]
  dsimp only
  rw [header, if_neg (by omega), if_neg (by omega)]
  by_cases empty : packet.data = []
  · have none : Chunks.chunks (budget limit - headerSize packet.destination) packet.data = [] := by
      apply List.eq_nil_of_length_eq_zero
      rw [Chunks.length_chunks, Chunks.count_eq_zero (by omega), empty, List.length_nil]
    rw [if_pos empty, none, pieces, if_pos empty]
    rfl
  · have some : Chunks.count (budget limit - headerSize packet.destination) packet.data.length ≠ 0 := by
      rw [Ne, Chunks.count_eq_zero (by omega), List.length_eq_zero_iff]
      exact empty
    rw [if_neg empty, pieces, if_neg empty, Chunks.length_chunks, Nat.max_eq_left (by omega)]

/-- The parts and the frames of a packet that is not given up. -/
structure Fragmentation (connection : Hysteria2PacketConnection) (limit : Option Nat)
    (packet : Hysteria2Packet) (parts frames : List Bytes) : Prop where
  /-- The header leaves room, so the part size is a positive difference. -/
  room : headerSize packet.destination < budget limit
  one : 1 ≤ parts.length
  few : parts.length ≤ 255
  joined : parts.flatten = packet.data
  substantial : packet.data ≠ [] → ∀ part ∈ parts, part ≠ []
  single : packet.data = [] → parts = [[]]
  count : frames.length = parts.length
  frame : ∀ index part, parts[index]? = some part →
    ∃ fragmentId fragmentTotal addressLength, fragmentId.toNat = index ∧
      fragmentTotal.toNat = parts.length ∧
      Varint.encode (UInt64.ofNat (addressSize packet.destination)) = .ok addressLength ∧
      frames[index]? = some (encodeMessage connection.sessionId connection.packetId fragmentId fragmentTotal
        packet.destination.display addressLength part)
  fits : ∀ frame ∈ frames, frame.length ≤ budget limit

theorem length_encodeMessage (sessionId : UInt32) (packetId : UInt16) (fragmentId fragmentTotal : UInt8)
    (destination : Address) (addressLength data : Bytes) :
    (encodeMessage sessionId packetId fragmentId fragmentTotal destination.display addressLength
      data).length = udpHeaderSize + addressLength.length + addressSize destination + data.length := by
  simp only [encodeMessage, List.length_append, length_bigEndian, List.length_cons, List.length_nil,
    udpHeaderSize, addressSize]

theorem pieces_bounds (accepted : ¬ Refuses limit packet) :
    1 ≤ (pieces limit packet).length ∧ (pieces limit packet).length ≤ 255 ∧
      (pieces limit packet).flatten = packet.data := by
  obtain ⟨_, _, room, few⟩ := not_refuses_iff.mp accepted
  have positive : 0 < budget limit - headerSize packet.destination := by omega
  unfold pieces
  by_cases empty : packet.data = []
  · rw [if_pos empty, empty]
    simp
  · have some : Chunks.count (budget limit - headerSize packet.destination) packet.data.length ≠ 0 := by
      rw [Ne, Chunks.count_eq_zero positive, List.length_eq_zero_iff]
      exact empty
    rw [if_neg empty, Chunks.length_chunks]
    exact ⟨by omega, few, Chunks.flatten_chunks positive⟩

theorem length_piece (accepted : ¬ Refuses limit packet) {part : Bytes}
    (member : part ∈ pieces limit packet) :
    headerSize packet.destination + part.length ≤ budget limit := by
  obtain ⟨_, _, room, _⟩ := not_refuses_iff.mp accepted
  unfold pieces at member
  split at member
  · rw [List.mem_singleton.mp member, List.length_nil]
    omega
  · obtain ⟨index, _, rfl⟩ := Chunks.mem_chunks.mp member
    have bound : (Chunks.piece (budget limit - headerSize packet.destination) packet.data index).length ≤ _ :=
      Chunks.length_piece_le index
    omega

theorem piece_ne_nil (accepted : ¬ Refuses limit packet) (nonempty : packet.data ≠ []) {part : Bytes}
    (member : part ∈ pieces limit packet) : part ≠ [] := by
  obtain ⟨_, _, room, _⟩ := not_refuses_iff.mp accepted
  rw [pieces, if_neg nonempty] at member
  obtain ⟨index, present, rfl⟩ := Chunks.mem_chunks.mp member
  exact Chunks.piece_ne_nil (by omega) present

theorem frames_fragmentation (self : Hysteria2PacketConnection) (accepted : ¬ Refuses limit packet) :
    ∃ frames, self.frames limit packet = .ok frames ∧
      Fragmentation self limit packet (pieces limit packet) frames := by
  obtain ⟨addressLength, encoded, header, framed⟩ := frames_eq self accepted
  obtain ⟨one, few, joined⟩ := pieces_bounds accepted
  obtain ⟨_, _, room, _⟩ := not_refuses_iff.mp accepted
  refine ⟨_, framed, room, one, few, joined, ?_, ?_, by simp, ?_, ?_⟩
  · intro nonempty part member
    exact piece_ne_nil accepted nonempty member
  · intro empty
    rw [pieces, if_pos empty]
  · intro index part here
    have bound := (List.getElem?_eq_some_iff.mp here).1
    refine ⟨UInt8.ofNat index, UInt8.ofNat (pieces limit packet).length, addressLength, ?_, ?_, encoded, ?_⟩
    · rw [UInt8.toNat_ofNat', Nat.mod_eq_of_lt (by omega)]
    · rw [UInt8.toNat_ofNat', Nat.mod_eq_of_lt (by omega)]
    · rw [List.getElem?_map, List.getElem?_zipIdx, here]
      simp
  · intro frame member
    obtain ⟨⟨part, index⟩, found, rfl⟩ := List.mem_map.mp member
    have piece : part ∈ pieces limit packet := by
      have here := List.mem_zipIdx_iff_getElem?.mp found
      exact List.mem_of_getElem? here
    rw [length_encodeMessage, header]
    exact length_piece accepted piece

/-- The peer decodes the frames of a packet to its parts, numbered in order. -/
theorem frames_spec {frames : List Bytes} (accepted : ¬ Refuses limit packet)
    (roundTrips : packet.destination.RoundTrips) (framed : self.frames limit packet = .ok frames) :
    ∃ parts : List Bytes, 0 < parts.length ∧ parts.length ≤ 255 ∧ parts.flatten = packet.data ∧
      frames.map decodeMessage = (self.messages packet.destination parts).map .ok := by
  obtain ⟨_, short, _⟩ := not_refuses_iff.mp accepted
  obtain ⟨addressLength, encoded, _, same⟩ := frames_eq self accepted
  obtain ⟨one, few, joined⟩ := pieces_bounds accepted
  obtain rfl := Except.ok.inj (framed.symm.trans same)
  refine ⟨pieces limit packet, one, few, joined, ?_⟩
  rw [messages, List.map_map, List.map_map]
  apply List.map_congr_left
  rintro ⟨part, index⟩ _
  have spelled := spells_addressSize short encoded
  exact decodeMessage_encodeMessage roundTrips (addressSize_pos _) short spelled _ _ _ _ part

/-- The frames are handed over in order, up to the first one that is refused. -/
theorem transmit_cases (sendDatagram : Nat → Bytes → Except String Unit) (call : Nat)
    (frames : List Bytes) :
    (∀ index frame, frames[index]? = some frame → sendDatagram (call + index) frame = .ok ()) ∧
        transmit sendDatagram call frames = (frames, .ok ()) ∨
      ∃ count frame text, frames[count]? = some frame ∧
        sendDatagram (call + count) frame = .error text ∧
        (∀ index earlier, index < count → frames[index]? = some earlier →
          sendDatagram (call + index) earlier = .ok ()) ∧
        transmit sendDatagram call frames = (frames.take count, .error (.protocol text)) := by
  induction frames generalizing call with
  | nil => exact Or.inl ⟨by simp, rfl⟩
  | cons frame rest ih =>
    cases answer : sendDatagram call frame with
    | error text => exact Or.inr ⟨0, frame, text, rfl, answer, by simp, by simp [transmit, answer]⟩
    | ok =>
      rcases ih (call + 1) with ⟨accepted, same⟩ | ⟨count, refused, text, here, error, earlier, same⟩
      · refine Or.inl ⟨?_, by simp [transmit, answer, same]⟩
        intro index other found
        cases index with
        | zero =>
          obtain rfl := Option.some.inj found
          exact answer
        | succ index =>
          have later := accepted index other found
          rwa [Nat.add_assoc, Nat.add_comm 1] at later
      · refine Or.inr ⟨count + 1, refused, text, here, ?_, ?_, by simp [transmit, answer, same]⟩
        · rwa [Nat.add_assoc, Nat.add_comm 1] at error
        · intro index other less found
          cases index with
          | zero =>
            obtain rfl := Option.some.inj found
            exact answer
          | succ index =>
            have later := earlier index other (by omega) found
            rwa [Nat.add_assoc, Nat.add_comm 1] at later

theorem send_refused (self : Hysteria2PacketConnection) (refused : Refuses transport.maxDatagramSize packet) :
    (self.send transport packet).1 = [] ∧ ∃ error, (self.send transport packet).2.1 = .error error := by
  unfold send
  split
  · exact ⟨rfl, _, rfl⟩
  · rename_i small
    obtain ⟨error, framed⟩ := frames_refused self (Nat.not_lt.mp small) refused
    dsimp only
    rw [framed]
    exact ⟨rfl, error, rfl⟩

theorem send_accepted {frames : List Bytes} (accepted : ¬ Refuses transport.maxDatagramSize packet)
    (framed : self.frames transport.maxDatagramSize packet = .ok frames) :
    (self.send transport packet).1 = (transmit transport.sendDatagram 0 frames).1 ∧
      (self.send transport packet).2.1 = (transmit transport.sendDatagram 0 frames).2 := by
  have small : ¬ maxUdpSize < packet.data.length := fun large => accepted (Or.inl large)
  unfold send
  rw [if_neg small]
  dsimp only
  rw [framed]
  exact ⟨rfl, rfl⟩

/-- Whatever `send` emits is a prefix of the packet's frames; if it succeeds,
it is all of them. -/
theorem send_spec {emitted : List Bytes} {result : Result Unit} {after : Hysteria2PacketConnection}
    (sent : self.send transport packet = (emitted, result, after)) :
    (emitted = [] ∧ result ≠ .ok ()) ∨
      ¬ Refuses transport.maxDatagramSize packet ∧
        ∃ frames, self.frames transport.maxDatagramSize packet = .ok frames ∧ emitted <+: frames ∧
          (result = .ok () → emitted = frames) := by
  by_cases refused : Refuses transport.maxDatagramSize packet
  · obtain ⟨silent, error, failed⟩ := send_refused self refused
    rw [sent] at silent failed
    refine Or.inl ⟨silent, fun succeeded => ?_⟩
    rw [succeeded] at failed
    contradiction
  · obtain ⟨frames, framed, _⟩ := frames_fragmentation self refused
    obtain ⟨emits, returns⟩ := send_accepted refused framed
    rw [sent] at emits returns
    refine Or.inr ⟨refused, frames, framed, ?_⟩
    rcases transmit_cases transport.sendDatagram 0 frames with
      ⟨_, same⟩ | ⟨count, _, _, _, _, _, same⟩
    · obtain rfl : emitted = frames := by rw [same] at emits; exact emits
      exact ⟨List.prefix_refl _, fun _ => rfl⟩
    · obtain rfl : emitted = frames.take count := by rw [same] at emits; exact emits
      refine ⟨List.take_prefix count frames, fun succeeded => ?_⟩
      rw [same, succeeded] at returns
      contradiction

/-- Either a packet is given up before any datagram, for one of the four reasons,
or its parts are emitted in order, one frame each, as long as the connection takes
them. -/
theorem send_fragments_exactly (self : Hysteria2PacketConnection) (transport : Transport)
    (packet : Hysteria2Packet) :
    Refuses transport.maxDatagramSize packet ∧ (self.send transport packet).1 = [] ∧
        (∃ error, (self.send transport packet).2.1 = .error error) ∨
      ¬ Refuses transport.maxDatagramSize packet ∧ ∃ parts frames,
        Fragmentation self transport.maxDatagramSize packet parts frames ∧
        ((∀ index frame, frames[index]? = some frame → transport.sendDatagram index frame = .ok ()) ∧
            (self.send transport packet).1 = frames ∧ (self.send transport packet).2.1 = .ok () ∨
          ∃ count frame text, frames[count]? = some frame ∧
            transport.sendDatagram count frame = .error text ∧
            (∀ index earlier, index < count → frames[index]? = some earlier →
              transport.sendDatagram index earlier = .ok ()) ∧
            (self.send transport packet).1 = frames.take count ∧
            (self.send transport packet).2.1 = .error (.protocol text)) := by
  by_cases refused : Refuses transport.maxDatagramSize packet
  · obtain ⟨silent, failed⟩ := send_refused self refused
    exact Or.inl ⟨refused, silent, failed⟩
  · obtain ⟨frames, framed, cut⟩ := frames_fragmentation self refused
    obtain ⟨emitted, result⟩ := send_accepted refused framed
    refine Or.inr ⟨refused, pieces transport.maxDatagramSize packet, frames, cut, ?_⟩
    have cases := transmit_cases transport.sendDatagram 0 frames
    simp only [Nat.zero_add] at cases
    rcases cases with ⟨all, same⟩ | ⟨count, frame, text, here, error, earlier, same⟩
    · exact Or.inl ⟨all, by rw [emitted, same], by rw [result, same]⟩
    · exact Or.inr ⟨count, frame, text, here, error, earlier, by rw [emitted, same], by rw [result, same]⟩

/-- The arguments of the `send_datagram` calls, a refused last one included. -/
def offered (sendDatagram : Nat → Bytes → Except String Unit) : Nat → List Bytes → List Bytes
  | _, [] => []
  | call, frame :: rest =>
    match sendDatagram call frame with
    | .error _ => [frame]
    | .ok () => frame :: offered sendDatagram (call + 1) rest

/-- The frames one call of `send` hands to `send_datagram`. -/
def handed (self : Hysteria2PacketConnection) (transport : Transport) (packet : Hysteria2Packet) :
    List Bytes :=
  if maxUdpSize < packet.data.length then []
  else
    match self.frames transport.maxDatagramSize packet with
    | .error _ => []
    | .ok frames => offered transport.sendDatagram 0 frames

theorem offered_isPrefix (sendDatagram : Nat → Bytes → Except String Unit) (call : Nat)
    (frames : List Bytes) : offered sendDatagram call frames <+: frames := by
  induction frames generalizing call with
  | nil => exact List.prefix_refl _
  | cons frame rest ih =>
    simp only [offered]
    split
    · exact ⟨rest, rfl⟩
    · exact List.cons_prefix_cons.mpr ⟨rfl, ih _⟩

theorem offered_head (sendDatagram : Nat → Bytes → Except String Unit) (call : Nat) (frame : Bytes)
    (rest : List Bytes) : (offered sendDatagram call (frame :: rest))[0]? = some frame := by
  simp only [offered]
  split <;> rfl

theorem handed_refused (self : Hysteria2PacketConnection)
    (refused : Refuses transport.maxDatagramSize packet) : self.handed transport packet = [] := by
  unfold handed
  split
  · rfl
  · rename_i small
    obtain ⟨error, framed⟩ := frames_refused self (Nat.not_lt.mp small) refused
    rw [framed]

theorem handed_accepted {frames : List Bytes} (accepted : ¬ Refuses transport.maxDatagramSize packet)
    (framed : self.frames transport.maxDatagramSize packet = .ok frames) :
    self.handed transport packet = offered transport.sendDatagram 0 frames := by
  have small : ¬ maxUdpSize < packet.data.length := fun large => accepted (Or.inl large)
  rw [handed, if_neg small, framed]

/-- What the peer reads of one frame depends on the destination's text alone. -/
theorem decodeMessage_frame {parts frames : List Bytes} {index : Nat} {part frame : Bytes}
    (cut : Fragmentation self limit packet parts frames)
    (short : addressSize packet.destination ≤ maxAddressLength)
    (here : parts[index]? = some part) (found : frames[index]? = some frame) :
    decodeMessage frame = (Address.fromStr packet.destination.display).map fun destination =>
      self.fragment destination parts.length (part, index) := by
  obtain ⟨fragmentId, fragmentTotal, addressLength, number, total, encoded, same⟩ :=
    cut.frame index part here
  rw [found] at same
  obtain rfl := Option.some.inj same
  rw [decodeMessage_encodeMessage_eq (addressSize_pos _) short (spells_addressSize short encoded)]
  simp only [fragment, ← number, ← total, UInt8.ofNat_toNat]

/-- The peer can decode everything handed to the connection, with the fields it
was built from, unless the host is an empty pair of brackets. -/
theorem handed_decodes_iff (self : Hysteria2PacketConnection) (transport : Transport)
    (packet : Hysteria2Packet) :
    (∀ index frame, (self.handed transport packet)[index]? = some frame → ∃ part destination,
        (pieces transport.maxDatagramSize packet)[index]? = some part ∧
        decodeMessage frame = .ok (self.fragment destination
          (pieces transport.maxDatagramSize packet).length (part, index))) ↔
      packet.destination.host ≠ "[]" ∨ Refuses transport.maxDatagramSize packet := by
  by_cases refused : Refuses transport.maxDatagramSize packet
  · simp [handed_refused self refused, refused]
  obtain ⟨frames, framed, cut⟩ := frames_fragmentation self refused
  obtain ⟨_, short, _⟩ := not_refuses_iff.mp refused
  rw [handed_accepted refused framed]
  simp only [refused, or_false]
  constructor
  · intro decodes odd
    obtain ⟨first, rest, rfl⟩ := List.exists_cons_of_length_pos (cut.count ▸ cut.one)
    obtain ⟨part, destination, here, read⟩ := decodes 0 first (offered_head _ _ _ _)
    rw [decodeMessage_frame cut short here rfl, Address.fromStr_display_brackets odd] at read
    contradiction
  · intro plain index frame found
    have inside : frames[index]? = some frame :=
      Table.kept (offered_isPrefix transport.sendDatagram 0 frames) found
    have bound : index < (pieces transport.maxDatagramSize packet).length :=
      cut.count ▸ (List.getElem?_eq_some_iff.mp inside).1
    have here := List.getElem?_eq_getElem bound
    obtain ⟨destination, parsed⟩ := Address.fromStr_display plain
    refine ⟨_, destination, here, ?_⟩
    rw [decodeMessage_frame cut short here inside, parsed]
    rfl

/-- A one-byte packet to a host of two brackets, which `Address::new` accepts. -/
theorem handed_undecodable : ¬ ∀ (self : Hysteria2PacketConnection) (transport : Transport)
    (packet : Hysteria2Packet), ∀ frame ∈ self.handed transport packet,
      ∃ message, decodeMessage frame = .ok message := by
  intro decodes
  obtain ⟨message, read⟩ := decodes ⟨1, 0⟩ ⟨none, fun _ _ => .ok ()⟩ ⟨[7], ⟨"[]", 53, by decide⟩⟩
    [0, 0, 0, 1, 0, 1, 0, 1, 5, 91, 93, 58, 53, 51, 7] (by decide)
  have failed : decodeMessage [0, 0, 0, 1, 0, 1, 0, 1, 5, 91, 93, 58, 53, 51, 7] =
      .error .invalidAddress := by decide
  rw [failed] at read
  contradiction

end Hysteria2PacketConnection
end SingQuic.Hysteria2
