import SingQuic.Net.SocketText
import SingQuic.ShadowQuic.Send

/-! Address frames in both directions. What is encoded is decoded as the canonical form
of the address and encoded again as the same bytes; what is decoded can be encoded again
unless a domain record holds what the encoder would not have put there. -/
namespace SingQuic.ShadowQuic
open Wire Net Reader

/-- A host of ASCII characters only. -/
def Ascii (host : String) : Prop := (asBytes host).all (· < 128) = true

instance (host : String) : Decidable (Ascii host) := inferInstanceAs (Decidable (_ = _))

theorem asBytes_ne_nil {text : String} (nonempty : text ≠ "") : asBytes text ≠ [] := by
  intro empty
  have decoded := fromUtf8_asBytes text
  rw [empty] at decoded
  exact nonempty (Option.some.inj decoded).symm

/-- The encoder refuses names only, those too long for their length byte or not in ASCII. -/
theorem encodeAddress_error_iff {destination : Address} :
    (∃ error, encodeAddress destination = .error error) ↔ IpAddr.parse destination.host = none ∧
      (255 < (asBytes destination.host).length ∨ ¬ Ascii destination.host) := by
  have named := asBytes_ne_nil destination.nonempty
  unfold encodeAddress
  cases IpAddr.parse destination.host with
  | some ip => cases ip <;> simp
  | none =>
    dsimp only
    split
    · rename_i refused
      simp only [named, false_or] at refused
      exact iff_of_true ⟨_, rfl⟩ ⟨rfl, refused⟩
    · rename_i accepted
      simp only [named, false_or] at accepted
      refine iff_of_false (by simp) fun refused => accepted refused.2

theorem canonical_port (destination : Address) : (canonical destination).port = destination.port := by
  unfold canonical
  split <;> rfl

/-- Whether an address is encoded depends on its canonical form only. -/
theorem encodeAddress_canonical (destination : Address) :
    encodeAddress (canonical destination) = encodeAddress destination := by
  cases parsed : IpAddr.parse destination.host with
  | none => rw [show canonical destination = destination by rw [canonical, parsed]]
  | some ip =>
    have again : IpAddr.parse (canonical destination).host = some ip := by
      rw [canonical, parsed]
      exact ip.parse_display
    rw [encodeAddress, encodeAddress, again, parsed, canonical_port]
    cases ip <;> rfl

theorem canonical_eq_self_iff {destination : Address} : canonical destination = destination ↔
    ∀ ip, IpAddr.parse destination.host = some ip → destination.host = ip.display := by
  unfold canonical
  cases parsed : IpAddr.parse destination.host with
  | none => simp
  | some ip =>
    constructor
    · rintro same other ⟨⟩
      exact (congrArg Address.host same).symm
    · intro literal
      obtain ⟨host, port, nonempty⟩ := destination
      obtain rfl : host = ip.display := literal ip rfl
      rfl

/-- Decoding undoes encoding up to the canonical text of IP literals, stops where the
frame ends, and encoding again gives the same frame. -/
theorem address_frame_codec (destination : Address) :
    ((∃ error, encodeAddress destination = .error error) ↔ IpAddr.parse destination.host = none ∧
      (255 < (asBytes destination.host).length ∨ ¬ Ascii destination.host)) ∧
    ∀ bytes, encodeAddress destination = .ok bytes → ∃ decoded : Address,
      (∀ rest, decodeAddress (bytes ++ rest) = .done decoded rest) ∧
      decoded.port = destination.port ∧
      (IpAddr.parse destination.host = none → decoded.host = destination.host) ∧
      (∀ ip, IpAddr.parse destination.host = some ip → decoded.host = ip.display) ∧
      encodeAddress decoded = .ok bytes := by
  refine ⟨encodeAddress_error_iff, fun bytes encoded => ⟨canonical destination, ?_, ?_, ?_, ?_, ?_⟩⟩
  · exact decodeAddress_encodeAddress encoded
  · exact canonical_port destination
  · intro name
    rw [canonical, name]
  · intro ip literal
    rw [canonical, literal]
  · rw [encodeAddress_canonical, encoded]

theorem address_frame_codec_literal : encodeAddress ⟨"0::2", 80, by decide⟩ =
      .ok [4, 0, 0, 0, 0, 0, 0, 0, 0, 0, 0, 0, 0, 0, 0, 0, 2, 0, 80] ∧
    ∃ decoded : Address, decoded.host = "::2" ∧ encodeAddress decoded =
      .ok [4, 0, 0, 0, 0, 0, 0, 0, 0, 0, 0, 0, 0, 0, 0, 0, 2, 0, 80] := by
  have encoded : encodeAddress ⟨"0::2", 80, by decide⟩ =
      .ok [4, 0, 0, 0, 0, 0, 0, 0, 0, 0, 0, 0, 0, 0, 0, 0, 2, 0, 80] := by decide
  obtain ⟨decoded, _, _, _, literal, again⟩ := (address_frame_codec _).2 _ encoded
  refine ⟨encoded, decoded, ?_, again⟩
  have parsed : IpAddr.parse "0::2" =
      some (.v6 ⟨[0, 0, 0, 0, 0, 0, 0, 0, 0, 0, 0, 0, 0, 0, 0, 2], rfl⟩) := by decide
  rw [literal _ parsed]
  decide

/-- What a peer owes a destination it has read: the address can be encoded and is read
as the same again, in a record of the control stream too, and no call of `send` with it
fails for the address. -/
structure SendsBack (destination : Address) : Prop where
  recoded : ∃ bytes, encodeAddress destination = .ok bytes ∧
    (∀ rest, decodeAddress (bytes ++ rest) = .done destination rest) ∧
    ∀ id rest, readRecord (encodeRecord bytes id ++ rest) = .done (destination, id) rest
  sent : ∀ (sender next : Sender) (association : Nat) (connection : PacketConnection) (data : Bytes)
    (answer : Except String Unit) (result : Result Unit),
    sender.start association connection ⟨data, destination⟩ answer = some next →
    next.results = sender.results ++ [(sender.calls.length, result)] → result ≠ .error .invalidAddress

/-- A domain record that the encoder could have written: its name is an IP literal only
in canonical text, and otherwise in ASCII. -/
def DomainEncodable (input : Bytes) : Prop :=
  ∀ length name tail, input = sqDomain :: length :: (asBytes name ++ tail) →
    (asBytes name).length = length.toNat →
    (IpAddr.parse name = none → Ascii name) ∧ ∀ ip, IpAddr.parse name = some ip → name = ip.display

/-- The host is the canonical text of an IP, or the name in a domain record. -/
theorem decodeHost_eq_done {input rest : Bytes} {host : String}
    (read : decodeHost input = .done host rest) :
    (∃ (ip : IpAddr) (kind : UInt8) (tail : Bytes), host = ip.display ∧ input = kind :: tail ∧ kind ≠ sqDomain) ∨
      ∃ length, input = sqDomain :: length :: (asBytes host ++ rest) ∧
        (asBytes host).length = length.toNat := by
  unfold decodeHost at read
  obtain ⟨kind, tail, first, further⟩ := bind_eq_done_iff.mp read
  obtain rfl := readByte_eq_done_iff.mp first
  split at further
  · rename_i v4
    obtain ⟨octets, left, _, named⟩ := bind_eq_done_iff.mp further
    obtain ⟨rfl, _⟩ := Read.done.inj named
    exact Or.inl ⟨_, kind, tail, rfl, rfl, by rw [v4]; decide⟩
  split at further
  · rename_i v6
    obtain ⟨octets, left, _, named⟩ := bind_eq_done_iff.mp further
    obtain ⟨rfl, _⟩ := Read.done.inj named
    exact Or.inl ⟨_, kind, tail, rfl, rfl, by rw [v6]; decide⟩
  split at further
  · rename_i domain
    subst kind
    obtain ⟨length, left, counted, named⟩ := bind_eq_done_iff.mp further
    obtain ⟨bytes, after, taken, decoded⟩ := bind_eq_done_iff.mp named
    obtain ⟨size, rfl⟩ := readExact_eq_done_iff.mp taken
    obtain rfl := readByte_eq_done_iff.mp counted
    cases text : fromUtf8 bytes with
    | none =>
      rw [text] at decoded
      contradiction
    | some name =>
      rw [text] at decoded
      obtain ⟨rfl, rfl⟩ := Read.done.inj decoded
      obtain rfl := fromUtf8_eq_some_iff.mp text
      exact Or.inr ⟨length, rfl, size⟩
  · contradiction

theorem decodeAddress_eq_done {input rest : Bytes} {destination : Address}
    (read : decodeAddress input = .done destination rest) :
    ∃ left, decodeHost input = .done destination.host left := by
  unfold decodeAddress at read
  obtain ⟨host, left, named, further⟩ := bind_eq_done_iff.mp read
  obtain ⟨port, after, _, built⟩ := bind_eq_done_iff.mp further
  unfold Address.new at built
  split at built
  · obtain ⟨rfl, rfl⟩ := Read.done.inj built
    exact ⟨left, named⟩
  · contradiction

section Results
variable {sender self next : Sender} {association call : Nat} {connection : PacketConnection}
  {data : Bytes} {answer : Except String Unit} {result outcome : Result Unit}

/-- The one result by which a finished call adds to those before it. -/
theorem finish_result (finished : self.finish association connection call outcome = next)
    (kept : self.results = sender.results) (returned : next.results = sender.results ++ [(call, result)]) :
    result = outcome := by
  have results : next.results = self.results ++ [(call, outcome)] := by
    rw [← finished]
    rfl
  rw [results, kept] at returned
  exact (Prod.mk.inj (List.cons.inj (List.append_cancel_left returned)).1).2.symm

/-- A call that has not finished returns nothing. -/
theorem pending_result (pending : next.results = sender.results)
    (returned : next.results = sender.results ++ [(call, result)]) : False := by
  rw [pending] at returned
  have size := congrArg List.length returned
  simp at size

/-- The second half of `send` never fails for the address. -/
theorem transmit_result {context : OutgoingUdpContext}
    (transmitted : sender.transmit association connection call data answer context = some next)
    (returned : next.results = sender.results ++ [(call, result)]) : result ≠ .error .invalidAddress := by
  cases context with
  | datagram number =>
    cases answer with
    | error text =>
      rw [finish_result (Option.some.inj transmitted) rfl returned]
      simp
    | ok value =>
      rw [finish_result (Option.some.inj transmitted) rfl returned]
      simp
  | stream number stream =>
    simp only [Sender.transmit] at transmitted
    split at transmitted
    · rw [finish_result (Option.some.inj transmitted) rfl returned]
      simp
    · obtain ⟨uni, _, same⟩ := Option.map_eq_some_iff.mp transmitted
      split at same
      · rw [finish_result same rfl returned]
        simp
      · exact (pending_result (by rw [← same]; rfl) returned).elim

/-- The first half fails for the address only if it cannot be encoded. -/
theorem start_result {destination : Address} {bytes : Bytes} (encoded : encodeAddress destination = .ok bytes)
    (started : sender.start association connection ⟨data, destination⟩ answer = some next)
    (returned : next.results = sender.results ++ [(sender.calls.length, result)]) :
    result ≠ .error .invalidAddress := by
  simp only [Sender.start] at started
  split at started
  · exact transmit_result started returned
  · have same := Option.some.inj started
    simp only [Sender.announce, encoded] at same
    split at same
    · rw [finish_result same rfl returned]
      simp
    · exact (pending_result (by rw [← same]; rfl) returned).elim

end Results

/-- Which destinations can be sent back, told by their host. -/
theorem sendsBack_iff {destination : Address} : SendsBack destination ↔
    (IpAddr.parse destination.host = none →
      (asBytes destination.host).length ≤ 255 ∧ Ascii destination.host) ∧
    ∀ ip, IpAddr.parse destination.host = some ip → destination.host = ip.display := by
  constructor
  · rintro ⟨⟨bytes, encoded, decoded, _⟩, _⟩
    constructor
    · intro name
      by_contra refused
      have failed := encodeAddress_error_iff.mpr ⟨name, by
        by_cases short : (asBytes destination.host).length ≤ 255
        · exact Or.inr fun ascii => refused ⟨short, ascii⟩
        · exact Or.inl (by omega)⟩
      obtain ⟨error, same⟩ := failed
      rw [encoded] at same
      contradiction
    · have same := (decodeAddress_encodeAddress encoded []).symm.trans (decoded [])
      exact canonical_eq_self_iff.mp (Read.done.inj same).1
  · rintro ⟨named, literal⟩
    have same := canonical_eq_self_iff.mpr literal
    cases encoded : encodeAddress destination with
    | error error =>
      obtain ⟨name, refused⟩ := encodeAddress_error_iff.mp ⟨error, encoded⟩
      obtain ⟨short, ascii⟩ := named name
      rcases refused with long | foreign
      · omega
      · contradiction
    | ok bytes =>
      refine ⟨⟨bytes, encoded, ?_, ?_⟩, ?_⟩
      · intro rest
        rw [decodeAddress_encodeAddress encoded, same]
      · intro id rest
        rw [readRecord_encodeRecord encoded, same]
      · intro sender next association connection data answer result started returned
        exact start_result encoded started returned

/-- What a peer has read can be sent back exactly if it was no domain record that the
encoder could not have written. -/
theorem decoded_sendsBack_iff (input rest : Bytes) (destination : Address)
    (read : decodeAddress input = .done destination rest) :
    SendsBack destination ↔ DomainEncodable input := by
  rw [sendsBack_iff]
  obtain ⟨left, named⟩ := decodeAddress_eq_done read
  rcases decodeHost_eq_done named with ⟨ip, kind, tail, host, rfl, other⟩ | ⟨length, rfl, size⟩
  · refine iff_of_true ⟨?_, ?_⟩ ?_
    · intro name
      rw [host, ip.parse_display] at name
      contradiction
    · intro found literal
      rw [host, ip.parse_display] at literal
      rw [host, Option.some.inj literal]
    · intro length name tail same
      exact absurd (List.cons.inj same).1 other
  · have short := length.toNat_lt
    constructor
    · rintro ⟨name, literal⟩ other text tail same count
      obtain ⟨rfl, whole⟩ := List.cons.inj (List.cons.inj same).2
      obtain ⟨bytes, _⟩ := List.append_inj whole (size.trans count.symm)
      have same := congrArg fromUtf8 bytes
      rw [fromUtf8_asBytes, fromUtf8_asBytes] at same
      obtain rfl := Option.some.inj same
      exact ⟨fun plain => (name plain).2, literal⟩
    · intro encodable
      obtain ⟨name, literal⟩ := encodable length destination.host left rfl size
      exact ⟨fun plain => ⟨by omega, name plain⟩, literal⟩

/-- The record of an IPv4 address. -/
theorem decoded_sendsBack_iff_v4 : decodeAddress [1, 127, 0, 0, 1, 0, 80] =
      .done ⟨"127.0.0.1", 80, by decide⟩ [] ∧ SendsBack ⟨"127.0.0.1", 80, by decide⟩ := by
  have read : decodeAddress [1, 127, 0, 0, 1, 0, 80] = .done ⟨"127.0.0.1", 80, by decide⟩ [] := by decide
  refine ⟨read, (decoded_sendsBack_iff _ _ _ read).mpr ?_⟩
  intro length name tail same
  exact absurd (List.cons.inj same).1 (by decide)

/-- A domain record with a name outside ASCII, of the one character of code 233. -/
def accentedRecord : Bytes := [3, 2, 0xc3, 0xa9, 0, 80]

theorem decoded_not_sendsBack : ¬ ∀ (input rest : Bytes) (destination : Address),
    decodeAddress input = .done destination rest → SendsBack destination := by
  intro always
  have read : decodeAddress accentedRecord = .done ⟨"é", 80, by decide⟩ [] := by decide
  obtain ⟨⟨bytes, encoded, _⟩, _⟩ := always _ _ _ read
  have refused : encodeAddress ⟨"é", 80, by decide⟩ = .error .invalidAddress := by decide
  rw [refused] at encoded
  contradiction

end SingQuic.ShadowQuic
