import SingQuic.Address
import SingQuic.Lib.Wire

/-! The address frames of the SQuic protocols and the two framings built on them:
records of a control stream, and packets of a unidirectional stream. -/
namespace SingQuic.ShadowQuic
open Wire Net

def sqIpv4 : UInt8 := 0x01
def sqDomain : UInt8 := 0x03
def sqIpv6 : UInt8 := 0x04
def maxDomainLength : Nat := 255

def encodeAddress (destination : Address) : Result Bytes :=
  let port := bigEndian 2 destination.port.toNat
  match IpAddr.parse destination.host with
  | some (.v4 address) => .ok (sqIpv4 :: (address.octets ++ port))
  | some (.v6 address) => .ok (sqIpv6 :: (address.octets ++ port))
  | none =>
    let host := asBytes destination.host
    if host = [] ∨ maxDomainLength < host.length ∨ ¬ host.all (· < 128) then .error .invalidAddress
    else .ok (sqDomain :: UInt8.ofNat host.length :: (host ++ port))

def readU16 : Reader Error UInt16 := do
  let bytes ← Reader.readExact 2
  pure (UInt16.ofNat (ofBigEndian bytes))

def liftResult : Result α → Reader Error α
  | .ok value => pure value
  | .error error => Reader.fail error

def decodeHost : Reader Error String := do
  let kind ← Reader.readByte
  if kind = sqIpv4 then
    let octets ← Reader.readSized 4
    pure (IpAddr.v4 ⟨octets.val, octets.property⟩).display
  else if kind = sqIpv6 then
    let octets ← Reader.readSized 16
    pure (IpAddr.v6 ⟨octets.val, octets.property⟩).display
  else if kind = sqDomain then
    let length ← Reader.readByte
    let bytes ← Reader.readExact length.toNat
    liftResult ((fromUtf8 bytes).elim (.error .invalidAddress) .ok)
  else Reader.fail (.protocol "invalid ShadowQuic address type")

def decodeAddress : Reader Error Address := do
  let host ← decodeHost
  let port ← readU16
  liftResult (Address.new host port)

/-- One record of a control stream: a destination and the id it is given. -/
def readRecord : Reader Error (Address × UInt16) := do
  let destination ← decodeAddress
  let id ← readU16
  pure (destination, id)

/-- One packet of a unidirectional stream: its length and its bytes. -/
def readPacket : Reader Error Bytes := do
  let length ← readU16
  Reader.readExact length.toNat

/-- The destination as the peer names it: IP literals in their canonical text. -/
def canonical (destination : Address) : Address :=
  match IpAddr.parse destination.host with
  | some address => ⟨address.display, destination.port, address.display_ne_empty⟩
  | none => destination

section Stability
open Reader

theorem readU16_stable : Stable readU16 :=
  (Stable.readExact 2).bind fun _ => Stable.pure _

theorem liftResult_stable : ∀ result : Result α, Stable (liftResult result)
  | .ok value => Stable.pure value
  | .error error => Stable.fail error

theorem decodeHost_stable : Stable decodeHost := by
  refine Stable.readByte.bind fun kind => ?_
  split
  · exact (Stable.readSized 4).bind fun _ => Stable.pure _
  · split
    · exact (Stable.readSized 16).bind fun _ => Stable.pure _
    · split
      · exact Stable.readByte.bind fun _ => (Stable.readExact _).bind fun _ => liftResult_stable _
      · exact Stable.fail _

theorem decodeAddress_stable : Stable decodeAddress :=
  decodeHost_stable.bind fun _ => readU16_stable.bind fun _ => liftResult_stable _

theorem readRecord_stable : Stable readRecord :=
  decodeAddress_stable.bind fun _ => readU16_stable.bind fun _ => Stable.pure _

theorem readPacket_stable : Stable readPacket :=
  readU16_stable.bind fun _ => Stable.readExact _

end Stability

section RoundTrip
open Reader

theorem readU16_append (value : UInt16) (rest : Bytes) :
    readU16 (bigEndian 2 value.toNat ++ rest) = .done value rest := by
  rw [readU16, bind_done (readExact_append_of_length (length_bigEndian 2 _)),
    ofBigEndian_bigEndian_of_lt (by simpa using value.toNat_lt), UInt16.ofNat_toNat, pure_apply]

/-- The peer reads the canonical form of an encoded address and stops after it. -/
theorem decodeAddress_encodeAddress {destination : Address} {bytes : Bytes}
    (encoded : encodeAddress destination = .ok bytes) (rest : Bytes) :
    decodeAddress (bytes ++ rest) = .done (canonical destination) rest := by
  have finish : ∀ (host : String) (nonempty : host ≠ ""),
      (do let port ← readU16; liftResult (Address.new host port) : Reader Error Address)
        (bigEndian 2 destination.port.toNat ++ rest) = .done ⟨host, destination.port, nonempty⟩ rest := by
    intro host nonempty
    rw [bind_done (readU16_append destination.port rest), Address.new, dif_pos nonempty]
    rfl
  unfold encodeAddress at encoded
  unfold canonical
  dsimp only at encoded
  split at encoded
  · rename_i address parsed
    obtain rfl := Except.ok.inj encoded
    have host : decodeHost (sqIpv4 :: (address.octets ++ bigEndian 2 destination.port.toNat) ++ rest) =
        .done (IpAddr.v4 address).display (bigEndian 2 destination.port.toNat ++ rest) := by
      rw [decodeHost, List.cons_append, bind_done (readByte_cons _ _), if_pos rfl, List.append_assoc,
        bind_done (readSized_append address.octets _ address.size), pure_apply]
    rw [decodeAddress, bind_done host, finish _ (IpAddr.display_ne_empty _), parsed]
  · rename_i address parsed
    obtain rfl := Except.ok.inj encoded
    have host : decodeHost (sqIpv6 :: (address.octets ++ bigEndian 2 destination.port.toNat) ++ rest) =
        .done (IpAddr.v6 address).display (bigEndian 2 destination.port.toNat ++ rest) := by
      rw [decodeHost, List.cons_append, bind_done (readByte_cons _ _), if_neg (by decide), if_pos rfl,
        List.append_assoc, bind_done (readSized_append address.octets _ address.size), pure_apply]
    rw [decodeAddress, bind_done host, finish _ (IpAddr.display_ne_empty _), parsed]
  · rename_i parsed
    split at encoded
    · contradiction
    · rename_i legal
      obtain rfl := Except.ok.inj encoded
      have length : (UInt8.ofNat (asBytes destination.host).length).toNat =
          (asBytes destination.host).length := by
        simp only [not_or, Nat.not_lt, maxDomainLength] at legal
        rw [UInt8.toNat_ofNat', Nat.mod_eq_of_lt (by omega)]
      have host : decodeHost (sqDomain :: UInt8.ofNat (asBytes destination.host).length ::
          (asBytes destination.host ++ bigEndian 2 destination.port.toNat) ++ rest) =
          .done destination.host (bigEndian 2 destination.port.toNat ++ rest) := by
        rw [decodeHost, List.cons_append, bind_done (readByte_cons _ _), if_neg (by decide),
          if_neg (by decide), if_pos rfl, List.cons_append, bind_done (readByte_cons _ _), length,
          List.append_assoc, bind_done (readExact_append _ _), fromUtf8_asBytes]
        rfl
      rw [decodeAddress, bind_done host, finish _ destination.nonempty, parsed]

def encodeRecord (address : Bytes) (id : UInt16) : Bytes := address ++ bigEndian 2 id.toNat

def encodePacket (data : Bytes) : Bytes := bigEndian 2 data.length ++ data

theorem readRecord_encodeRecord {destination : Address} {address : Bytes}
    (encoded : encodeAddress destination = .ok address) (id : UInt16) (rest : Bytes) :
    readRecord (encodeRecord address id ++ rest) = .done (canonical destination, id) rest := by
  rw [readRecord, encodeRecord, List.append_assoc, bind_done (decodeAddress_encodeAddress encoded _),
    bind_done (readU16_append id rest), pure_apply]

theorem readPacket_encodePacket {data : Bytes} (small : data.length ≤ 65535) (rest : Bytes) :
    readPacket (encodePacket data ++ rest) = .done data rest := by
  have length : (UInt16.ofNat data.length).toNat = data.length := by
    rw [UInt16.toNat_ofNat', Nat.mod_eq_of_lt (by omega)]
  have read := readU16_append (UInt16.ofNat data.length) (data ++ rest)
  rw [length] at read
  rw [readPacket, encodePacket, List.append_assoc, bind_done read, length, readExact_append]

end RoundTrip
end SingQuic.ShadowQuic
