import SingQuic.Hysteria2.Attribution
import Mathlib.Data.List.Nodup

/-! The packet ids one session assigns. The counter wraps at `2 ^ 32`, which is
one more than a multiple of 65535, so the ids run on evenly until the wrap, and
the last id before it and the first one after it are both zero. -/
namespace SingQuic.Hysteria2

/-- The packet id of the call with the given number, from a counter reading. -/
def numbered (counter call : Nat) : Nat := (counter + call + 1) % 2 ^ 32 % 65535

theorem numbered_lt (counter call : Nat) : numbered counter call < 65535 :=
  Nat.mod_lt _ (by decide)

/-- Before the counter wraps, and after it, at most 65535 ids in a row differ. -/
theorem numbered_injective {counter first second count : Nat} (few : count ≤ 65535)
    (clear : counter = 2 ^ 32 - 1 ∨ counter + count < 2 ^ 32)
    (left : first < count) (right : second < count)
    (same : numbered counter first = numbered counter second) : first = second := by
  rcases clear with last | before
  · unfold numbered at same
    rw [last] at same
    omega
  · have plain (call : Nat) (inside : call < count) :
        numbered counter call = (counter + call + 1) % 65535 := by
      have inner : (counter + call + 1) % 2 ^ 32 = counter + call + 1 := Nat.mod_eq_of_lt (by omega)
      rw [numbered, inner]
    rw [plain first left, plain second right] at same
    omega

/-- The two ids next to the wrap are equal. -/
theorem numbered_wrap {counter : Nat} (early : counter < 2 ^ 32 - 1) :
    numbered counter (2 ^ 32 - 2 - counter) = 0 ∧ numbered counter (2 ^ 32 - 1 - counter) = 0 := by
  have before : counter + (2 ^ 32 - 2 - counter) + 1 = 2 ^ 32 - 1 := by omega
  have after : counter + (2 ^ 32 - 1 - counter) + 1 = 2 ^ 32 := by omega
  rw [numbered, numbered, before, after]
  decide

namespace Sending

/-- The id one call assigns; a payload over the limit is turned away before that. -/
def assigned (self : Sending) : Option UInt16 :=
  if maxUdpSize < self.packet.data.length then none else some self.connection.packetId

/-- The ids assigned by the calls made on one session. -/
def assignedIds (connection : Hysteria2PacketConnection) (calls : List (Transport × Hysteria2Packet)) :
    List UInt16 :=
  (session connection calls).filterMap assigned

/-- How many of the calls get as far as an id. -/
def admitted (calls : List (Transport × Hysteria2Packet)) : Nat :=
  calls.countP fun call => decide (call.2.data.length ≤ maxUdpSize)

end Sending

namespace Hysteria2PacketConnection
variable {self : Hysteria2PacketConnection} {transport : Transport} {packet : Hysteria2Packet}

theorem send_counter (small : packet.data.length ≤ maxUdpSize) :
    (self.send transport packet).2.2 = { self with nextPacketId := self.nextPacketId + 1 } := by
  rw [send, if_neg (Nat.not_lt.mpr small)]
  dsimp only
  split <;> rfl

theorem send_oversized (large : maxUdpSize < packet.data.length) :
    (self.send transport packet).2.2 = self := by
  rw [send, if_pos large]

theorem packetId_eq_numbered (self : Hysteria2PacketConnection) :
    self.packetId = UInt16.ofNat (numbered self.nextPacketId.toNat 0) := by
  rw [packetId, numbered, UInt32.toNat_add]
  rfl

end Hysteria2PacketConnection

namespace Sending

/-- The ids are consecutive readings of the counter, whatever the calls came to. -/
theorem assignedIds_eq (connection : Hysteria2PacketConnection)
    (calls : List (Transport × Hysteria2Packet)) : assignedIds connection calls =
      (List.range (admitted calls)).map fun call =>
        UInt16.ofNat (numbered connection.nextPacketId.toNat call) := by
  induction calls generalizing connection with
  | nil => rfl
  | cons call rest ih =>
    obtain ⟨transport, packet⟩ := call
    by_cases small : packet.data.length ≤ maxUdpSize
    · have first : assigned ⟨connection, transport, packet⟩ = some connection.packetId :=
        if_neg (Nat.not_lt.mpr small)
      have count : admitted ((transport, packet) :: rest) = admitted rest + 1 := by
        simp [admitted, small]
      have later (index : Nat) : numbered (connection.nextPacketId + 1).toNat index =
          numbered connection.nextPacketId.toNat (index + 1) := by
        have one : (1 : UInt32).toNat = 1 := rfl
        simp only [numbered, UInt32.toNat_add, one]
        omega
      have tail := ih { connection with nextPacketId := connection.nextPacketId + 1 }
      simp only [later] at tail
      rw [assignedIds, session, List.filterMap_cons, first,
        Hysteria2PacketConnection.send_counter small, count, List.range_succ_eq_map, List.map_cons,
        List.map_map]
      exact List.cons_eq_cons.mpr ⟨connection.packetId_eq_numbered, tail⟩
    · have first : assigned ⟨connection, transport, packet⟩ = none := if_pos (Nat.lt_of_not_le small)
      have count : admitted ((transport, packet) :: rest) = admitted rest := by
        simp [admitted, small]
      rw [assignedIds, session, List.filterMap_cons, first,
        Hysteria2PacketConnection.send_oversized (Nat.lt_of_not_le small), count]
      exact ih connection

/-- At most 65535 calls in a row get distinct ids exactly when the counter does
not wrap between the first id and the last. -/
theorem assignedIds_nodup_iff (connection : Hysteria2PacketConnection)
    (calls : List (Transport × Hysteria2Packet)) (few : calls.length ≤ 65535) :
    (assignedIds connection calls).Nodup ↔ connection.nextPacketId.toNat = 2 ^ 32 - 1 ∨
      connection.nextPacketId.toNat + admitted calls < 2 ^ 32 := by
  have bound := connection.nextPacketId.toNat_lt
  have short : admitted calls ≤ 65535 := (List.countP_le_length).trans few
  have value (call : Nat) : (UInt16.ofNat (numbered connection.nextPacketId.toNat call)).toNat =
      numbered connection.nextPacketId.toNat call := by
    have small := numbered_lt connection.nextPacketId.toNat call
    rw [UInt16.toNat_ofNat', Nat.mod_eq_of_lt (by omega)]
  rw [assignedIds_eq, List.nodup_map_iff_inj_on List.nodup_range]
  simp only [List.mem_range]
  constructor
  · intro distinct
    by_contra wraps
    simp only [not_or, Nat.not_lt] at wraps
    have early : connection.nextPacketId.toNat < 2 ^ 32 - 1 := by omega
    obtain ⟨last, first⟩ := numbered_wrap early
    have same := distinct (2 ^ 32 - 2 - connection.nextPacketId.toNat) (by omega)
      (2 ^ 32 - 1 - connection.nextPacketId.toNat) (by omega) (by rw [last, first])
    omega
  · intro clear first left second right same
    have numbers := congrArg UInt16.toNat same
    rw [value, value] at numbers
    exact numbered_injective short clear left right numbers

/-- Three packets from a fresh counter. -/
theorem assignedIds_nodup_fresh :
    (assignedIds ⟨1, 0⟩ (List.replicate 3 (⟨none, fun _ _ => .ok ()⟩, ⟨[7], ⟨"d", 1, by decide⟩⟩))).Nodup :=
  (assignedIds_nodup_iff ⟨1, 0⟩ _ (by decide)).mpr (Or.inr (by decide))

/-- Two packets in a row with the same id, next to the wrap of the counter. -/
theorem assignedIds_repeat : ¬ ∀ (connection : Hysteria2PacketConnection)
    (calls : List (Transport × Hysteria2Packet)), calls.length ≤ 65535 →
      (assignedIds connection calls).Nodup := by
  intro distinct
  have ids := distinct ⟨1, 4294967294⟩
    (List.replicate 2 (⟨none, fun _ _ => .ok ()⟩, ⟨[7], ⟨"e", 1, by decide⟩⟩)) (by decide)
  have same : assignedIds ⟨1, 4294967294⟩
      (List.replicate 2 (⟨none, fun _ _ => .ok ()⟩, ⟨[7], ⟨"e", 1, by decide⟩⟩)) = [0, 0] := by
    decide
  rw [same] at ids
  simp at ids

end Sending
end SingQuic.Hysteria2
