import SingQuic.Hysteria2.Reassembly

/-! What comes out of the reassembly table of a session was sent on it. Every
entry is attributed to the one packet whose id it is stored under; loss,
repetition, reordering and eviction all keep that attribution. -/
namespace SingQuic.Hysteria2
open Wire

namespace Defragger
variable {self next : Defragger} {now : Instant} {message : UdpMessage} {history : History}
  {origin : UInt16 → Address × List Bytes}

/-- Every entry holds parts of the one packet its id stands for. -/
def Attributed (origin : UInt16 → Address × List Bytes) (self : Defragger) : Prop :=
  ∀ id, ∃ seen, FragmentSet.Holds (origin id).1 (origin id).2 seen (self.fragments id)

theorem Attributed.retain (attributed : Attributed origin self) (now : Instant) (id : UInt16) :
    ∃ seen, FragmentSet.Holds (origin id).1 (origin id).2 seen (self.retain now id) := by
  obtain ⟨seen, holds⟩ := attributed id
  unfold Defragger.retain
  rcases holds with ⟨gone, _⟩ | ⟨updatedAt, held⟩
  · exact ⟨∅, Or.inl ⟨by simp [gone], rfl⟩⟩
  · by_cases live : (FragmentSet.partialOf updatedAt (origin id).1 (origin id).2 seen).alive now = true
    · exact ⟨seen, Or.inr ⟨updatedAt, by simp [held, Option.filter, live]⟩⟩
    · exact ⟨∅, Or.inl ⟨by simp [held, Option.filter, live], rfl⟩⟩

/-- One call with a part of the packet its id stands for: the packet or nothing,
and the table stays attributed, whatever the clock says. -/
theorem feed_attributed (now : Instant) (attributed : Attributed origin self)
    (part : PartOf message.packetId (origin message.packetId).1 (origin message.packetId).2 message)
    (small : (origin message.packetId).2.flatten.length ≤ maxUdpSize) :
    ∃ outcome next, self.feed now message = some (outcome, next) ∧ Attributed origin next ∧
      (outcome = .ok none ∨ outcome = .ok (some ⟨(origin message.packetId).2.flatten,
        (origin message.packetId).1⟩)) := by
  obtain ⟨seen, holds⟩ := attributed.retain now message.packetId
  obtain ⟨next, fed, entry⟩ := feed_part part small holds
  refine ⟨_, next, fed, ?_, ?_⟩
  · rcases entry with ⟨rfl, _⟩ | stored
    · exact attributed
    · intro id
      rw [stored]
      by_cases own : id = message.packetId
      · subst id
        rw [Function.update_self]
        split
        · exact ⟨∅, Or.inl ⟨rfl, rfl⟩⟩
        · exact ⟨_, Or.inr ⟨now, rfl⟩⟩
      · rw [Function.update_of_ne own]
        exact attributed.retain now id
  · split
    · exact Or.inr rfl
    · exact Or.inl rfl

theorem feedAll_attributed (attributed : Attributed origin self)
    (parts : ∀ event ∈ history,
      PartOf event.2.packetId (origin event.2.packetId).1 (origin event.2.packetId).2 event.2 ∧
        (origin event.2.packetId).2.flatten.length ≤ maxUdpSize) :
    ∃ outcomes final, self.feedAll history = some (outcomes, final) ∧
      ∀ outcome ∈ outcomes, outcome = .ok none ∨ ∃ event ∈ history,
        outcome = .ok (some ⟨(origin event.2.packetId).2.flatten, (origin event.2.packetId).1⟩) := by
  induction history generalizing self with
  | nil => exact ⟨[], self, rfl, by simp⟩
  | cons event rest ih =>
    obtain ⟨part, small⟩ := parts event (by simp)
    obtain ⟨outcome, next, fed, after, value⟩ := feed_attributed event.1 attributed part small
    obtain ⟨outcomes, final, read, values⟩ := ih after fun event member => parts event (by simp [member])
    refine ⟨outcome :: outcomes, final, by simp [feedAll, fed, read], ?_⟩
    intro result member
    rcases List.mem_cons.mp member with rfl | member
    · exact value.imp_right fun same => ⟨event, by simp, same⟩
    · rcases values result member with waiting | ⟨earlier, found, same⟩
      · exact Or.inl waiting
      · exact Or.inr ⟨earlier, by simp [found], same⟩

end Defragger

/-- One call of `send` with everything it depends on. -/
structure Sending where
  connection : Hysteria2PacketConnection
  transport : Transport
  packet : Hysteria2Packet

namespace Sending

def emitted (self : Sending) : List Bytes := (self.connection.send self.transport self.packet).1

/-- The calls made on one session, each on the connection the last one left. -/
def session : Hysteria2PacketConnection → List (Transport × Hysteria2Packet) → List Sending
  | _, [] => []
  | connection, (transport, packet) :: rest =>
    ⟨connection, transport, packet⟩ :: session (connection.send transport packet).2.2 rest

/-- A call that emits anything has cut its packet into parts, and every frame it
emits carries one of them. -/
theorem exists_parts {self : Sending} (roundTrips : self.packet.destination.RoundTrips)
    (active : self.emitted ≠ []) :
    ∃ parts : List Bytes, parts.flatten = self.packet.data ∧ parts.flatten.length ≤ maxUdpSize ∧
      ∀ frame ∈ self.emitted, ∀ message, decodeMessage frame = .ok message →
        PartOf self.connection.packetId self.packet.destination parts message := by
  have sent : self.connection.send self.transport self.packet =
      (self.emitted, (self.connection.send self.transport self.packet).2) := rfl
  rcases Hysteria2PacketConnection.send_spec sent with ⟨silent, _⟩ | ⟨accepted, frames, framed, start, _⟩
  · exact absurd silent active
  obtain ⟨size, _⟩ := Hysteria2PacketConnection.not_refuses_iff.mp accepted
  obtain ⟨parts, _, few, joined, decoded⟩ :=
    Hysteria2PacketConnection.frames_spec accepted roundTrips framed
  refine ⟨parts, joined, joined ▸ size, ?_⟩
  intro frame member message read
  have found : decodeMessage frame ∈ frames.map decodeMessage :=
    List.mem_map_of_mem (start.subset member)
  rw [decoded, read] at found
  obtain ⟨other, here, same⟩ := List.mem_map.mp found
  obtain rfl := Except.ok.inj same
  exact PartOf.of_mem few here

end Sending

/-- Reassembly never fabricates a packet: whatever subset of the frames of one
session arrives, however often and in whatever order, and whatever is evicted on
the way, each call returns nothing or one of the packets sent. The clock readings
of the history play no part. -/
theorem feedAll_returns_sent {connection : Hysteria2PacketConnection}
    {calls : List (Transport × Hysteria2Packet)} {history : History}
    (roundTrips : ∀ sending ∈ Sending.session connection calls,
      sending.packet.destination.RoundTrips)
    (distinct : (((Sending.session connection calls).filter (·.emitted ≠ [])).map
      (·.connection.packetId)).Nodup)
    (arrived : ∀ event ∈ history, ∃ sending ∈ Sending.session connection calls,
      ∃ frame ∈ sending.emitted, decodeMessage frame = .ok event.2) :
    ∃ outcomes final, Defragger.default.feedAll history = some (outcomes, final) ∧
      ∀ outcome ∈ outcomes, outcome = .ok none ∨
        ∃ sending ∈ Sending.session connection calls, outcome = .ok (some sending.packet) := by
  have origins : ∀ id : UInt16, ∃ origin : Address × List Bytes,
      ∀ sending ∈ Sending.session connection calls, sending.emitted ≠ [] →
        sending.connection.packetId = id →
        origin.1 = sending.packet.destination ∧ origin.2.flatten = sending.packet.data ∧
        origin.2.flatten.length ≤ maxUdpSize ∧
        ∀ frame ∈ sending.emitted, ∀ message, decodeMessage frame = .ok message →
          PartOf id origin.1 origin.2 message := by
    intro id
    by_cases named : ∃ sending ∈ Sending.session connection calls, sending.emitted ≠ [] ∧
        sending.connection.packetId = id
    · obtain ⟨sending, member, active, rfl⟩ := named
      obtain ⟨parts, joined, small, carried⟩ := Sending.exists_parts (roundTrips _ member) active
      refine ⟨(sending.packet.destination, parts), fun other found busy same => ?_⟩
      obtain rfl : other = sending := List.inj_on_of_nodup_map distinct (by simp [found, busy])
        (by simp [member, active]) same
      exact ⟨rfl, joined, small, carried⟩
    · refine ⟨(⟨"a", 0, by decide⟩, []), fun other found busy same => ?_⟩
      exact absurd ⟨other, found, busy, same⟩ named
  choose origin named using origins
  have parts : ∀ event ∈ history, ∃ sending ∈ Sending.session connection calls,
      (⟨(origin event.2.packetId).2.flatten, (origin event.2.packetId).1⟩ : Hysteria2Packet) =
        sending.packet ∧
      PartOf event.2.packetId (origin event.2.packetId).1 (origin event.2.packetId).2 event.2 ∧
      (origin event.2.packetId).2.flatten.length ≤ maxUdpSize := by
    intro event member
    obtain ⟨sending, found, frame, emitted, read⟩ := arrived event member
    have busy : sending.emitted ≠ [] := List.ne_nil_of_mem emitted
    have own : sending.connection.packetId = event.2.packetId := by
      obtain ⟨_, _, _, carried⟩ := Sending.exists_parts (roundTrips _ found) busy
      exact (carried frame emitted _ read).packetId.symm
    obtain ⟨target, data, small, carried⟩ := named _ sending found busy own
    exact ⟨sending, found, by rw [target, data], carried frame emitted _ read, small⟩
  have empty : Defragger.Attributed origin Defragger.default :=
    fun id => ⟨∅, Or.inl ⟨rfl, rfl⟩⟩
  obtain ⟨outcomes, final, read, values⟩ := Defragger.feedAll_attributed empty
    fun event member => (parts event member).elim fun _ found => found.2.2
  refine ⟨outcomes, final, read, fun outcome member => ?_⟩
  refine (values outcome member).imp_right fun ⟨event, found, same⟩ => ?_
  obtain ⟨sending, sent, equal, _⟩ := parts event found
  exact ⟨sending, sent, by rw [same, equal]⟩

/-- A lost fragment and a repeated one: nothing comes out. -/
theorem feedAll_returns_sent_lossy :
    ∃ outcomes final, Defragger.default.feedAll
        [(0, ⟨1, 1, 1, 2, ⟨"a", 1, by decide⟩, [3]⟩), (9, ⟨1, 1, 1, 2, ⟨"a", 1, by decide⟩, [3]⟩)] =
          some (outcomes, final) ∧
      ∀ outcome ∈ outcomes, outcome = .ok none ∨
        ∃ sending ∈ Sending.session ⟨1, 0⟩
          [(⟨some 17, fun _ _ => .ok ()⟩, ⟨[1, 2, 3], ⟨"a", 1, by decide⟩⟩)],
          outcome = .ok (some sending.packet) := by
  refine feedAll_returns_sent ?_ (by decide) ?_
  · intro sending member
    simp only [Sending.session, List.mem_singleton] at member
    subst sending
    decide
  · intro event member
    refine ⟨_, List.mem_singleton.mpr rfl, [0, 0, 0, 1, 0, 1, 1, 2, 3, 97, 58, 49, 3], by decide, ?_⟩
    simp only [List.mem_cons, List.not_mem_nil, or_false] at member
    rcases member with rfl | rfl <;> decide

end SingQuic.Hysteria2
