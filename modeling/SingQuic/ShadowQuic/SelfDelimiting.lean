import SingQuic.ShadowQuic.Arrivals
import SingQuic.ShadowQuic.IntactSteps

/-! The streams of SQuic UDP need no separators: what `send` writes to them is read
back record by record and packet by packet, however it arrives and wherever it ends. -/
namespace SingQuic.ShadowQuic
open Wire Reader

/-- What a packet connection writes to its control stream: the destinations it has met
for the first time, with the ids they are given on the wire. -/
def PacketConnection.pairs (self : PacketConnection) : List (Address × UInt16) :=
  self.records.map fun record => (record.1, wireId record.2)

/-- The stream of a destination makes the peer deliver the packets of the calls that
succeeded, in the order of the calls; without a stream, there are none. -/
def Sender.SendsExactly (self : Sender) (association : Nat) (connection : PacketConnection)
    (destination : Address) : Prop :=
  (self.succeeded association destination).Pairwise (·.1 < ·.1) ∧
    match connection.contexts destination with
    | none => self.succeeded association destination = []
    | some context => ∃ number stream uni, context = .stream number stream ∧
        self.unis[stream]? = some uni ∧
        DeliversExactly uni.stream.written ((self.succeeded association destination).map Prod.snd) ∧
        wholeFrames encodePacket (uni.stream.written.length - 2)
          ((self.succeeded association destination).map Prod.snd) =
            (self.succeeded association destination).map Prod.snd

theorem flatMap_pairs (connection : PacketConnection) :
    connection.pairs.flatMap pairBytes = connection.records.flatMap recordBytes := by
  rw [PacketConnection.pairs, List.flatMap_map]
  rfl

/-- The packets on a stream at rest, with the rest of a failed write perhaps. -/
theorem SendStream.Carrying.delivers {stream : SendStream} {number : Nat} {done : List (Nat × Bytes)}
    (small : ∀ packet ∈ done, packet.2.length ≤ Sender.maxStreamPacket)
    (carrying : stream.Carrying LegalPacket (idBytes number ++ done.flatMap (encodePacket ·.2)) none) :
    DeliversExactly stream.written (done.map Prod.snd) ∧
      wholeFrames encodePacket (stream.written.length - 2) (done.map Prod.snd) = done.map Prod.snd := by
  have short : ∀ data ∈ done.map Prod.snd, data.length ≤ 65535 := by
    intro data member
    obtain ⟨packet, listed, rfl⟩ := List.mem_map.mp member
    exact small packet listed
  have bytes : done.flatMap (encodePacket ·.2) = (done.map Prod.snd).flatMap encodePacket := by
    rw [List.flatMap_map]
  rw [bytes] at carrying
  cases carrying with
  | resting _ _ written =>
    have part : stream.written <+: idBytes number ++ (done.map Prod.snd ++ []).flatMap encodePacket := by
      rw [written, List.append_nil]
    refine ⟨delivers_exactly (by simpa using short) part fun room _ => by rw [List.append_nil], ?_⟩
    rw [written, List.length_append, length_idBytes, Nat.add_sub_cancel_left, wholeFrames_all]
  | torn frame flowed _ fine written part unequal =>
    obtain ⟨data, limit, rfl⟩ := fine
    have fewer : flowed.length < (encodePacket data).length := by
      refine lt_of_le_of_ne part.length_le fun same => unequal ?_
      exact part.eq_of_length same
    have size : stream.written.length =
        2 + ((done.map Prod.snd).flatMap encodePacket).length + flowed.length := by
      rw [written, List.length_append, List.length_append, length_idBytes]
    have inside : stream.written <+:
        idBytes number ++ (done.map Prod.snd ++ [data]).flatMap encodePacket := by
      rw [written, List.append_assoc, List.flatMap_append, List.flatMap_singleton]
      exact (List.prefix_append_right_inj _).mpr ((List.prefix_append_right_inj _).mpr part)
    refine ⟨delivers_exactly ?_ inside fun room fits => wholeFrames_concat encodePacket ?_, ?_⟩
    · exact List.forall_mem_append.mpr ⟨short, List.forall_mem_singleton.mpr limit⟩
    · rw [List.flatMap_append, List.flatMap_singleton, List.length_append]
      omega
    · have room : stream.written.length - 2 =
          ((done.map Prod.snd).flatMap encodePacket).length + flowed.length := by
        omega
      have all := wholeFrames_append encodePacket (done.map Prod.snd) [] flowed.length
      rwa [List.append_nil, wholeFrames, List.append_nil, ← room] at all

theorem run_intact {actions : List SendAction} {sender : Sender}
    (execution : Transition.run sendStep .initial actions = some sender) : sender.Intact True :=
  Transition.run_invariant (P := fun sender => sender.Intact True) sendStep_intact execution
    Sender.initial_intact

theorem sends_exactly {actions : List SendAction} {sender : Sender} {association : Nat}
    {connection : PacketConnection} (execution : Transition.run sendStep .initial actions = some sender)
    (found : sender.connections[association]? = some connection) (mode : connection.mode = .stream)
    (idle : connection.progress = .idle) (destination : Address) :
    sender.SendsExactly association connection destination := by
  have intact := (run_intact execution).connection association connection found
  refine ⟨intact.ordered destination, ?_⟩
  split
  · rename_i missing
    exact intact.unentered destination missing
  · rename_i context known
    cases context with
    | datagram number =>
      have kind := ((run_valid execution).connection association connection found).kind _ _ known
      rw [mode] at kind
      contradiction
    | stream number stream =>
      obtain ⟨uni, done, here, _, small, _, exact', carrying⟩ := intact.streams _ _ _ known
      rw [idle] at carrying
      obtain ⟨delivers, whole⟩ := carrying.delivers small
      rw [exact' trivial] at delivers whole
      exact ⟨number, stream, uni, rfl, here, delivers, whole⟩

/-- The records of a control stream and the packets of a unidirectional stream take
effect exactly, each as soon as it has arrived as a whole. IP literals are registered
in their canonical text. -/
theorem streams_self_delimiting :
    (∀ pairs : List (Address × UInt16),
      (∀ pair ∈ pairs, ∃ address, encodeAddress pair.1 = .ok address) → RegistersExactly pairs ∧
        wholeFrames pairBytes (pairs.flatMap pairBytes).length pairs = pairs) ∧
    (∀ (actions : List SendAction) (sender : Sender) (association : Nat) (connection : PacketConnection),
      Transition.run sendStep .initial actions = some sender →
      sender.connections[association]? = some connection →
      ((∀ pair ∈ connection.pairs, ∃ address, encodeAddress pair.1 = .ok address) ∧
        connection.control.written <+: connection.pairs.flatMap pairBytes) ∧
      (connection.mode = .stream → connection.progress = .idle →
        ∀ destination, sender.SendsExactly association connection destination)) := by
  refine ⟨fun pairs encodable => ⟨registers_exactly encodable, wholeFrames_all _ _⟩, ?_⟩
  intro actions sender association connection execution found
  have valid := (run_valid execution).connection association connection found
  refine ⟨⟨?_, ?_⟩, fun mode idle => sends_exactly execution found mode idle⟩
  · intro pair member
    obtain ⟨record, listed, rfl⟩ := List.mem_map.mp member
    exact valid.encodes record listed
  · rw [flatMap_pairs, ← valid.content]
    exact List.prefix_append _ _

/-- One packet to a new destination. -/
def streamRun : List SendAction :=
  [.associate .stream, .start 0 ⟨[42], ⟨"k", 80, by decide⟩⟩ (.ok ()), .flowControl 0 7,
    .proceed 0 (.ok ()), .proceed 0 (.ok ()), .flowUni 0 2, .proceed 0 (.ok ()), .flowUni 0 3,
    .proceed 0 (.ok ())]

theorem streams_self_delimiting_packet : ∃ sender connection,
    Transition.run sendStep .initial streamRun = some sender ∧ sender.connections[0]? = some connection ∧
      connection.mode = .stream ∧ connection.progress = .idle ∧
      sender.SendsExactly 0 connection ⟨"k", 80, by decide⟩ :=
  ⟨_, _, rfl, rfl, rfl, rfl, (streams_self_delimiting.2 streamRun _ 0 _ rfl rfl).2 rfl rfl _⟩

/-- The record of an IPv6 literal that is not in canonical text. -/
def expandedPair : Address × UInt16 := (⟨"0::1", 80, by decide⟩, 7)

set_option maxRecDepth 4000 in
theorem registers_other_text : ∃ receiver task,
    Transition.run (receiveStep .spawned) .initial
      [.associate 0, .arriveControl 0 (pairBytes expandedPair), .record 0] = some receiver ∧
    receiver.controls 0 = some task ∧ readRecord task.unread = .more ∧
    task.records = [(⟨"::1", 80, by decide⟩, 7)] ∧ task.records ≠ [expandedPair] :=
  ⟨_, _, rfl, rfl, rfl, by decide, by decide⟩

end SingQuic.ShadowQuic
