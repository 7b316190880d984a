import SingQuic.ShadowQuic.Arrivals
import SingQuic.ShadowQuic.IntactSteps
import SingQuic.ShadowQuic.Ids

/-! Cancelled calls of `send`. As long as no cancellation leaves a record or a packet
half written, every later call finds its streams between two frames, and the peer reads
what the calls that succeed have sent. Half a record is never completed: the next one
is read from its middle. -/
namespace SingQuic.ShadowQuic
open Wire Reader

namespace Sender

/-- Where no write is under way and none has failed, the control stream carries whole
records, and the streams of contexts carry their id and whole packets. -/
structure Framed (sender : Sender) (connection : PacketConnection) : Prop where
  control : (∀ call number, connection.progress ≠ .control call number) →
    connection.control.broken = none →
    ∃ records : List (Address × Nat), (∀ record ∈ records, ∃ address, encodeAddress record.1 = .ok address) ∧
      connection.control.written = records.flatMap recordBytes
  stream : ∀ destination number stream uni,
    connection.contexts destination = some (.stream number stream) → sender.unis[stream]? = some uni →
    (∀ call, connection.progress ≠ .payload call stream) → uni.stream.broken = none →
    ∃ payloads : List Bytes, (∀ data ∈ payloads, data.length ≤ maxStreamPacket) ∧
      uni.stream.written = idBytes number ++ payloads.flatMap encodePacket
  opened : ∀ call number stream uni, connection.progress = .header call number stream →
    sender.unis[stream]? = some uni → uni.stream.pending = [] → uni.stream.written = idBytes number

/-- The peer reads the packets of the calls that succeeded, and on the control stream
the destination that belongs to their id. Before the counter wraps around, no other
destination is announced under it. -/
structure Decoded (sender : Sender) (association : Nat) (connection : PacketConnection)
    (destination : Address) : Prop where
  absent : connection.contexts destination = none → sender.succeeded association destination = []
  announced : ∀ context, connection.contexts destination = some context →
    ∃ records rest, Reads readRecord connection.control.written records rest ∧
      (canonical destination, context.id) ∈ records
  datagram : ∀ number, connection.contexts destination = some (.datagram number) →
    ∀ packet ∈ sender.succeeded association destination, ∃ datagram ∈ sender.datagrams,
      datagram.call = packet.1 ∧ datagram.frame = idBytes number ++ packet.2
  stream : ∀ number stream, connection.contexts destination = some (.stream number stream) →
    ∃ uni body payloads rest, sender.unis[stream]? = some uni ∧
      readU16 uni.stream.written = .done (wireId number) body ∧ Reads readPacket body payloads rest ∧
      ((sender.succeeded association destination).map Prod.snd).Sublist payloads
  unambiguous : sender.allocated ≤ 65536 → ∀ context (other : Nat) (connection' : PacketConnection) records rest address,
    connection.contexts destination = some context → sender.connections[other]? = some connection' →
    Reads readRecord connection'.control.written records rest → (address, context.id) ∈ records →
    other = association ∧ address = canonical destination

variable {self next : Sender} {association call : Nat} {connection : PacketConnection}

theorem Numbered.set {later : PacketConnection} (numbered : self.Numbered)
    (found : self.connections[association]? = some connection)
    (connections : next.connections = self.connections.set association later)
    (allocated : self.allocated ≤ next.allocated)
    (noted : later.records = connection.records ∨ self.allocated < next.allocated ∧
      ∃ destination, later.records = connection.records ++ [(destination, self.allocated)]) :
    next.Numbered := by
  have noted' := noted.imp_right And.right
  refine ⟨fun other existing here record member => ?_, Distinct.of_set numbered found connections noted'⟩
  rw [connections] at here
  rcases Table.of_set here with ⟨rfl, rfl⟩ | ⟨_, there⟩
  · rcases mem_of_noted noted' member with old | ⟨fresh, _⟩
    · exact (numbered.drawn _ _ found record old).trans_le allocated
    · rcases noted with kept | ⟨more, _⟩
      · exact (numbered.drawn _ _ found record (kept ▸ member)).trans_le allocated
      · exact fresh ▸ more
  · exact (numbered.drawn other existing there record member).trans_le allocated

theorem Announcement.records {destination : Address}
    (announced : Announcement self association connection call destination next) :
    next.allocated = self.allocated + 1 ∧ ∃ later,
      next.connections = self.connections.set association later ∧
      (later.records = connection.records ∨
        ∃ destination, later.records = connection.records ++ [(destination, self.allocated)]) := by
  cases announced with
  | unencodable => exact ⟨rfl, _, rfl, Or.inl rfl⟩
  | broken => exact ⟨rfl, _, rfl, Or.inl rfl⟩
  | written => exact ⟨rfl, _, rfl, Or.inr ⟨destination, rfl⟩⟩

end Sender

theorem sendStep_numbered {self next : Sender} {action : SendAction} (numbered : self.Numbered)
    (stepped : sendStep self action = some next) : next.Numbered := by
  have kept : ∀ {association : Nat} {connection later : PacketConnection} {state : Sender},
      self.connections[association]? = some connection →
      state.connections = self.connections.set association later →
      state.allocated = self.allocated → later.records = connection.records → state.Numbered :=
    fun found connections allocated records =>
      numbered.set found connections allocated.ge (Or.inl records)
  cases sendStep_rule stepped with
  | associated mode => exact numbered.associate mode
  | announced association packet answer connection next found live idle missing announced =>
    obtain ⟨allocated, later, connections, noted⟩ := announced.records
    have more : next.allocated = self.allocated + 1 := allocated
    exact numbered.set found connections (by omega) (noted.imp_right fun fresh => ⟨by omega, fresh⟩)
  | resumed association packet answer connection context next found live idle known transmitted =>
    obtain ⟨progress, connections⟩ := transmitted.connections
    exact kept found connections transmitted.allocated rfl
  | flushed association answer connection call number found => exact kept found rfl rfl rfl
  | refused association text connection call number found => exact kept found rfl rfl rfl
  | opened association connection call number found => exact kept found rfl rfl rfl
  | entered association answer connection call sent context next found stage called transmitted =>
    obtain ⟨progress, connections⟩ := transmitted.connections
    exact kept found connections transmitted.allocated rfl
  | completed association answer connection call stream uni found => exact kept found rfl rfl rfl
  | controlFlowed association count connection found => exact kept found rfl rfl rfl
  | uniFlowed stream count uni here => exact ⟨numbered.drawn, numbered.distinct⟩
  | controlFailed association text connection call number found => exact kept found rfl rfl rfl
  | uniFailed association text connection call stream uni found => exact kept found rfl rfl rfl
  | closed association connection found => exact kept found rfl rfl rfl

theorem cancelStep_numbered {self next : Cancellable} {action : CancelAction}
    (numbered : self.sender.Numbered) (stepped : cancelStep self action = some next) :
    next.sender.Numbered := by
  cases cancelStep_rule stepped with
  | call action sender sent => exact sendStep_numbered numbered sent
  | cancel association call connection sender found cancelled =>
    have kept : ∀ {later : PacketConnection} {state : Sender},
        state.connections = self.sender.connections.set association later →
        state.allocated = self.sender.allocated → later.records = connection.records → state.Numbered :=
      fun connections allocated records => numbered.set found connections allocated.ge (Or.inl records)
    cases cancelled with
    | record number stage => exact kept rfl rfl rfl
    | opening number stage => exact kept rfl rfl rfl
    | header number stream uni stage here => exact kept rfl rfl rfl
    | packet stream uni stage here => exact kept rfl rfl rfl

namespace Sender
variable {self : Sender} {strict : Prop} {association : Nat} {connection : PacketConnection}

theorem ConnectionIntact.framed (intact : self.ConnectionIntact strict association connection) :
    self.Framed connection where
  control resting healthy := by
    obtain ⟨records, whole⟩ := intact.control
    have none' : self.currentRecord connection.progress = none := by
      cases progress : connection.progress with
      | control call number => exact absurd progress (resting call number)
      | _ => rfl
    have carrying := whole.carrying
    rw [none'] at carrying
    cases carrying with
    | resting _ _ written => exact ⟨records, whole.encodes, written⟩
    | torn _ _ failed => exact absurd healthy failed
  stream destination number stream uni known here resting healthy := by
    obtain ⟨_, done, there, _, small, _, _, carrying⟩ := intact.streams destination number stream known
    cases Option.some.inj (here.symm.trans there)
    have none' : self.currentPacket stream connection.progress = none := by
      cases progress : connection.progress with
      | payload call target =>
        refine if_neg fun same => resting call ?_
        rw [progress, same]
      | _ => rfl
    rw [none'] at carrying
    cases carrying with
    | resting _ _ written =>
      refine ⟨done.map Prod.snd, fun data member => ?_, by rw [written, List.flatMap_map]⟩
      obtain ⟨packet, listed, rfl⟩ := List.mem_map.mp member
      exact small packet listed
    | torn _ _ failed => exact absurd healthy failed
  opened call number stream uni header here drained := by
    have stage := intact.stage
    rw [header] at stage
    obtain ⟨_, ⟨_, there, _, carrying⟩, _⟩ := stage
    cases Option.some.inj (here.symm.trans there)
    cases carrying with
    | writing _ flowed _ _ written rest =>
      rw [drained, List.append_nil] at rest
      rw [written, rest, List.nil_append]

/-- Whatever the peer reads from a control stream was meant for it. -/
theorem ConnectionIntact.reads_records (intact : self.ConnectionIntact strict association connection)
    {values : List (Address × UInt16)} {rest : Bytes}
    (reads : Reads readRecord connection.control.written values rest) :
    ∀ value ∈ values, ∃ record ∈ connection.records, announced record = value := by
  obtain ⟨records, whole⟩ := intact.control
  obtain ⟨flowed, written, tail⟩ := whole.carrying.written_eq
  -- the records on the stream, with the one of which only a part is there
  obtain ⟨frames, known, encodes, part⟩ : ∃ frames : List (Address × Nat), frames ⊆ connection.records ∧
      (∀ record ∈ frames, ∃ address, encodeAddress record.1 = .ok address) ∧
      connection.control.written <+: frames.flatMap recordBytes := by
    rcases tail with rfl | ⟨_, ⟨record, member, encodable, rfl⟩, inside⟩
    · exact ⟨records, whole.known, whole.encodes, by rw [written, List.append_nil]⟩
    · refine ⟨records ++ [record], ?_, ?_, ?_⟩
      · exact List.append_subset.mpr ⟨whole.known, List.cons_subset.mpr ⟨member, List.nil_subset _⟩⟩
      · exact List.forall_mem_append.mpr ⟨whole.encodes, List.forall_mem_singleton.mpr encodable⟩
      · rw [written, List.flatMap_append, List.flatMap_singleton]
        exact (List.prefix_append_right_inj _).mpr inside
  obtain ⟨consumed, later, split, rfl, _⟩ := reads.frames readRecord_stable rfl
    (fun record member => readRecord_recordBytes (encodes record member)) part
  intro value member
  obtain ⟨record, listed, rfl⟩ := List.mem_map.mp member
  exact ⟨record, known (split ▸ List.mem_append_left _ listed), rfl⟩

theorem Intact.decoded (intact : self.Intact strict) (numbered : self.Numbered)
    (found : self.connections[association]? = some connection) (destination : Address) :
    self.Decoded association connection destination := by
  have here := intact.connection association connection found
  obtain ⟨records, whole⟩ := here.control
  refine ⟨here.unentered destination, ?_, here.datagrams destination, ?_, ?_⟩
  · intro context known
    obtain ⟨flowed, written, _⟩ := whole.carrying.written_eq
    refine ⟨records.map announced, flowed, ?_, ?_⟩
    · rw [written]
      exact reads_flatMap (fun record member => readRecord_recordBytes (whole.encodes record member)) flowed
    · exact List.mem_map.mpr ⟨_, whole.entered destination context known, rfl⟩
  · intro number stream known
    obtain ⟨uni, done, there, _, small, sublist, _, carrying⟩ := here.streams destination number stream known
    obtain ⟨flowed, written, _⟩ := carrying.written_eq
    refine ⟨uni, done.flatMap (encodePacket ·.2) ++ flowed, done.map Prod.snd, flowed, there, ?_, ?_, ?_⟩
    · rw [written, List.append_assoc]
      exact readU16_append _ _
    · exact reads_flatMap (fun packet member => readPacket_encodePacket (small packet member)) flowed
    · exact sublist.map Prod.snd
  · intro few context other connection' values rest address known there reads member
    obtain ⟨record, listed, same⟩ :=
      (intact.connection other connection' there).reads_records reads _ member
    have own : (destination, context.number) ∈ connection.records :=
      whole.known (whole.entered destination context known)
    have first := numbered.drawn _ _ found _ own
    have second := numbered.drawn _ _ there _ listed
    obtain ⟨text, id⟩ := Prod.mk.inj same
    have equal : context.number = record.2 :=
      Nat.ModEq.eq_of_lt_of_lt (wireId_eq_iff.mp id.symm) (first.trans_le few) (second.trans_le few)
    obtain ⟨rfl, rfl⟩ := numbered.distinct _ _ _ _ _ _ found there own listed equal
    exact ⟨rfl, text.symm⟩

end Sender

/-- In a run in which no cancellation leaves a record or a packet half written, streams
stay framed and the peer reads whatever calls have sent successfully. -/
theorem cancelled_sends_framed {actions : List CancelAction} {state : Cancellable}
    (execution : Transition.run cancelStep .initial actions = some state)
    (untorn : Transition.Meets cancelStep Untorn .initial actions) :
    ∀ association connection, state.sender.connections[association]? = some connection →
      state.sender.Framed connection ∧
        ∀ destination, state.sender.Decoded association connection destination := by
  have numbered : state.sender.Numbered :=
    Transition.run_invariant (P := fun state => state.sender.Numbered) cancelStep_numbered execution
      Sender.initial_valid.numbered
  have intact : state.sender.Intact (state.cancelled = []) :=
    Transition.meets_invariant (P := fun state => state.sender.Intact (state.cancelled = []))
      cancelStep_intact execution untorn Sender.initial_intact
  intro association connection found
  exact ⟨(intact.connection association connection found).framed, intact.decoded numbered found⟩

def tornPacket : ShadowQuicPacket := ⟨[42], ⟨"1.2.3.4", 80, by decide⟩⟩

/-- The call is dropped before anything was written, and another one sends the packet. -/
def retriedRun : List CancelAction :=
  [.call (.associate .datagram), .call (.start 0 tornPacket (.ok ())), .cancel 0,
    .call (.start 0 tornPacket (.ok ())), .call (.flowControl 0 9), .call (.proceed 0 (.ok ()))]

theorem cancelled_sends_framed_retried : ∃ state connection,
    Transition.run cancelStep .initial retriedRun = some state ∧
      Transition.Meets cancelStep Untorn .initial retriedRun ∧
      state.sender.connections[0]? = some connection ∧
      state.sender.succeeded 0 tornPacket.destination = [(1, [42])] ∧
      state.sender.Decoded 0 connection tornPacket.destination := by
  have untorn : Transition.Meets cancelStep Untorn .initial retriedRun := by
    refine (Transition.meets_cons rfl).mpr ⟨trivial, (Transition.meets_cons rfl).mpr ⟨trivial, ?_⟩⟩
    refine (Transition.meets_cons rfl).mpr ⟨?_, (Transition.meets_cons rfl).mpr ⟨trivial,
      (Transition.meets_cons rfl).mpr ⟨trivial, (Transition.meets_cons rfl).mpr ⟨trivial, trivial⟩⟩⟩⟩
    intro connection found
    obtain rfl := Option.some.inj found
    refine ⟨fun record writing => Or.inr ?_, fun _ _ _ _ writing => by contradiction⟩
    have current : (tornPacket.destination, 0) = record := Option.some.inj writing
    rw [← current]
    rfl
  exact ⟨_, _, rfl, untorn, rfl, rfl, (cancelled_sends_framed rfl untorn 0 _ rfl).2 _⟩

/-- The call is dropped when the address but not the id has been written. -/
def tornRun : List CancelAction :=
  [.call (.associate .datagram), .call (.start 0 tornPacket (.ok ())), .call (.flowControl 0 7), .cancel 0]

/-- Another call sends the packet. -/
def laterRun : List CancelAction :=
  [.call (.start 0 tornPacket (.ok ())), .call (.flowControl 0 9), .call (.proceed 0 (.ok ()))]

/-- The bytes of the two calls: the peer takes the first of the second record for the
rest of the id. -/
def tornBytes : Bytes := [1, 1, 2, 3, 4, 0, 80, 1, 1, 2, 3, 4, 0, 80, 0, 1]

theorem reads_tornBytes {values : List (Address × UInt16)} {rest : Bytes}
    (reads : Reads readRecord tornBytes values rest) :
    values = [] ∧ rest = tornBytes ∨
      values = [(tornPacket.destination, 257)] ∧ rest = [2, 3, 4, 0, 80, 0, 1] := by
  induction reads with
  | nil => exact Or.inl ⟨rfl, rfl⟩
  | concat _ read ih =>
    rcases ih with ⟨rfl, rfl⟩ | ⟨rfl, rfl⟩
    · have first : readRecord tornBytes =
          .done (tornPacket.destination, 257) [2, 3, 4, 0, 80, 0, 1] := by decide
      obtain ⟨rfl, rfl⟩ := Read.done.inj (first.symm.trans read)
      exact Or.inr ⟨rfl, rfl⟩
    · have second : readRecord [2, 3, 4, 0, 80, 0, 1] =
          .failed (.protocol "invalid ShadowQuic address type") := rfl
      rw [second] at read
      contradiction

theorem cancelled_sends_torn : ∃ torn final before after,
    Transition.run cancelStep .initial tornRun = some torn ∧
      torn.sender.connections[0]? = some before ∧ ¬torn.sender.Framed before ∧
      Transition.run cancelStep torn laterRun = some final ∧
      final.sender.connections[0]? = some after ∧
      final.sender.succeeded 0 tornPacket.destination = [(1, [42])] ∧
      ¬final.sender.Decoded 0 after tornPacket.destination := by
  refine ⟨_, _, _, _, rfl, rfl, fun framed => ?_, rfl, rfl, rfl, fun decoded => ?_⟩
  · obtain ⟨records, encodes, written⟩ := framed.control (fun _ _ => by simp) rfl
    cases records with
    | nil => contradiction
    | cons record records =>
      have whole := readRecord_recordBytes (encodes record (by simp))
        (records.flatMap recordBytes)
      rw [← List.flatMap_cons, ← written] at whole
      contradiction
  · obtain ⟨values, rest, reads, member⟩ := decoded.announced (.datagram 1) rfl
    rcases reads_tornBytes reads with ⟨rfl, _⟩ | ⟨rfl, _⟩
    · contradiction
    · have other : (canonical tornPacket.destination, OutgoingUdpContext.id (.datagram 1)) ∉
          [(tornPacket.destination, 257)] := by decide
      exact other member

end SingQuic.ShadowQuic
