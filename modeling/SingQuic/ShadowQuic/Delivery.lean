import SingQuic.ShadowQuic.Ids
import SingQuic.ShadowQuic.LinkSound

/-! What is delivered over a link was sent on the same association, to the same
destination, at most once and, on streams, in order. -/
namespace SingQuic.ShadowQuic
open Wire

section Attribution
variable {sender : Sender} {call : Nat} {packet : ShadowQuicPacket} {delivery : Delivery}

/-- The datagram or stream packet that carried a call, and the context it used. -/
def Carried (sender : Sender) (context : Option OutgoingUdpContext) (call : Nat) : Origin → Prop
  | .datagram source => ∃ datagram, sender.datagrams[source]? = some datagram ∧
    datagram.call = call ∧ context = some (.datagram datagram.number)
  | .packet stream index => ∃ uni data, sender.unis[stream]? = some uni ∧
    uni.packets[index]? = some (call, data) ∧ context = some (.stream uni.number stream)

/-- The delivery is the packet of this call. -/
structure Attributed (sender : Sender) (delivery : Delivery) (call : Nat)
    (packet : ShadowQuicPacket) : Prop where
  sent : sender.calls[call]? = some ⟨delivery.association, packet⟩
  received : delivery.packet = ⟨packet.data, canonical packet.destination⟩
  carried : ∃ connection, sender.connections[delivery.association]? = some connection ∧
    Carried sender (connection.contexts packet.destination) call delivery.origin

theorem Carried.call_unique {context context' : Option OutgoingUdpContext} {other : Nat}
    {origin : Origin} (one : Carried sender context call origin)
    (two : Carried sender context' other origin) : call = other := by
  cases origin with
  | datagram source =>
    obtain ⟨datagram, found, rfl, _⟩ := one
    obtain ⟨datagram', found', rfl, _⟩ := two
    cases found.symm.trans found'
    rfl
  | packet stream index =>
    obtain ⟨uni, data, found, here, _⟩ := one
    obtain ⟨uni', data', found', here', _⟩ := two
    cases found.symm.trans found'
    cases here.symm.trans here'
    rfl

theorem Carried.context_unique {context context' : Option OutgoingUdpContext} {other : Nat}
    {origin : Origin} (one : Carried sender context call origin)
    (two : Carried sender context' other origin) : context = context' := by
  cases origin with
  | datagram source =>
    obtain ⟨datagram, found, _, used⟩ := one
    obtain ⟨datagram', found', _, used'⟩ := two
    cases found.symm.trans found'
    exact used.trans used'.symm
  | packet stream index =>
    obtain ⟨uni, _, found, _, used⟩ := one
    obtain ⟨uni', _, found', _, used'⟩ := two
    cases found.symm.trans found'
    exact used.trans used'.symm

theorem datagramId_idBytes (number : Nat) (data : Bytes) :
    datagramId (idBytes number ++ data) = wireId number := by
  rw [datagramId, List.take_append_of_le_length (by simp [idBytes]), idBytes,
    List.take_of_length_le (by simp), ofBigEndian_bigEndian_of_lt (by simpa using UInt16.toNat_lt _),
    UInt16.ofNat_toNat]

theorem Sender.mem_records {association : Nat} {record : Address × Nat} :
    record ∈ sender.records association ↔ ∃ connection,
      sender.connections[association]? = some connection ∧ record ∈ connection.records := by
  unfold Sender.records
  cases found : sender.connections[association]? with
  | none => simp
  | some connection => simp

/-- Below 65536 draws an id names one destination of one association. -/
theorem Sender.Valid.unshared (valid : sender.Valid) (few : sender.allocated ≤ 65536) (id : UInt16) :
    sender.Unshared id := by
  rintro ⟨association, destination⟩ ⟨other, destination'⟩ ⟨record, listed, same⟩ ⟨record', listed', same'⟩
  obtain ⟨connection, here, member⟩ := Sender.mem_records.mp listed
  obtain ⟨connection', there, member'⟩ := Sender.mem_records.mp listed'
  obtain ⟨rfl, number⟩ := Prod.mk.inj same
  obtain ⟨rfl, number'⟩ := Prod.mk.inj same'
  have first := (valid.connection _ _ here).drawn record member
  have second := (valid.connection _ _ there).drawn record' member'
  have equal : record.2 = record'.2 :=
    Nat.ModEq.eq_of_lt_of_lt (wireId_eq_iff.mp (number.trans number'.symm))
      (first.trans_le few) (second.trans_le few)
  obtain ⟨rfl, rfl⟩ := valid.distinct _ _ _ _ _ _ here there member member' equal
  rfl

/-- The id of a context was announced for its destination. -/
theorem Sender.Valid.announces (valid : sender.Valid) {association : Nat} {connection : PacketConnection}
    {destination : Address} {context : OutgoingUdpContext}
    (here : sender.connections[association]? = some connection)
    (used : connection.contexts destination = some context) :
    sender.Announces ⟨association, canonical destination⟩ (wireId context.number) :=
  ⟨(destination, context.number),
    Sender.mem_records.mpr ⟨connection, here, (valid.connection _ _ here).context _ _ used⟩, rfl⟩

/-- A delivery has the payload of the call that its origin carried, and went where
some record with the id of the call's context leads. -/
theorem Link.Sound.carried {self : Link} (sound : self.Sound) (member : delivery ∈ self.receiver.log) :
    ∃ call association packet connection context,
      self.sender.calls[call]? = some ⟨association, packet⟩ ∧
      self.sender.connections[association]? = some connection ∧
      connection.contexts packet.destination = some context ∧
      Carried self.sender (some context) call delivery.origin ∧
      delivery.packet.data = packet.data ∧
      self.sender.Announces ⟨delivery.association, delivery.packet.destination⟩ (wireId context.number) := by
  have known := sound.log delivery member
  cases origin : delivery.origin with
  | datagram source =>
    rw [origin] at known
    obtain ⟨datagram, task, result, found, _, _, data, announces⟩ := known
    obtain ⟨connection, packet, here, called, context, frame⟩ :=
      (sound.valid.datagram datagram (List.mem_of_getElem? found)).owner
    refine ⟨datagram.call, datagram.association, packet, connection, _, called, here, context,
      ⟨datagram, found, rfl, rfl⟩, data.trans ?_, ?_⟩
    · rw [frame, List.drop_append_of_le_length (by simp [idBytes]), idBytes,
        List.drop_of_length_le (by simp), List.nil_append]
    · rwa [frame, datagramId_idBytes] at announces
  | packet stream index =>
    rw [origin] at known
    obtain ⟨uni, task, call, found, _, _, data, announces⟩ := known
    obtain ⟨connection, destination, here, _, packets⟩ := (sound.valid.uni stream uni found).owner
    obtain ⟨_, context, called⟩ := packets _ (List.mem_of_getElem? data)
    exact ⟨call, uni.association, _, connection, _, called, here, context,
      ⟨uni, _, found, data, rfl⟩, rfl, announces⟩

theorem Link.Sound.attributed {self : Link} (sound : self.Sound)
    (unshared : ∀ id, self.sender.Unshared id) (member : delivery ∈ self.receiver.log) :
    ∃ call packet, Attributed self.sender delivery call packet := by
  obtain ⟨call, association, packet, connection, context, called, here, used, carried, data, announces⟩ :=
    sound.carried member
  have owner := unshared _ _ _ announces (sound.valid.announces here used)
  obtain ⟨rfl, destination⟩ := IncomingUdpRoute.mk.inj owner
  refine ⟨call, packet, called, ?_, connection, here, used ▸ carried⟩
  rw [← destination, ← data]

/-- A call is carried by one datagram or one packet of a stream, and the packets of
one stream belong to later and later calls. -/
theorem Carried.lt (valid : sender.Valid) {context : Option OutgoingUdpContext} {other : Nat}
    {first second : Origin} (before : first.Before second) (one : Carried sender context call first)
    (two : Carried sender context other second) (stream : ∀ number, context ≠ some (.datagram number)) :
    call < other := by
  cases first with
  | datagram source =>
    obtain ⟨datagram, _, _, used⟩ := one
    exact absurd used (stream _)
  | packet stream' index =>
    cases second with
    | datagram source =>
      obtain ⟨datagram, _, _, used⟩ := two
      exact absurd used (stream _)
    | packet stream'' index' =>
      obtain ⟨uni, data, found, here, used⟩ := one
      obtain ⟨uni', data', found', here', used'⟩ := two
      obtain ⟨_, rfl⟩ := OutgoingUdpContext.stream.inj (Option.some.inj (used.symm.trans used'))
      cases found.symm.trans found'
      obtain ⟨small, one⟩ := List.getElem?_eq_some_iff.mp here
      obtain ⟨large, two⟩ := List.getElem?_eq_some_iff.mp here'
      have ordered := List.pairwise_iff_getElem.mp (valid.uni _ _ found).ordered index index' small
        large (before rfl)
      rwa [one, two] at ordered

theorem Carried.ne (valid : sender.Valid) {context : Option OutgoingUdpContext} {other : Nat}
    {first second : Origin} (before : first.Before second) (one : Carried sender context call first)
    (two : Carried sender context other second) : call ≠ other := by
  by_cases stream : ∀ number, context ≠ some (.datagram number)
  · exact (Carried.lt valid before one two stream).ne
  · simp only [not_forall, not_not] at stream
    obtain ⟨number, used⟩ := stream
    cases first with
    | packet stream index =>
      obtain ⟨_, _, _, _, used'⟩ := one
      cases used.symm.trans used'
    | datagram source =>
      cases second with
      | packet stream index =>
        obtain ⟨_, _, _, _, used'⟩ := two
        cases used.symm.trans used'
      | datagram source' =>
        obtain ⟨datagram, found, rfl, _⟩ := one
        obtain ⟨datagram', found', rfl, _⟩ := two
        obtain ⟨small, one⟩ := List.getElem?_eq_some_iff.mp found
        obtain ⟨large, two⟩ := List.getElem?_eq_some_iff.mp found'
        have once := List.pairwise_iff_getElem.mp valid.once
        rcases Nat.lt_or_gt_of_ne before with less | more
        · have apart := once source source' small large less
          rwa [one, two] at apart
        · have apart := once source' source large small more
          rw [one, two] at apart
          exact apart.symm

end Attribution

/-- `source` names the call of `send` behind each packet that was put onto a queue. -/
structure Link.AsSent (link : Link) (source : Nat → Nat) : Prop where
  /-- It was made on the peer half of the same association, with the same bytes and,
  up to the text of an IP address, the same destination. -/
  sent : ∀ i delivery, link.receiver.log[i]? = some delivery →
    ∃ packet, link.sender.calls[source i]? = some ⟨delivery.association, packet⟩ ∧
      delivery.packet = ⟨packet.data, canonical packet.destination⟩
  once : ∀ i j, i < link.receiver.log.length → j < link.receiver.log.length →
    source i = source j → i = j
  ordered : ∀ i j association connection packet packet', i < j → j < link.receiver.log.length →
    link.sender.connections[association]? = some connection → connection.mode = .stream →
    link.sender.calls[source i]? = some ⟨association, packet⟩ →
    link.sender.calls[source j]? = some ⟨association, packet'⟩ →
    packet.destination = packet'.destination → source i < source j

/-- In every run over a link on which at most 65536 ids were drawn, every packet on
the queue of an association was sent on its peer half, none twice, and in stream
mode those of one destination come in the order of their calls. -/
theorem delivered_as_sent {dispatch : Dispatch} {actions : List LinkAction} {link : Link}
    (execution : Transition.run (linkStep dispatch) .initial actions = some link)
    (few : link.sender.allocated ≤ 65536) : ∃ source, link.AsSent source := by
  have sound := run_sound execution
  have owned : ∀ i : Nat, ∃ call : Nat, ∀ delivery, link.receiver.log[i]? = some delivery →
      ∃ packet, Attributed link.sender delivery call packet := by
    intro i
    cases here : link.receiver.log[i]? with
    | none => exact ⟨0, fun _ there => by contradiction⟩
    | some delivery =>
      obtain ⟨call, packet, attributed⟩ := sound.attributed (sound.valid.unshared few)
        (List.mem_of_getElem? here)
      exact ⟨call, fun other there => by cases there; exact ⟨packet, attributed⟩⟩
  choose source holds using owned
  -- two deliveries at once, with the fact that they differ in origin
  have pair : ∀ {i j : Nat}, i < j → j < link.receiver.log.length →
      ∃ first second packet packet', Attributed link.sender first (source i) packet ∧
        Attributed link.sender second (source j) packet' ∧ first.origin.Before second.origin := by
    intro i j less bound
    have here := List.getElem?_eq_getElem (less.trans bound)
    have there := List.getElem?_eq_getElem bound
    obtain ⟨packet, one⟩ := holds i _ here
    obtain ⟨packet', two⟩ := holds j _ there
    exact ⟨_, _, packet, packet', one, two,
      List.pairwise_iff_getElem.mp sound.order i j (less.trans bound) bound less⟩
  have apart : ∀ {i j : Nat}, i < j → j < link.receiver.log.length → source i ≠ source j := by
    intro i j less bound same
    obtain ⟨first, second, packet, packet', one, two, before⟩ := pair less bound
    have call := two.sent
    rw [← same, one.sent] at call
    obtain ⟨association, rfl⟩ := SendCall.mk.inj (Option.some.inj call)
    obtain ⟨connection, here, carried⟩ := one.carried
    obtain ⟨connection', here', carried'⟩ := two.carried
    rw [← association, here] at here'
    cases here'
    exact Carried.ne sound.valid before carried carried' same
  refine ⟨source, fun i delivery here => ?_, fun i j small large same => ?_, ?_⟩
  · obtain ⟨packet, attributed⟩ := holds i delivery here
    exact ⟨packet, attributed.sent, attributed.received⟩
  · rcases Nat.lt_trichotomy i j with less | equal | more
    · exact absurd same (apart less large)
    · exact equal
    · exact absurd same.symm (apart more small)
  · intro i j association connection packet packet' less bound found mode sent sent' destination
    obtain ⟨first, second, _, _, one, two, before⟩ := pair less bound
    obtain ⟨rfl, rfl⟩ := SendCall.mk.inj (Option.some.inj (one.sent.symm.trans sent))
    obtain ⟨same, rfl⟩ := SendCall.mk.inj (Option.some.inj (two.sent.symm.trans sent'))
    obtain ⟨connection', here, carried⟩ := one.carried
    obtain ⟨connection'', here', carried'⟩ := two.carried
    rw [same] at here'
    cases found.symm.trans here
    cases found.symm.trans here'
    rw [← destination] at carried'
    refine Carried.lt sound.valid before carried carried' fun number used => ?_
    have datagram := (sound.valid.connection _ _ found).kind _ _ used
    rw [mode] at datagram
    contradiction

/-- One packet by datagram and two by stream; the datagram overtakes its record. -/
def mixedRun : List LinkAction :=
  [.send (.associate .datagram), .send (.associate .stream), .receive (.associate 0),
    .receive (.associate 1), .send (.start 0 ⟨[7], ⟨"a", 1, by decide⟩⟩ (.ok ())),
    .send (.flowControl 0 7), .send (.proceed 0 (.ok ())), .datagramArrives 0,
    .receive .readDatagram, .send (.start 1 ⟨[8], ⟨"b", 1, by decide⟩⟩ (.ok ())),
    .send (.flowControl 1 7), .send (.proceed 1 (.ok ())), .send (.proceed 1 (.ok ())),
    .send (.flowUni 0 2), .send (.proceed 1 (.ok ())), .send (.flowUni 0 3),
    .send (.proceed 1 (.ok ())), .send (.start 1 ⟨[9], ⟨"b", 1, by decide⟩⟩ (.ok ())),
    .send (.flowUni 0 3), .controlArrives 0 7, .receive (.record 0), .receive (.route 0),
    .receive (.deliver 0), .controlArrives 1 7, .receive (.record 1), .streamArrives 0,
    .bytesArrive 0 8, .receive (.accept 0), .receive (.readId 0), .receive (.routeStream 0),
    .receive (.readPacket 0), .receive (.deliverPacket 0), .receive (.readPacket 0),
    .receive (.deliverPacket 0)]

theorem delivered_as_sent_mixed :
    ∃ link, Transition.run (linkStep .spawned) .initial mixedRun = some link ∧
      link.receiver.log.map (fun delivery => (delivery.association, delivery.packet.data)) =
        [(0, [7]), (1, [8]), (1, [9])] ∧
      link.sender.allocated = 2 ∧ ∃ source, link.AsSent source := by
  have reached : (Transition.run (linkStep .spawned) .initial mixedRun).map (fun link =>
      (link.receiver.log.map fun delivery => (delivery.association, delivery.packet.data),
        link.sender.allocated)) = some ([(0, [7]), (1, [8]), (1, [9])], 2) := by decide
  obtain ⟨link, execution, same⟩ := Option.map_eq_some_iff.mp reached
  obtain ⟨log, allocated⟩ := Prod.mk.inj same
  exact ⟨link, execution, log, allocated, delivered_as_sent execution (by omega)⟩

end SingQuic.ShadowQuic
