import SingQuic.ShadowQuic.SendRules

/-! What holds of the sending side in every reachable state: which bytes its
streams carry, and which call, destination and packet connection every datagram
and every stream belongs to. -/
namespace SingQuic.ShadowQuic
open Wire

/-- The bytes of one record on a control stream. -/
def recordBytes (record : Address × Nat) : Bytes :=
  match encodeAddress record.1 with
  | .ok address => encodeRecord address (wireId record.2)
  | .error _ => []

/-- The two bytes that name a context on the wire. -/
def idBytes (number : Nat) : Bytes := bigEndian 2 (wireId number).toNat

namespace Sender

/-- A call that has announced its destination but not yet entered it in the map. -/
structure Pending (sender : Sender) (association : Nat) (connection : PacketConnection)
    (call number : Nat) : Prop where
  live : connection.live = true
  packet : ∃ packet, sender.calls[call]? = some ⟨association, packet⟩ ∧
    connection.contexts packet.destination = none ∧ (packet.destination, number) ∈ connection.records

/-- Connection, uni stream and number agree. -/
def OwnsUni (sender : Sender) (association number stream : Nat) : Prop :=
  ∃ uni, sender.unis[stream]? = some uni ∧ uni.association = association ∧ uni.number = number

def ProgressValid (sender : Sender) (association : Nat) (connection : PacketConnection) :
    Progress → Prop
  | .idle => True
  | .control call number | .opening call number => sender.Pending association connection call number
  | .header call number stream =>
    sender.Pending association connection call number ∧ sender.OwnsUni association number stream
  | .payload _ _ => connection.live = true

structure ConnectionValid (sender : Sender) (association : Nat) (connection : PacketConnection) :
    Prop where
  content : connection.control.content = connection.records.flatMap recordBytes
  drawn : ∀ record ∈ connection.records, record.2 < sender.allocated
  encodes : ∀ record ∈ connection.records, ∃ address, encodeAddress record.1 = .ok address
  context : ∀ destination context, connection.contexts destination = some context →
    (destination, context.number) ∈ connection.records
  stream : ∀ destination number stream, connection.contexts destination = some (.stream number stream) →
    sender.OwnsUni association number stream
  kind : ∀ destination number, connection.contexts destination = some (.datagram number) →
    connection.mode = .datagram
  progress : sender.ProgressValid association connection connection.progress

/-- Every packet on a stream was sent to the one destination the stream is for. -/
structure UniValid (sender : Sender) (index : Nat) (uni : UniStream) : Prop where
  content : uni.stream.content = idBytes uni.number ++ uni.packets.flatMap (encodePacket ·.2)
  ordered : uni.packets.Pairwise (·.1 < ·.1)
  owner : ∃ connection destination, sender.connections[uni.association]? = some connection ∧
    (destination, uni.number) ∈ connection.records ∧
    ∀ packet ∈ uni.packets, packet.2.length ≤ maxStreamPacket ∧
      connection.contexts destination = some (.stream uni.number index) ∧
      sender.calls[packet.1]? = some ⟨uni.association, ⟨packet.2, destination⟩⟩

structure DatagramValid (sender : Sender) (datagram : SentDatagram) : Prop where
  owner : ∃ connection packet, sender.connections[datagram.association]? = some connection ∧
    sender.calls[datagram.call]? = some ⟨datagram.association, packet⟩ ∧
    connection.contexts packet.destination = some (.datagram datagram.number) ∧
    datagram.frame = idBytes datagram.number ++ packet.data

/-- A number was drawn for one destination of one connection. -/
def Distinct (sender : Sender) : Prop :=
  ∀ (association other : Nat) (connection connection' : PacketConnection)
    (record record' : Address × Nat),
    sender.connections[association]? = some connection → sender.connections[other]? = some connection' →
    record ∈ connection.records → record' ∈ connection'.records → record.2 = record'.2 →
    association = other ∧ record = record'

/-- Records are numbered by draws of the counter. -/
structure Numbered (sender : Sender) : Prop where
  drawn : ∀ (association : Nat) (connection : PacketConnection),
    sender.connections[association]? = some connection →
    ∀ record ∈ connection.records, record.2 < sender.allocated
  distinct : sender.Distinct

structure Valid (sender : Sender) : Prop where
  connection : ∀ (association : Nat) (connection : PacketConnection),
    sender.connections[association]? = some connection →
    sender.ConnectionValid association connection
  uni : ∀ (index : Nat) (uni : UniStream), sender.unis[index]? = some uni → sender.UniValid index uni
  datagram : ∀ datagram ∈ sender.datagrams, sender.DatagramValid datagram
  once : sender.datagrams.Pairwise (·.call ≠ ·.call)
  distinct : sender.Distinct

/-- What no step ever takes back. -/
structure Extends (sender next : Sender) : Prop where
  allocated : sender.allocated ≤ next.allocated
  calls : sender.calls <+: next.calls
  connections : ∀ {association : Nat} {connection : PacketConnection},
    sender.connections[association]? = some connection →
    ∃ later, next.connections[association]? = some later ∧ connection.records ⊆ later.records ∧
      ∀ destination context, connection.contexts destination = some context →
        later.contexts destination = some context
  unis : ∀ {association number stream : Nat}, sender.OwnsUni association number stream →
    next.OwnsUni association number stream

variable {self next : Sender} {association call number stream : Nat} {connection : PacketConnection}

theorem Extends.getCall (grows : Extends self next) {index : Nat} {sent : SendCall}
    (found : self.calls[index]? = some sent) : next.calls[index]? = some sent :=
  Table.kept grows.calls found

theorem Pending.mono (grows : Extends self next)
    (pending : self.Pending association connection call number) :
    next.Pending association connection call number := by
  obtain ⟨packet, found, rest⟩ := pending.packet
  exact ⟨pending.live, packet, grows.getCall found, rest⟩

theorem ProgressValid.mono (grows : Extends self next) {progress : Progress}
    (valid : self.ProgressValid association connection progress) :
    next.ProgressValid association connection progress := by
  cases progress with
  | idle => trivial
  | control call number => exact Pending.mono grows valid
  | opening call number => exact Pending.mono grows valid
  | header call number stream => exact ⟨valid.1.mono grows, grows.unis valid.2⟩
  | payload call stream => exact valid

theorem ProgressValid.congr (connection : PacketConnection) {later : PacketConnection} (live : later.live = connection.live)
    (contexts : later.contexts = connection.contexts) (records : later.records = connection.records)
    {progress : Progress} (valid : self.ProgressValid association connection progress) :
    self.ProgressValid association later progress := by
  have pending : ∀ {call number}, self.Pending association connection call number →
      self.Pending association later call number :=
    fun waits => ⟨live ▸ waits.live, contexts ▸ records ▸ waits.packet⟩
  cases progress with
  | idle => trivial
  | control call number => exact pending valid
  | opening call number => exact pending valid
  | header call number stream => exact ⟨pending valid.1, valid.2⟩
  | payload call stream => exact live.trans valid

theorem ConnectionValid.mono (grows : Extends self next)
    (valid : self.ConnectionValid association connection) :
    next.ConnectionValid association connection where
  content := valid.content
  drawn record member := (valid.drawn record member).trans_le grows.allocated
  encodes := valid.encodes
  context := valid.context
  stream destination number stream entered := grows.unis (valid.stream destination number stream entered)
  kind := valid.kind
  progress := valid.progress.mono grows

theorem UniValid.mono (grows : Extends self next) {index : Nat} {uni : UniStream}
    (valid : self.UniValid index uni) : next.UniValid index uni := by
  obtain ⟨connection, destination, found, announced, packets⟩ := valid.owner
  obtain ⟨later, found', records, contexts⟩ := grows.connections found
  refine ⟨valid.content, valid.ordered, later, destination, found', records announced, ?_⟩
  intro packet member
  obtain ⟨size, entered, sent⟩ := packets packet member
  exact ⟨size, contexts _ _ entered, grows.getCall sent⟩

theorem DatagramValid.mono (grows : Extends self next) {datagram : SentDatagram}
    (valid : self.DatagramValid datagram) : next.DatagramValid datagram := by
  obtain ⟨connection, packet, found, sent, entered, frame⟩ := valid.owner
  obtain ⟨later, found', _, contexts⟩ := grows.connections found
  exact ⟨later, packet, found', grows.getCall sent, contexts _ _ entered, frame⟩

/-- A step keeps the invariant if what it adds to the state is valid afterwards. -/
theorem Valid.step (valid : self.Valid) (grows : Extends self next)
    (connections : ∀ (association : Nat) (connection : PacketConnection), next.connections[association]? = some connection →
      self.connections[association]? = some connection ∨
        next.ConnectionValid association connection)
    (unis : ∀ (index : Nat) (uni : UniStream), next.unis[index]? = some uni →
      self.unis[index]? = some uni ∨ next.UniValid index uni)
    (datagrams : next.datagrams = self.datagrams ∨ ∃ datagram,
      next.datagrams = self.datagrams ++ [datagram] ∧ next.DatagramValid datagram ∧
        ∀ earlier ∈ self.datagrams, earlier.call ≠ datagram.call)
    (distinct : next.Distinct) : next.Valid where
  connection association connection found :=
    (connections association connection found).elim
      (fun old => (valid.connection _ _ old).mono grows) id
  uni index uni found :=
    (unis index uni found).elim (fun old => (valid.uni _ _ old).mono grows) id
  datagram := by
    have before : ∀ datagram ∈ self.datagrams, next.DatagramValid datagram :=
      fun datagram earlier => (valid.datagram datagram earlier).mono grows
    rcases datagrams with same | ⟨added, same, fresh, _⟩
    · rw [same]
      exact before
    · rw [same]
      exact List.forall_mem_append.mpr ⟨before, List.forall_mem_singleton.mpr fresh⟩
  once := by
    rcases datagrams with same | ⟨added, same, _, new⟩
    · rw [same]
      exact valid.once
    · rw [same]
      exact Table.pairwise_concat valid.once new
  distinct := distinct

/-- How one connection may change in a step that draws at most one number. -/
structure Grown (sender : Sender) (connection later : PacketConnection) : Prop where
  records : later.records = connection.records ∨
    ∃ destination, later.records = connection.records ++ [(destination, sender.allocated)]
  contexts : ∀ destination context, connection.contexts destination = some context →
    later.contexts destination = some context

theorem Grown.subset {later : PacketConnection} (grown : self.Grown connection later) :
    connection.records ⊆ later.records := by
  rcases grown.records with same | ⟨destination, same⟩ <;> rw [same]
  · exact fun record member => member
  · exact List.subset_append_left _ _

theorem mem_of_noted {later : PacketConnection} (noted : later.records = connection.records ∨
      ∃ destination, later.records = connection.records ++ [(destination, number)])
    {record : Address × Nat} (member : record ∈ later.records) :
    record ∈ connection.records ∨ record.2 = number ∧ later.records.getLast? = some record := by
  rcases noted with same | ⟨destination, same⟩ <;> rw [same] at member ⊢
  · exact Or.inl member
  · rcases List.mem_append.mp member with earlier | last
    · exact Or.inl earlier
    · rw [List.mem_singleton.mp last]
      exact Or.inr ⟨rfl, by simp⟩

theorem Valid.numbered (valid : self.Valid) : self.Numbered :=
  ⟨fun _ _ found => (valid.connection _ _ found).drawn, valid.distinct⟩

theorem Extends.of_set {later : PacketConnection}
    (found : self.connections[association]? = some connection)
    (connections : next.connections = self.connections.set association later)
    (grown : self.Grown connection later) (allocated : self.allocated ≤ next.allocated)
    (calls : self.calls <+: next.calls)
    (unis : ∀ {association number stream}, self.OwnsUni association number stream →
      next.OwnsUni association number stream) : Extends self next := by
  refine ⟨allocated, calls, fun {other existing} here => ?_, unis⟩
  rw [connections]
  apply Table.set_related _ found _ here
  · exact fun connection => ⟨List.Subset.refl _, fun _ _ kept => kept⟩
  · exact ⟨grown.subset, grown.contexts⟩

theorem Distinct.of_set {later : PacketConnection} (numbered : self.Numbered)
    (found : self.connections[association]? = some connection)
    (connections : next.connections = self.connections.set association later)
    (noted : later.records = connection.records ∨
      ∃ destination, later.records = connection.records ++ [(destination, self.allocated)]) :
    next.Distinct := by
  have split : ∀ {other : Nat} {existing : PacketConnection} {record : Address × Nat}, next.connections[other]? = some existing →
      record ∈ existing.records →
      (∃ before, self.connections[other]? = some before ∧ record ∈ before.records) ∨
        other = association ∧ record.2 = self.allocated ∧ later.records.getLast? = some record := by
    intro other existing record here member
    rw [connections] at here
    rcases Table.of_set here with ⟨rfl, rfl⟩ | ⟨_, there⟩
    · exact (mem_of_noted noted member).imp (fun earlier => ⟨connection, found, earlier⟩)
        fun last => ⟨rfl, last⟩
    · exact Or.inl ⟨existing, there, member⟩
  have old : ∀ {other : Nat} {before : PacketConnection} {record : Address × Nat}, self.connections[other]? = some before →
      record ∈ before.records → record.2 < self.allocated :=
    fun here member => numbered.drawn _ _ here _ member
  intro first second existing existing' record record' here here' member member' same
  rcases split here member with ⟨before, found₁, member₁⟩ | ⟨rfl, number, last⟩ <;>
    rcases split here' member' with ⟨before', found₂, member₂⟩ | ⟨rfl, number', last'⟩
  · exact numbered.distinct _ _ _ _ _ _ found₁ found₂ member₁ member₂ same
  · have bound := old found₁ member₁
    omega
  · have bound := old found₂ member₂
    omega
  · exact ⟨rfl, Option.some.inj (last.symm.trans last')⟩

/-- The step lemma for everything that changes a single connection. -/
theorem Valid.set {later : PacketConnection} (valid : self.Valid)
    (found : self.connections[association]? = some connection)
    (connections : next.connections = self.connections.set association later)
    (grown : self.Grown connection later) (grows : Extends self next)
    (after : next.ConnectionValid association later)
    (unis : ∀ (index : Nat) (uni : UniStream), next.unis[index]? = some uni →
      self.unis[index]? = some uni ∨ next.UniValid index uni)
    (datagrams : next.datagrams = self.datagrams ∨ ∃ datagram,
      next.datagrams = self.datagrams ++ [datagram] ∧ next.DatagramValid datagram ∧
        ∀ earlier ∈ self.datagrams, earlier.call ≠ datagram.call) : next.Valid := by
  refine valid.step grows (fun other existing here => ?_) unis datagrams
    (Distinct.of_set valid.numbered found connections grown.records)
  rw [connections] at here
  rcases Table.of_set here with ⟨rfl, rfl⟩ | ⟨_, there⟩
  · exact Or.inr after
  · exact Or.inl there

variable {packet : ShadowQuicPacket} {answer : Except String Unit} {data : Bytes} {text : String}
  {uni : UniStream} {context : OutgoingUdpContext}

theorem ConnectionValid.withProgress (valid : self.ConnectionValid association connection)
    (progress : Progress)
    (reached : self.ProgressValid association { connection with progress } progress) :
    self.ConnectionValid association { connection with progress } :=
  ⟨valid.content, valid.drawn, valid.encodes, valid.context, valid.stream, valid.kind, reached⟩

theorem grown_of_eq {later : PacketConnection} (records : later.records = connection.records)
    (contexts : later.contexts = connection.contexts) : self.Grown connection later :=
  ⟨Or.inl records, fun _ _ entered => contexts ▸ entered⟩

theorem ownsUni_set (found : self.unis[stream]? = some uni) {later : UniStream}
    (unis : next.unis = self.unis.set stream later) (same : later.association = uni.association)
    (same' : later.number = uni.number) {other number index : Nat}
    (owned : self.OwnsUni other number index) : next.OwnsUni other number index := by
  obtain ⟨existing, here, rfl, rfl⟩ := owned
  unfold OwnsUni
  rw [unis]
  apply Table.set_related _ found _ here
  · exact fun uni => ⟨rfl, rfl⟩
  · exact ⟨same, same'⟩

theorem uni_of_set (found : self.unis[stream]? = some uni) {later : UniStream}
    (unis : next.unis = self.unis.set stream later) (after : next.UniValid stream later) :
    ∀ (index : Nat) (uni : UniStream), next.unis[index]? = some uni →
      self.unis[index]? = some uni ∨ next.UniValid index uni := by
  intro index existing here
  rw [unis] at here
  rcases Table.of_set here with ⟨rfl, rfl⟩ | ⟨_, there⟩
  · exact Or.inr after
  · exact Or.inl there

/-- A step that only changes one connection, leaving streams and datagrams alone. -/
theorem Valid.setOnly {later : PacketConnection} (valid : self.Valid)
    (found : self.connections[association]? = some connection)
    (connections : next.connections = self.connections.set association later)
    (grown : self.Grown connection later) (allocated : self.allocated ≤ next.allocated)
    (calls : self.calls <+: next.calls) (unis : next.unis = self.unis)
    (datagrams : next.datagrams = self.datagrams)
    (after : Extends self next → next.ConnectionValid association later) : next.Valid := by
  have grows := Extends.of_set found connections grown allocated calls fun owned => by
    unfold OwnsUni at owned ⊢
    rwa [unis]
  exact valid.set found connections grown grows (after grows)
    (fun index uni here => Or.inl (unis ▸ here)) (Or.inl datagrams)

/-- Returning from a call, with the connection as the call left it. -/
theorem finish_valid {later : PacketConnection} {result : Result Unit} (valid : self.Valid)
    (found : self.connections[association]? = some connection) (grown : self.Grown connection later)
    (after : self.ConnectionValid association { later with progress := .idle }) :
    (self.finish association later call result).Valid :=
  valid.setOnly found rfl ⟨grown.records, grown.contexts⟩ le_rfl (List.prefix_refl _) rfl rfl
    fun grows => after.mono grows

theorem sendDatagram_valid {later : PacketConnection} {result : Result Unit} (valid : self.Valid)
    (found : self.connections[association]? = some connection) (grown : self.Grown connection later)
    (after : self.ConnectionValid association { later with progress := .idle })
    (sent : self.calls[call]? = some ⟨association, packet⟩)
    (entered : later.contexts packet.destination = some (.datagram number))
    (unsent : ∀ datagram ∈ self.datagrams, datagram.call ≠ call) :
    ((self.sendDatagram association call number packet.data).finish association later call result).Valid := by
  have grows : Extends self
      ((self.sendDatagram association call number packet.data).finish association later call result) :=
    Extends.of_set found rfl ⟨grown.records, grown.contexts⟩ le_rfl (List.prefix_refl _) id
  refine valid.set found rfl ⟨grown.records, grown.contexts⟩ grows (after.mono grows)
    (fun _ _ => Or.inl) (Or.inr ⟨_, rfl, ?_, unsent⟩)
  refine ⟨⟨{ later with progress := .idle }, packet, ?_, sent, entered, rfl⟩⟩
  exact List.getElem?_set_self (List.getElem?_eq_some_iff.mp found).1

theorem writePacket_valid {later : PacketConnection} (valid : self.Valid)
    (found : self.connections[association]? = some connection)
    (records : later.records = connection.records)
    (contexts : ∀ destination context, connection.contexts destination = some context →
      later.contexts destination = some context)
    (after : self.ConnectionValid association { later with progress := .idle })
    (live : later.live = true) (sent : self.calls[call]? = some ⟨association, packet⟩)
    (entered : later.contexts packet.destination = some (.stream number stream))
    (here : self.unis[stream]? = some uni) (small : packet.data.length ≤ maxStreamPacket)
    (unsent : ∀ earlier ∈ uni.packets, earlier.1 < call) :
    (self.writePacket association later call stream uni packet.data).Valid := by
  have grown : self.Grown connection { later with progress := .payload call stream } :=
    ⟨Or.inl records, contexts⟩
  have written : (self.writePacket association later call stream uni packet.data).unis =
      self.unis.set stream { uni with
        stream := uni.stream.writeAll (encodePacket packet.data)
        packets := uni.packets ++ [(call, packet.data)] } := rfl
  have grows : Extends self (self.writePacket association later call stream uni packet.data) :=
    Extends.of_set found rfl grown le_rfl (List.prefix_refl _) (ownsUni_set here written rfl rfl)
  obtain ⟨owner, here', owns, numbered⟩ := after.stream _ _ _ entered
  obtain rfl := Option.some.inj (here.symm.trans here')
  have announced : (packet.destination, uni.number) ∈ later.records :=
    numbered ▸ after.context _ _ entered
  have place : (self.writePacket association later call stream uni packet.data).connections[association]? =
      some { later with progress := .payload call stream } :=
    List.getElem?_set_self (List.getElem?_eq_some_iff.mp found).1
  have old := valid.uni _ _ here
  have busy : self.ConnectionValid association { later with progress := .payload call stream } :=
    after.withProgress (.payload call stream) live
  refine valid.set found rfl grown grows (busy.mono grows)
    (uni_of_set here written ⟨?_, ?_, ?_⟩) (Or.inl rfl)
  · simp [old.content, List.append_assoc]
  · exact Table.pairwise_concat old.ordered unsent
  · obtain ⟨before, destination, found', announced', packets⟩ := old.owner
    rw [owns] at found'
    obtain rfl := Option.some.inj (found.symm.trans found')
    have known : (packet.destination, uni.number) ∈ connection.records := records ▸ announced
    obtain ⟨_, same⟩ := valid.distinct _ _ _ _ _ _ found found announced' known rfl
    obtain rfl : destination = packet.destination := congrArg Prod.fst same
    refine ⟨{ later with progress := .payload call stream }, packet.destination, ?_, announced,
      fun other member => ?_⟩
    · rw [← place, ← owns]
    rcases List.mem_append.mp member with earlier | last
    · obtain ⟨size, kept, called⟩ := packets other earlier
      exact ⟨size, contexts _ _ kept, called⟩
    · rw [List.mem_singleton.mp last]
      refine ⟨small, ?_, ?_⟩
      · rw [← numbered] at entered
        exact entered
      · rw [owns]
        exact sent

/-- The second half of a call keeps the invariant, provided its packet has not
been emitted before. -/
theorem Transmission.valid {later : PacketConnection}
    (transmitted : Transmission self association later call packet.data answer context next)
    (valid : self.Valid) (found : self.connections[association]? = some connection)
    (records : later.records = connection.records)
    (contexts : ∀ destination context, connection.contexts destination = some context →
      later.contexts destination = some context)
    (after : self.ConnectionValid association { later with progress := .idle })
    (live : later.live = true) (sent : self.calls[call]? = some ⟨association, packet⟩)
    (entered : later.contexts packet.destination = some context)
    (unsent : ∀ datagram ∈ self.datagrams, datagram.call ≠ call)
    (unwritten : ∀ number stream uni, context = .stream number stream →
      self.unis[stream]? = some uni → ∀ earlier ∈ uni.packets, earlier.1 < call) : next.Valid := by
  have grown : self.Grown connection later := ⟨Or.inl records, contexts⟩
  cases transmitted with
  | rejected => exact finish_valid valid found grown after
  | sent => exact sendDatagram_valid valid found grown after sent entered unsent
  | oversized => exact finish_valid valid found grown after
  | broken => exact finish_valid valid found grown after
  | writing answer number stream uni small here =>
    exact writePacket_valid valid found records contexts after live sent entered here small
      (unwritten number stream uni rfl here)

/-- What a pending call would insert is new: neither a datagram nor a stream
carries its packet yet. -/
theorem Pending.unsent (valid : self.Valid)
    (found : self.connections[association]? = some connection)
    (sent : self.calls[call]? = some ⟨association, packet⟩)
    (missing : connection.contexts packet.destination = none) :
    ∀ datagram ∈ self.datagrams, datagram.call ≠ call := by
  rintro datagram member rfl
  obtain ⟨owner, other, here, called, entered, _⟩ := (valid.datagram _ member).owner
  obtain ⟨same, rfl⟩ := SendCall.mk.inj (Option.some.inj (called.symm.trans sent))
  rw [same] at here
  obtain rfl := Option.some.inj (found.symm.trans here)
  rw [missing] at entered
  contradiction

theorem Pending.unwritten (valid : self.Valid)
    (found : self.connections[association]? = some connection)
    (missing : connection.contexts packet.destination = none)
    (announced : (packet.destination, number) ∈ connection.records)
    (owned : self.OwnsUni association number stream) (here : self.unis[stream]? = some uni) :
    uni.packets = [] := by
  obtain ⟨_, here', owns, numbered⟩ := owned
  obtain rfl := Option.some.inj (here.symm.trans here')
  obtain ⟨owner, destination, found', announced', packets⟩ := (valid.uni _ _ here).owner
  rw [owns] at found'
  obtain rfl := Option.some.inj (found.symm.trans found')
  rw [← numbered] at announced
  obtain ⟨_, same⟩ := valid.distinct _ _ _ _ _ _ found found announced' announced rfl
  obtain rfl : destination = packet.destination := congrArg Prod.fst same
  by_contra busy
  obtain ⟨first, rest, shape⟩ := List.exists_cons_of_ne_nil busy
  obtain ⟨_, entered, _⟩ := packets first (by simp [shape])
  rw [missing] at entered
  contradiction

theorem entered_valid (context : OutgoingUdpContext) (valid : self.Valid)
    (found : self.connections[association]? = some connection)
    (pending : self.Pending association connection call context.number)
    (sent : self.calls[call]? = some ⟨association, packet⟩)
    (owned : ∀ number stream, context = .stream number stream →
      self.OwnsUni association number stream)
    (kind : ∀ number, context = .datagram number → connection.mode = .datagram)
    (transmitted : Transmission self association { connection with
      contexts := Function.update connection.contexts packet.destination (some context) }
      call packet.data answer context next) : next.Valid := by
  obtain ⟨other, called, missing, announced⟩ := pending.packet
  obtain rfl : other = packet := (SendCall.mk.inj (Option.some.inj (called.symm.trans sent))).2
  have old := valid.connection _ _ found
  have entered : Function.update connection.contexts other.destination (some context)
      other.destination = some context := Function.update_self _ _ _
  have kept : ∀ destination existing, connection.contexts destination = some existing →
      Function.update connection.contexts other.destination (some context) destination =
        some existing := by
    intro destination existing known
    have different : destination ≠ other.destination := by
      rintro rfl
      rw [missing] at known
      contradiction
    rw [Function.update_of_ne different, known]
  have after : self.ConnectionValid association { connection with
      contexts := Function.update connection.contexts other.destination (some context)
      progress := .idle } := by
    refine ⟨old.content, old.drawn, old.encodes, fun destination existing known => ?_,
      fun destination number stream known => ?_, fun destination number known => ?_, trivial⟩
    · rcases Table.of_update known with ⟨rfl, rfl⟩ | ⟨_, before⟩
      · exact announced
      · exact old.context _ _ before
    · rcases Table.of_update known with ⟨_, same⟩ | ⟨_, before⟩
      · exact owned number stream same.symm
      · exact old.stream _ _ _ before
    · rcases Table.of_update known with ⟨_, same⟩ | ⟨_, before⟩
      · exact kind number same.symm
      · exact old.kind _ _ before
  refine transmitted.valid valid found rfl kept after pending.live sent entered
    (Pending.unsent valid found sent missing) ?_
  rintro number stream uni rfl here earlier member
  rw [Pending.unwritten valid found missing announced (owned number stream rfl) here] at member
  contradiction

/-- Recording a new call changes nothing else. -/
theorem Valid.withCall (valid : self.Valid) (sent : SendCall) :
    { self with calls := self.calls ++ [sent] }.Valid := by
  have grows : Extends self { self with calls := self.calls ++ [sent] } :=
    ⟨le_rfl, List.prefix_append _ _, fun here => ⟨_, here, fun _ member => member, fun _ _ kept => kept⟩,
      id⟩
  exact valid.step grows (fun _ _ => Or.inl) (fun _ _ => Or.inl) (Or.inl rfl) valid.distinct

theorem Announcement.valid
    (announced : Announcement self association connection call packet.destination next)
    (valid : self.Valid) (found : self.connections[association]? = some connection)
    (live : connection.live = true) (sent : self.calls[call]? = some ⟨association, packet⟩)
    (missing : connection.contexts packet.destination = none) : next.Valid := by
  have old := valid.connection _ _ found
  have idle : self.ConnectionValid association { connection with progress := .idle } :=
    old.withProgress .idle trivial
  cases announced with
  | unencodable =>
    exact valid.setOnly found rfl (grown_of_eq rfl rfl) (Nat.le_succ _) (List.prefix_refl _) rfl rfl
      fun grows => idle.mono grows
  | broken =>
    exact valid.setOnly found rfl (grown_of_eq rfl rfl) (Nat.le_succ _) (List.prefix_refl _) rfl rfl
      fun grows => idle.mono grows
  | written address encoded =>
    refine valid.setOnly found rfl ⟨Or.inr ⟨packet.destination, rfl⟩, fun _ _ kept => kept⟩
      (Nat.le_succ _) (List.prefix_refl _) rfl rfl fun grows => ?_
    have moved := old.mono grows
    refine ⟨?_, ?_, ?_, fun _ _ known => List.mem_append_left _ (moved.context _ _ known),
      moved.stream, moved.kind, ⟨live, packet, sent, missing, by simp⟩⟩
    · simp [old.content, recordBytes, encoded]
    · exact List.forall_mem_append.mpr
        ⟨moved.drawn, List.forall_mem_singleton.mpr (Nat.lt_succ_self _)⟩
    · exact List.forall_mem_append.mpr
        ⟨moved.encodes, List.forall_mem_singleton.mpr ⟨address, encoded⟩⟩

/-- A call for a known destination emits a packet that no earlier call has emitted. -/
theorem resumed_valid (valid : self.Valid)
    (found : self.connections[association]? = some connection) (live : connection.live = true)
    (known : connection.contexts packet.destination = some context)
    (transmitted : Transmission { self with calls := self.calls ++ [⟨association, packet⟩] } association
      connection self.calls.length packet.data answer context next) : next.Valid := by
  have noted := valid.withCall ⟨association, packet⟩
  refine transmitted.valid noted found rfl (fun _ _ kept => kept)
    ((noted.connection _ _ found).withProgress .idle trivial) live (by simp) known ?_ ?_
  · rintro datagram member same
    obtain ⟨_, _, _, called, _⟩ := (valid.datagram _ member).owner
    exact absurd (List.getElem?_eq_some_iff.mp called).1 (by omega)
  · rintro number stream uni _ here earlier member
    obtain ⟨_, _, _, _, packets⟩ := (valid.uni _ _ here).owner
    exact (List.getElem?_eq_some_iff.mp (packets earlier member).2.2).1

theorem openUni_valid (valid : self.Valid)
    (found : self.connections[association]? = some connection)
    (pending : self.Pending association connection call number) :
    (self.openUni association connection call number).Valid := by
  obtain ⟨packet, called, missing, announced⟩ := pending.packet
  have grown : self.Grown connection
      { connection with progress := .header call number self.unis.length } := grown_of_eq rfl rfl
  have old := valid.connection _ _ found
  have kept : ∀ {index : Nat} {uni : UniStream}, self.unis[index]? = some uni →
      (self.openUni association connection call number).unis[index]? = some uni := by
    intro index uni here
    exact Table.kept (List.prefix_append _ _) here
  have grows : Extends self (self.openUni association connection call number) :=
    Extends.of_set found rfl grown le_rfl (List.prefix_refl _)
      fun ⟨uni, here, rest⟩ => ⟨uni, kept here, rest⟩
  have owned : (self.openUni association connection call number).OwnsUni association number
      self.unis.length :=
    ⟨⟨association, number, SendStream.fresh.writeAll (bigEndian 2 (wireId number).toNat), []⟩,
      by simp [openUni], rfl, rfl⟩
  refine valid.set found rfl grown grows ?_ (fun index uni here => ?_) (Or.inl rfl)
  · have moved := old.mono grows
    have ready := pending.mono grows
    exact moved.withProgress (.header call number self.unis.length)
      ⟨⟨ready.live, ready.packet⟩, owned⟩
  · rcases Table.of_concat here with old | ⟨rfl, rfl⟩
    · exact Or.inl old
    · refine Or.inr ⟨by simp [idBytes], List.Pairwise.nil, ?_⟩
      exact ⟨{ connection with progress := .header call number self.unis.length },
        packet.destination, Table.set_self found, announced, by simp⟩

/-- Moving bytes along a unidirectional stream, or failing to, keeps its content. -/
theorem setUni_valid {later : SendStream} (valid : self.Valid) (here : self.unis[stream]? = some uni)
    (same : later.content = uni.stream.content) :
    { self with unis := self.unis.set stream { uni with stream := later } }.Valid := by
  have written : { self with unis := self.unis.set stream { uni with stream := later } }.unis =
      self.unis.set stream { uni with stream := later } := rfl
  have grows : Extends self { self with unis := self.unis.set stream { uni with stream := later } } :=
    ⟨le_rfl, List.prefix_refl _, fun found => ⟨_, found, fun _ member => member, fun _ _ kept => kept⟩,
      ownsUni_set here written rfl rfl⟩
  have old := (valid.uni _ _ here).mono grows
  exact valid.step grows (fun _ _ => Or.inl)
    (uni_of_set here written ⟨same.trans old.content, old.ordered, old.owner⟩) (Or.inl rfl)
    valid.distinct

/-- A new packet connection has announced nothing yet. -/
theorem Numbered.associate (numbered : self.Numbered) (mode : UdpMode) :
    { self with connections := self.connections ++ [PacketConnection.fresh mode] }.Numbered := by
  have before : ∀ {index : Nat} {existing : PacketConnection} {record : Address × Nat},
      (self.connections ++ [PacketConnection.fresh mode])[index]? = some existing →
      record ∈ existing.records → self.connections[index]? = some existing := by
    intro index existing record here member
    rcases Table.of_concat here with old | ⟨_, rfl⟩
    · exact old
    · exact absurd member List.not_mem_nil
  constructor
  · intro association existing here record member
    exact numbered.drawn association existing (before here member) record member
  · intro first second existing existing' record record' here here' member member'
    exact numbered.distinct _ _ _ _ _ _ (before here member) (before here' member') member member'

theorem associate_valid (valid : self.Valid) (mode : UdpMode) :
    { self with connections := self.connections ++ [PacketConnection.fresh mode] }.Valid := by
  have grows : Extends self
      { self with connections := self.connections ++ [PacketConnection.fresh mode] } := by
    refine ⟨le_rfl, List.prefix_refl _, fun {index existing} here => ⟨existing, ?_,
      fun _ member => member, fun _ _ kept => kept⟩, id⟩
    exact Table.kept (List.prefix_append _ _) here
  refine valid.step grows (fun index existing here => ?_) (fun _ _ => Or.inl) (Or.inl rfl)
    (valid.numbered.associate mode).distinct
  rcases Table.of_concat here with old | ⟨_, rfl⟩
  · exact Or.inl old
  · exact Or.inr ⟨rfl, by simp [PacketConnection.fresh], by simp [PacketConnection.fresh],
      by simp [PacketConnection.fresh], by simp [PacketConnection.fresh],
      by simp [PacketConnection.fresh], trivial⟩

theorem initial_valid : initial.Valid :=
  ⟨by simp [initial], by simp [initial], by simp [initial], List.Pairwise.nil, by simp [initial, Distinct]⟩

end Sender

theorem sendStep_valid {self next : Sender} {action : SendAction} (valid : self.Valid)
    (stepped : sendStep self action = some next) : next.Valid := by
  -- a call that returns leaves its connection as it was
  have returned : ∀ {association call : Nat} {connection : PacketConnection} (result : Result Unit),
      self.connections[association]? = some connection →
      (self.finish association connection call result).Valid :=
    fun _ found => Sender.finish_valid valid found (Sender.grown_of_eq rfl rfl)
      ((valid.connection _ _ found).withProgress .idle trivial)
  -- a change of one connection that concerns neither its records nor its contexts
  have changed : ∀ {association : Nat} {connection later : PacketConnection},
      self.connections[association]? = some connection → later.records = connection.records →
      later.contexts = connection.contexts →
      (∀ state : Sender, state.ConnectionValid association connection →
        state.ConnectionValid association later) →
      (self.setConnection association later).Valid := by
    intro association connection later found records contexts moved
    exact valid.setOnly found rfl (Sender.grown_of_eq records contexts) le_rfl (List.prefix_refl _) rfl rfl
      fun grows => moved _ ((valid.connection _ _ found).mono grows)
  cases sendStep_rule stepped with
  | associated mode => exact Sender.associate_valid valid mode
  | announced association packet answer connection next found live idle missing announced =>
    exact announced.valid (valid.withCall _) found live (by simp) missing
  | resumed association packet answer connection context next found live idle known transmitted =>
    exact Sender.resumed_valid valid found live known transmitted
  | flushed association answer connection call number found stage drained mode =>
    refine changed found rfl rfl fun state old => ?_
    have pending := old.progress
    rw [stage] at pending
    exact old.withProgress (.opening call number) ⟨pending.live, pending.packet⟩
  | refused association text connection call number found => exact returned _ found
  | opened association connection call number found stage =>
    have pending := (valid.connection _ _ found).progress
    rw [stage] at pending
    exact Sender.openUni_valid valid found pending
  | entered association answer connection call sent context next found stage called transmitted =>
    have progress := (valid.connection _ _ found).progress
    rcases stage with ⟨control, _, mode, kind⟩ | ⟨stream, uni, header, _, _, kind⟩
    · rw [control] at progress
      obtain ⟨packet, same, _⟩ := progress.packet
      obtain rfl := Option.some.inj (called.symm.trans same)
      refine Sender.entered_valid context valid found progress called ?_ (fun _ _ => mode) transmitted
      rintro number stream rfl
      contradiction
    · rw [header] at progress
      obtain ⟨packet, same, _⟩ := progress.1.packet
      obtain rfl := Option.some.inj (called.symm.trans same)
      refine Sender.entered_valid context valid found progress.1 called ?_ ?_ transmitted
      · rintro number stream rfl
        cases kind
        exact progress.2
      · rintro number rfl
        contradiction
  | completed association answer connection call stream uni found => exact returned _ found
  | controlFlowed association count connection found =>
    refine changed found rfl rfl fun state old => ?_
    refine ⟨?_, old.drawn, old.encodes, old.context, old.stream, old.kind, ?_⟩
    · exact (connection.control.content_flow count).trans old.content
    · refine Sender.ProgressValid.congr connection ?_ ?_ ?_ old.progress <;> rfl
  | uniFlowed stream count uni here =>
    exact Sender.setUni_valid valid here (uni.stream.content_flow count)
  | controlFailed association text connection call number found =>
    have old := valid.connection _ _ found
    exact Sender.finish_valid valid found (Sender.grown_of_eq rfl rfl)
      ⟨old.content, old.drawn, old.encodes, old.context, old.stream, old.kind, trivial⟩
  | uniFailed association text connection call stream uni found stage here =>
    have broken : (self.failUni stream uni text).Valid :=
      Sender.setUni_valid valid here (uni.stream.content_fail text)
    exact Sender.finish_valid broken found (Sender.grown_of_eq rfl rfl)
      ((broken.connection _ _ found).withProgress .idle trivial)
  | closed association connection found idle =>
    refine changed found rfl rfl fun state old => ?_
    exact ⟨old.content, old.drawn, old.encodes, old.context, old.stream, old.kind,
      by rw [idle]; trivial⟩

theorem run_valid {sender : Sender} {actions : List SendAction}
    (execution : Transition.run sendStep Sender.initial actions = some sender) : sender.Valid :=
  Transition.run_invariant (P := Sender.Valid) sendStep_valid execution Sender.initial_valid

end SingQuic.ShadowQuic
