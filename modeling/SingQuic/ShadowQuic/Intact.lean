import SingQuic.ShadowQuic.Cancel

/-! The framing of the sending side. Between two records a control stream carries whole
records, and between two packets a unidirectional stream carries its id and whole
packets, those of all calls that have succeeded among them. Cancelled calls do no harm
as long as they leave no torn frame behind. -/
namespace SingQuic.ShadowQuic
open Wire

/-- A record that was meant for this control stream. -/
def PacketConnection.Legal (connection : PacketConnection) (frame : Bytes) : Prop :=
  ∃ record ∈ connection.records, (∃ address, encodeAddress record.1 = .ok address) ∧
    frame = recordBytes record

def LegalPacket (frame : Bytes) : Prop :=
  ∃ data : Bytes, data.length ≤ Sender.maxStreamPacket ∧ frame = encodePacket data

namespace Sender

/-- The packet of a call that succeeded, if it was sent to this destination. -/
def success (self : Sender) (association : Nat) (destination : Address) :
    Nat × Result Unit → Option (Nat × Bytes)
  | (call, .ok ()) => (self.calls[call]?).bind fun sent =>
      if sent.association = association ∧ sent.packet.destination = destination then
        some (call, sent.packet.data)
      else none
  | (_, .error _) => none

/-- The packets sent to a destination by the calls that succeeded, in the order in which
these returned. A call holds the lock until then, so that is the order of the calls. -/
def succeeded (self : Sender) (association : Nat) (destination : Address) : List (Nat × Bytes) :=
  self.results.filterMap (self.success association destination)

/-- The whole records on a control stream. All contexts were announced among them. -/
structure ControlIntact (sender : Sender) (connection : PacketConnection)
    (records : List (Address × Nat)) : Prop where
  known : records ⊆ connection.records
  encodes : ∀ record ∈ records, ∃ address, encodeAddress record.1 = .ok address
  entered : ∀ destination context, connection.contexts destination = some context →
    (destination, context.number) ∈ records
  announced : ∀ call number sent, (connection.progress = .opening call number ∨
      ∃ stream, connection.progress = .header call number stream) →
    sender.calls[call]? = some sent → (sent.packet.destination, number) ∈ records
  writing : ∀ record, sender.currentRecord connection.progress = some record →
    record ∈ connection.records ∧ ∃ address, encodeAddress record.1 = .ok address
  carrying : connection.control.Carrying connection.Legal (records.flatMap recordBytes)
    ((sender.currentRecord connection.progress).map recordBytes)

/-- A call for a destination that is not in the map yet. -/
def Unentered (sender : Sender) (association : Nat) (connection : PacketConnection) (call : Nat) :
    Prop :=
  ∃ packet, sender.calls[call]? = some ⟨association, packet⟩ ∧
    connection.contexts packet.destination = none

def StageIntact (sender : Sender) (association : Nat) (connection : PacketConnection) : Progress → Prop
  | .idle => True
  | .control call _ | .opening call _ => sender.Unentered association connection call
  | .header call number stream => sender.Unentered association connection call ∧
    (∃ uni, sender.unis[stream]? = some uni ∧ uni.association = association ∧
      uni.stream.Carrying (· = idBytes number) [] (some (idBytes number))) ∧
    ∀ destination other, connection.contexts destination ≠ some (.stream other stream)
  | .payload call stream => ∃ packet number, sender.calls[call]? = some ⟨association, packet⟩ ∧
    connection.contexts packet.destination = some (.stream number stream)

/-- The whole packets on the stream of a context. They are those of the calls that
succeeded, and if not `strict`, perhaps of cancelled ones. -/
def UniIntact (sender : Sender) (strict : Prop) (association : Nat) (progress : Progress)
    (destination : Address) (number stream : Nat) : Prop :=
  ∃ uni done, sender.unis[stream]? = some uni ∧ uni.association = association ∧
    (∀ packet ∈ done, packet.2.length ≤ maxStreamPacket) ∧
    (sender.succeeded association destination).Sublist done ∧
    (strict → done = sender.succeeded association destination) ∧
    uni.stream.Carrying LegalPacket (idBytes number ++ done.flatMap (encodePacket ·.2))
      ((sender.currentPacket stream progress).map (encodePacket ·.2))

structure ConnectionIntact (sender : Sender) (strict : Prop) (association : Nat)
    (connection : PacketConnection) : Prop where
  control : ∃ records, sender.ControlIntact connection records
  stage : sender.StageIntact association connection connection.progress
  unentered : ∀ destination, connection.contexts destination = none →
    sender.succeeded association destination = []
  streams : ∀ destination number stream, connection.contexts destination = some (.stream number stream) →
    sender.UniIntact strict association connection.progress destination number stream
  alone : ∀ destination other number number' stream,
    connection.contexts destination = some (.stream number stream) →
    connection.contexts other = some (.stream number' stream) → destination = other
  datagrams : ∀ destination number, connection.contexts destination = some (.datagram number) →
    ∀ packet ∈ sender.succeeded association destination, ∃ datagram ∈ sender.datagrams,
      datagram.call = packet.1 ∧ datagram.frame = idBytes number ++ packet.2
  ordered : ∀ destination, (sender.succeeded association destination).Pairwise (·.1 < ·.1)
  recent : ∀ call, connection.progress.call = some call → ∀ destination,
    ∀ packet ∈ sender.succeeded association destination, packet.1 < call

structure Intact (sender : Sender) (strict : Prop) : Prop where
  connection : ∀ association connection, sender.connections[association]? = some connection →
    sender.ConnectionIntact strict association connection
  answered : ∀ entry ∈ sender.results, entry.1 < sender.calls.length
  placed : ∀ sent ∈ sender.calls, sent.association < sender.connections.length

/-- What a step on one packet connection leaves to all others. -/
structure Spares (association : Nat) (sender next : Sender) : Prop where
  calls : sender.calls <+: next.calls
  datagrams : sender.datagrams ⊆ next.datagrams
  unis : ∀ {stream : Nat} {uni : UniStream}, sender.unis[stream]? = some uni →
    uni.association ≠ association → next.unis[stream]? = some uni
  succeeded : ∀ {other : Nat} (destination : Address), other ≠ association →
    next.succeeded other destination = sender.succeeded other destination

section Succeeded
variable {self next : Sender} {association call : Nat} {destination : Address}

theorem succeeded_congr (results : next.results = self.results) (calls : next.calls = self.calls) :
    next.succeeded association destination = self.succeeded association destination := by
  unfold succeeded
  rw [results]
  congr 1
  funext entry
  unfold success
  rw [calls]

/-- Further calls do not change what has succeeded. -/
theorem succeeded_calls (answered : ∀ entry ∈ self.results, entry.1 < self.calls.length)
    (more : List SendCall) : { self with calls := self.calls ++ more }.succeeded association destination =
      self.succeeded association destination := by
  refine List.filterMap_congr fun entry member => ?_
  obtain ⟨call, result⟩ := entry
  cases result with
  | error => rfl
  | ok value =>
    simp only [success]
    rw [List.getElem?_append_left (answered _ member)]

/-- A call that ends adds to what has succeeded what its own result counts for. -/
theorem succeeded_appended {entry : Nat × Result Unit} (results : next.results = self.results ++ [entry])
    (calls : next.calls = self.calls) :
    next.succeeded association destination = self.succeeded association destination ++
      (next.success association destination entry).toList := by
  have without : { next with results := self.results }.succeeded association destination =
      self.succeeded association destination := succeeded_congr rfl calls
  rw [← without]
  unfold succeeded
  rw [results, List.filterMap_append]
  rfl

theorem succeeded_error (error : Error) (results : next.results = self.results ++ [(call, .error error)])
    (calls : next.calls = self.calls) :
    next.succeeded association destination = self.succeeded association destination := by
  rw [succeeded_appended results calls]
  exact List.append_nil _

/-- A call that succeeds adds its packet where it belongs. -/
theorem succeeded_ok {sent : SendCall} (results : next.results = self.results ++ [(call, .ok ())])
    (calls : next.calls = self.calls) (called : self.calls[call]? = some sent) :
    next.succeeded association destination = self.succeeded association destination ++
      if sent.association = association ∧ sent.packet.destination = destination then
        [(call, sent.packet.data)] else [] := by
  have last : next.success association destination (call, .ok ()) =
      if sent.association = association ∧ sent.packet.destination = destination then
        some (call, sent.packet.data) else none := by
    rw [success, calls, called, Option.bind_some]
  rw [succeeded_appended results calls, last]
  split
  · rfl
  · rfl

end Succeeded

section Spared
variable {self next : Sender} {strict strict' : Prop} {association other call : Nat}
  {connection : PacketConnection} {progress : Progress} {records : List (Address × Nat)}

/-- A step that begins no call, ends none and moves no stream. -/
theorem Spares.same (calls : next.calls = self.calls) (results : next.results = self.results)
    (datagrams : next.datagrams = self.datagrams) (unis : next.unis = self.unis) :
    Spares association self next where
  calls := by rw [calls]
  datagrams := by
    rw [datagrams]
    exact List.Subset.refl _
  unis here _ := by
    rw [unis]
    exact here
  succeeded _ _ := succeeded_congr results calls

theorem StageIntact.currentRecord (stage : self.StageIntact association connection progress)
    (calls : self.calls <+: next.calls) : next.currentRecord progress = self.currentRecord progress := by
  cases progress with
  | control call number =>
    obtain ⟨packet, found, _⟩ := stage
    simp only [Sender.currentRecord, found, Table.kept calls found]
  | _ => rfl

theorem StageIntact.currentPacket (stage : self.StageIntact association connection progress)
    (calls : self.calls <+: next.calls) (stream : Nat) :
    next.currentPacket stream progress = self.currentPacket stream progress := by
  cases progress with
  | payload call target =>
    obtain ⟨packet, number, found, _⟩ := stage
    simp only [Sender.currentPacket, found, Table.kept calls found]
  | _ => rfl

theorem Unentered.mono (calls : self.calls <+: next.calls)
    (waits : self.Unentered association connection call) : next.Unentered association connection call := by
  obtain ⟨packet, found, missing⟩ := waits
  exact ⟨packet, Table.kept calls found, missing⟩

theorem ControlIntact.mono (intact : self.ControlIntact connection records)
    (stage : self.StageIntact association connection connection.progress)
    (calls : self.calls <+: next.calls) : next.ControlIntact connection records where
  known := intact.known
  encodes := intact.encodes
  entered := intact.entered
  announced call number sent reached found := by
    have waits : self.Unentered association connection call := by
      rcases reached with opening | ⟨stream, header⟩
      · rwa [opening] at stage
      · rw [header] at stage
        exact stage.1
    obtain ⟨packet, before, _⟩ := waits
    cases Option.some.inj ((Table.kept calls before).symm.trans found)
    exact intact.announced call number _ reached before
  writing := stage.currentRecord calls ▸ intact.writing
  carrying := stage.currentRecord calls ▸ intact.carrying

theorem StageIntact.spare (spares : Spares association self next) (different : other ≠ association)
    (stage : self.StageIntact other connection progress) :
    next.StageIntact other connection progress := by
  cases progress with
  | idle => trivial
  | control call number => exact Unentered.mono spares.calls stage
  | opening call number => exact Unentered.mono spares.calls stage
  | header call number stream =>
    obtain ⟨waits, ⟨uni, here, owner, carrying⟩, unused⟩ := stage
    exact ⟨waits.mono spares.calls, ⟨uni, spares.unis here (owner ▸ different), owner, carrying⟩, unused⟩
  | payload call stream =>
    obtain ⟨packet, number, found, known⟩ := stage
    exact ⟨packet, number, Table.kept spares.calls found, known⟩

theorem ConnectionIntact.spare (spares : Spares association self next) (different : other ≠ association)
    (weaker : strict' → strict) (intact : self.ConnectionIntact strict other connection) :
    next.ConnectionIntact strict' other connection where
  control := by
    obtain ⟨records, control⟩ := intact.control
    exact ⟨records, control.mono intact.stage spares.calls⟩
  stage := intact.stage.spare spares different
  unentered destination missing :=
    (spares.succeeded destination different).trans (intact.unentered destination missing)
  streams destination number stream known := by
    obtain ⟨uni, done, here, owner, small, sublist, exact', carrying⟩ :=
      intact.streams destination number stream known
    refine ⟨uni, done, spares.unis here (owner ▸ different), owner, small, ?_, ?_, ?_⟩
    · rw [spares.succeeded destination different]
      exact sublist
    · rw [spares.succeeded destination different]
      exact fun holds => exact' (weaker holds)
    · rw [intact.stage.currentPacket spares.calls]
      exact carrying
  alone := intact.alone
  datagrams destination number known packet member := by
    rw [spares.succeeded destination different] at member
    obtain ⟨datagram, sent, rest⟩ := intact.datagrams destination number known packet member
    exact ⟨datagram, spares.datagrams sent, rest⟩
  ordered destination := by
    rw [spares.succeeded destination different]
    exact intact.ordered destination
  recent call running destination := by
    rw [spares.succeeded destination different]
    exact intact.recent call running destination

/-- The step lemma: only the packet connection that moved has to be looked at. -/
theorem Intact.step (intact : self.Intact strict) (spares : Spares association self next)
    (weaker : strict' → strict)
    (connections : ∀ (other : Nat) (connection : PacketConnection),
      next.connections[other]? = some connection →
      other ≠ association ∧ self.connections[other]? = some connection ∨
        next.ConnectionIntact strict' other connection)
    (answered : ∀ entry ∈ next.results, entry.1 < next.calls.length)
    (placed : ∀ sent ∈ next.calls, sent.association < next.connections.length) :
    next.Intact strict' where
  connection other connection found :=
    (connections other connection found).elim
      (fun old => (intact.connection other connection old.2).spare spares old.1 weaker) id
  answered := answered
  placed := placed

/-- A step that sets one packet connection. -/
theorem Intact.set {later : PacketConnection} (intact : self.Intact strict)
    (spares : Spares association self next) (weaker : strict' → strict)
    (connections : next.connections = self.connections.set association later)
    (after : next.ConnectionIntact strict' association later)
    (answered : ∀ entry ∈ next.results, entry.1 < next.calls.length)
    (placed : ∀ sent ∈ next.calls, sent.association < self.connections.length) :
    next.Intact strict' := by
  refine intact.step spares weaker (fun other existing found => ?_) answered ?_
  · rw [connections] at found
    rcases Table.of_set found with ⟨rfl, rfl⟩ | unchanged
    · exact Or.inr after
    · exact Or.inl unchanged
  · rw [connections, List.length_set]
    exact placed

end Spared

section Own
variable {self next : Sender} {strict strict' : Prop} {association call number stream : Nat}
  {connection later : PacketConnection} {records : List (Address × Nat)} {destination : Address}
  {progress progress' : Progress}

theorem UniIntact.congr (intact : self.UniIntact strict association progress destination number stream)
    (weaker : strict' → strict) (unis : next.unis[stream]? = self.unis[stream]?)
    (succeeded : next.succeeded association destination = self.succeeded association destination)
    (current : next.currentPacket stream progress' = self.currentPacket stream progress) :
    next.UniIntact strict' association progress' destination number stream := by
  obtain ⟨uni, done, here, owner, small, sublist, exact', carrying⟩ := intact
  refine ⟨uni, done, unis.trans here, owner, small, ?_, ?_, ?_⟩
  · rw [succeeded]
    exact sublist
  · rw [succeeded]
    exact fun holds => exact' (weaker holds)
  · rw [current]
    exact carrying

/-- A packet connection moves on with the contexts it has, and no call succeeds. -/
theorem ConnectionIntact.move (intact : self.ConnectionIntact strict association connection)
    (contexts : later.contexts = connection.contexts) (datagrams : self.datagrams ⊆ next.datagrams)
    (same : ∀ destination, next.succeeded association destination = self.succeeded association destination)
    (streams : ∀ destination number stream,
      connection.contexts destination = some (.stream number stream) →
      next.UniIntact strict' association later.progress destination number stream)
    (control : ∃ records, next.ControlIntact later records)
    (stage : next.StageIntact association later later.progress)
    (running : ∀ call, later.progress.call = some call → connection.progress.call = some call ∨
      ∀ destination, ∀ packet ∈ self.succeeded association destination, packet.1 < call) :
    next.ConnectionIntact strict' association later where
  control := control
  stage := stage
  unentered destination missing := by
    rw [contexts] at missing
    rw [same]
    exact intact.unentered destination missing
  streams destination number stream known := streams destination number stream (contexts ▸ known)
  alone := contexts ▸ intact.alone
  datagrams destination number known packet member := by
    rw [contexts] at known
    rw [same] at member
    obtain ⟨datagram, sent, rest⟩ := intact.datagrams destination number known packet member
    exact ⟨datagram, datagrams sent, rest⟩
  ordered destination := by
    rw [same]
    exact intact.ordered destination
  recent call begun destination := by
    rw [same]
    rcases running call begun with before | fresh
    · exact intact.recent call before destination
    · exact fresh destination

/-- Nothing is written to the control stream, before or after. -/
theorem ControlIntact.congr (intact : self.ControlIntact connection records)
    (control : later.control = connection.control) (kept : later.records = connection.records)
    (contexts : later.contexts = connection.contexts)
    (current : next.currentRecord later.progress = self.currentRecord connection.progress)
    (announced : ∀ call number sent, (later.progress = .opening call number ∨
        ∃ stream, later.progress = .header call number stream) →
      next.calls[call]? = some sent → (sent.packet.destination, number) ∈ records) :
    next.ControlIntact later records where
  known := kept ▸ intact.known
  encodes := intact.encodes
  entered := contexts ▸ intact.entered
  announced := announced
  writing := by
    rw [current, kept]
    exact intact.writing
  carrying := by
    have legal : later.Legal = connection.Legal := by
      unfold PacketConnection.Legal
      rw [kept]
    rw [control, current, legal]
    exact intact.carrying

/-- The call under way is over, or has not begun. -/
theorem ConnectionIntact.rest (intact : self.ConnectionIntact strict association connection)
    (weaker : strict' → strict) (contexts : later.contexts = connection.contexts)
    (control : later.control = connection.control) (kept : later.records = connection.records)
    (idle : later.progress = .idle)
    (datagrams : self.datagrams ⊆ next.datagrams) (unis : next.unis = self.unis)
    (succeeded : ∀ destination,
      next.succeeded association destination = self.succeeded association destination)
    (unrecorded : self.currentRecord connection.progress = none)
    (unpacked : ∀ stream, self.currentPacket stream connection.progress = none) :
    next.ConnectionIntact strict' association later := by
  obtain ⟨records, whole⟩ := intact.control
  refine intact.move contexts datagrams succeeded (fun destination number stream known => ?_)
    ⟨records, ?_⟩ (idle ▸ trivial) (fun call begun => ?_)
  · refine (intact.streams destination number stream known).congr weaker (by rw [unis])
      (succeeded destination) ?_
    rw [idle, unpacked]
    rfl
  · refine whole.congr control kept contexts ?_ ?_
    · rw [idle, unrecorded]
      rfl
    · rintro call number sent (opening | ⟨stream, header⟩)
      · rw [idle] at opening
        contradiction
      · rw [idle] at header
        contradiction
  · rw [idle] at begun
    contradiction

end Own

section Transmit
variable {self next : Sender} {strict : Prop} {association call : Nat} {connection : PacketConnection}
  {packet : ShadowQuicPacket} {answer : Except String Unit} {context : OutgoingUdpContext}

theorem spares_finish_error (self : Sender) (association : Nat) (connection : PacketConnection) (call : Nat)
    (error : Error) : Spares association self (self.finish association connection call (.error error)) :=
  ⟨List.prefix_refl _, List.Subset.refl _, fun here _ => here, fun _ _ => succeeded_error error rfl rfl⟩

theorem spares_success {sent : SendCall} (results : next.results = self.results ++ [(call, .ok ())])
    (calls : next.calls = self.calls) (called : self.calls[call]? = some sent)
    (owner : sent.association = association) (datagrams : self.datagrams ⊆ next.datagrams)
    (unis : next.unis = self.unis) : Spares association self next := by
  refine ⟨by rw [calls], datagrams, fun here _ => unis ▸ here, fun {other} destination different => ?_⟩
  rw [succeeded_ok results calls called, if_neg, List.append_nil]
  rintro ⟨same, _⟩
  exact different (same.symm.trans owner)

/-- What a call that succeeds changes for the destinations of its packet connection. -/
theorem succeeded_own (results : next.results = self.results ++ [(call, .ok ())])
    (calls : next.calls = self.calls) (called : self.calls[call]? = some ⟨association, packet⟩) :
    next.succeeded association packet.destination =
        self.succeeded association packet.destination ++ [(call, packet.data)] ∧
      ∀ destination, destination ≠ packet.destination →
        next.succeeded association destination = self.succeeded association destination := by
  constructor
  · rw [succeeded_ok results calls called, if_pos ⟨rfl, rfl⟩]
  · intro destination different
    rw [succeeded_ok results calls called, if_neg, List.append_nil]
    exact fun same => different same.2.symm

/-- The packets of the calls that succeeded stay in the order of the calls. -/
theorem ordered_success (results : next.results = self.results ++ [(call, .ok ())])
    (calls : next.calls = self.calls) (called : self.calls[call]? = some ⟨association, packet⟩)
    (ordered : ∀ destination, (self.succeeded association destination).Pairwise (·.1 < ·.1))
    (recent : ∀ destination, ∀ earlier ∈ self.succeeded association destination, earlier.1 < call)
    (destination : Address) : (next.succeeded association destination).Pairwise (·.1 < ·.1) := by
  obtain ⟨here, elsewhere⟩ := succeeded_own results calls called
  by_cases same : destination = packet.destination
  · subst same
    rw [here]
    exact Table.pairwise_concat (ordered _) (recent _)
  · rw [elsewhere destination same]
    exact ordered destination

/-- A datagram is sent and its call returns. -/
theorem sent_intact {number : Nat}
    (base : self.ConnectionIntact strict association { connection with progress := .idle })
    (called : self.calls[call]? = some ⟨association, packet⟩)
    (recent : ∀ destination, ∀ earlier ∈ self.succeeded association destination, earlier.1 < call)
    (known : connection.contexts packet.destination = some (.datagram number)) :
    ((self.sendDatagram association call number packet.data).finish association connection call
      (.ok ())).ConnectionIntact strict association { connection with progress := .idle } := by
  have results : ((self.sendDatagram association call number packet.data).finish association connection
      call (.ok ())).results = self.results ++ [(call, .ok ())] := rfl
  obtain ⟨here, elsewhere⟩ := succeeded_own results rfl called
  have other : ∀ {destination : Address}, connection.contexts destination ≠ some (.datagram number) →
      destination ≠ packet.destination := by
    rintro _ different rfl
    exact different known
  obtain ⟨records, whole⟩ := base.control
  constructor
  · exact ⟨records, whole.congr rfl rfl rfl rfl (by simp)⟩
  · trivial
  · intro destination missing
    rw [elsewhere destination (other (by rw [missing]; simp))]
    exact base.unentered destination missing
  · intro destination number' stream entered
    refine (base.streams destination number' stream entered).congr id rfl ?_ rfl
    exact elsewhere destination (other (by rw [show connection.contexts destination = _ from entered]; simp))
  · exact base.alone
  · intro destination number' entered earlier member
    by_cases same : destination = packet.destination
    · subst same
      cases Option.some.inj (known.symm.trans entered)
      rw [here] at member
      rcases List.mem_append.mp member with old | last
      · obtain ⟨datagram, sent, rest⟩ := base.datagrams _ number known earlier old
        exact ⟨datagram, List.mem_append_left _ sent, rest⟩
      · rw [List.mem_singleton.mp last]
        exact ⟨_, List.mem_append_right _ (List.mem_singleton_self _), rfl, rfl⟩
    · rw [elsewhere destination same] at member
      obtain ⟨datagram, sent, rest⟩ := base.datagrams destination number' entered earlier member
      exact ⟨datagram, List.mem_append_left _ sent, rest⟩
  · exact ordered_success rfl rfl called base.ordered recent
  · intro call begun
    contradiction

/-- The stream of a packet connection on which a packet or its end is written. -/
theorem ConnectionIntact.touch {later : PacketConnection} {destination : Address} {number stream : Nat}
    {strict' : Prop} (intact : self.ConnectionIntact strict association connection)
    (weaker : strict' → strict) (known : connection.contexts destination = some (.stream number stream))
    (contexts : later.contexts = connection.contexts) (datagrams : self.datagrams ⊆ next.datagrams)
    (unis : ∀ other, other ≠ stream → next.unis[other]? = self.unis[other]?)
    (succeeded : ∀ other, other ≠ destination →
      next.succeeded association other = self.succeeded association other)
    (current : ∀ other, other ≠ stream →
      next.currentPacket other later.progress = self.currentPacket other connection.progress)
    (after : next.UniIntact strict' association later.progress destination number stream)
    (control : ∃ records, next.ControlIntact later records)
    (stage : next.StageIntact association later later.progress)
    (ordered : ∀ destination, (next.succeeded association destination).Pairwise (·.1 < ·.1))
    (recent : ∀ call, later.progress.call = some call → ∀ destination,
      ∀ packet ∈ next.succeeded association destination, packet.1 < call) :
    next.ConnectionIntact strict' association later := by
  have elsewhere : ∀ {other : Address}, connection.contexts other ≠ some (.stream number stream) →
      next.succeeded association other = self.succeeded association other := by
    intro other different
    refine succeeded other ?_
    rintro rfl
    exact different known
  refine ⟨control, stage, ?_, ?_, contexts ▸ intact.alone, ?_, ordered, recent⟩
  · intro other missing
    rw [contexts] at missing
    rw [elsewhere (by simp [missing])]
    exact intact.unentered other missing
  · intro other number' stream' entered
    rw [contexts] at entered
    by_cases same : stream' = stream
    · subst stream'
      obtain rfl := intact.alone _ _ _ _ _ entered known
      cases Option.some.inj (known.symm.trans entered)
      exact after
    · refine (intact.streams other number' stream' entered).congr weaker (unis stream' same)
        (elsewhere ?_) (current stream' same)
      rw [entered]
      intro equal
      cases equal
      exact same rfl
  · intro other number' entered packet member
    rw [contexts] at entered
    rw [elsewhere (by simp [entered])] at member
    obtain ⟨datagram, sent, rest⟩ := intact.datagrams other number' entered packet member
    exact ⟨datagram, datagrams sent, rest⟩

theorem Transmission.intact
    (transmitted : Transmission self association connection call packet.data answer context next)
    (base : self.ConnectionIntact strict association { connection with progress := .idle })
    (called : self.calls[call]? = some ⟨association, packet⟩)
    (recent : ∀ destination, ∀ earlier ∈ self.succeeded association destination, earlier.1 < call)
    (known : connection.contexts packet.destination = some context) :
    Spares association self next ∧ next.calls = self.calls ∧
      (∀ entry ∈ next.results, entry ∈ self.results ∨ entry.1 = call) ∧
      ∃ later, next.connections = self.connections.set association later ∧
        next.ConnectionIntact strict association later := by
  have appended : ∀ {result : Result Unit}, ∀ entry ∈ self.results ++ [(call, result)],
      entry ∈ self.results ∨ entry.1 = call := by
    intro result entry member
    rcases List.mem_append.mp member with old | last
    · exact Or.inl old
    · exact Or.inr (by rw [List.mem_singleton.mp last])
  have failed : ∀ error : Error,
      Spares association self (self.finish association connection call (.error error)) ∧
      (self.finish association connection call (.error error)).ConnectionIntact strict association
        { connection with progress := .idle } := by
    intro error
    refine ⟨spares_finish_error _ _ _ _ _, ?_⟩
    exact base.rest id rfl rfl rfl rfl (List.Subset.refl _) rfl (fun _ => succeeded_error error rfl rfl)
      rfl fun _ => rfl
  cases transmitted with
  | rejected number text => exact ⟨(failed _).1, rfl, appended, _, rfl, (failed _).2⟩
  | sent number =>
    refine ⟨spares_success rfl rfl called rfl (List.subset_append_left _ _) rfl, rfl, appended, _, rfl, ?_⟩
    exact sent_intact base called recent known
  | oversized answer number stream large => exact ⟨(failed _).1, rfl, appended, _, rfl, (failed _).2⟩
  | broken answer number stream uni text here =>
    exact ⟨(failed _).1, rfl, appended, _, rfl, (failed _).2⟩
  | writing answer number stream uni small here healthy =>
    obtain ⟨_, done, there, owner, short, sublist, exact', carrying⟩ :=
      base.streams packet.destination number stream known
    cases Option.some.inj (here.symm.trans there)
    have inside : stream < self.unis.length := (List.getElem?_eq_some_iff.mp here).1
    have untouched : ∀ other, other ≠ stream →
        (self.writePacket association connection call stream uni packet.data).unis[other]? =
          self.unis[other]? := fun other different => List.getElem?_set_ne (Ne.symm different)
    have unchanged : ∀ {other destination},
        (self.writePacket association connection call stream uni packet.data).succeeded other destination =
          self.succeeded other destination := succeeded_congr rfl rfl
    refine ⟨⟨List.prefix_refl _, List.Subset.refl _, fun {other existing} found foreign => ?_,
      fun _ _ => unchanged⟩, rfl, fun _ => Or.inl, _, rfl, ?_⟩
    · rw [untouched other, found]
      rintro rfl
      cases Option.some.inj (here.symm.trans found)
      exact foreign owner
    · obtain ⟨records, whole⟩ := base.control
      refine base.touch id known rfl (List.Subset.refl _) untouched (fun _ _ => unchanged)
        (fun other different => ?_) ?_ ⟨records, whole.congr rfl rfl rfl rfl (by simp)⟩ ?_
        (fun destination => ?_) (fun running begun destination => ?_)
      · exact if_neg (Ne.symm different)
      · refine ⟨_, done, List.getElem?_set_self inside, owner, short, ?_, ?_, ?_⟩
        · rw [unchanged]
          exact sublist
        · rw [unchanged]
          exact exact'
        · have writes : (self.writePacket association connection call stream uni packet.data).currentPacket
              stream (.payload call stream) = some (call, packet.data) := currentPacket_payload called
          rw [writes]
          exact carrying.writeAll healthy ⟨packet.data, small, rfl⟩
      · exact ⟨packet, number, called, known⟩
      · rw [unchanged]
        exact base.ordered destination
      · cases Option.some.inj begun
        rw [unchanged]
        exact recent destination

end Transmit

end Sender
end SingQuic.ShadowQuic
