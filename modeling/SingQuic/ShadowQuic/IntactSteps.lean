import SingQuic.ShadowQuic.Intact

/-! Every step of the sending side keeps the framing, and so does a cancellation that
tears no frame. -/
namespace SingQuic.ShadowQuic
open Wire

namespace Sender
variable {self next : Sender} {strict strict' : Prop} {association call number stream : Nat}
  {connection : PacketConnection} {packet : ShadowQuicPacket} {records : List (Address × Nat)}

theorem encodePacket_injective : Function.Injective encodePacket := by
  intro first second same
  have lengths : (bigEndian 2 first.length).length = (bigEndian 2 second.length).length := by
    rw [length_bigEndian, length_bigEndian]
  exact (List.append_inj same lengths).2

/-- A step that leaves every packet connection and every stream as it is. -/
theorem Intact.extend (intact : self.Intact strict) (spares : ∀ association, Spares association self next)
    (connections : next.connections = self.connections)
    (answered : ∀ entry ∈ next.results, entry.1 < next.calls.length)
    (placed : ∀ sent ∈ next.calls, sent.association < next.connections.length) : next.Intact strict := by
  refine intact.step (spares self.connections.length) id (fun other connection found => ?_) answered placed
  rw [connections] at found
  exact Or.inl ⟨Nat.ne_of_lt (List.getElem?_eq_some_iff.mp found).1, found⟩

/-- A call begins, and may draw an id. -/
theorem Intact.begin (intact : self.Intact strict) (inside : association < self.connections.length)
    (allocated : Nat) :
    ({ self with calls := self.calls ++ [⟨association, packet⟩], allocated } : Sender).Intact strict := by
  refine intact.extend (fun _ => ⟨List.prefix_append _ _, List.Subset.refl _, fun here _ => here,
    fun _ _ => ?_⟩) rfl (fun entry member => ?_) (fun sent member => ?_)
  · exact (succeeded_congr rfl rfl).trans (succeeded_calls intact.answered [⟨association, packet⟩])
  · have earlier := intact.answered entry member
    rw [List.length_append]
    omega
  · revert sent
    exact List.forall_mem_append.mpr ⟨intact.placed, List.forall_mem_singleton.mpr inside⟩

theorem Intact.answered_concat (intact : self.Intact strict) (begun : call < self.calls.length)
    {result : Result Unit} : ∀ entry ∈ self.results ++ [(call, result)], entry.1 < self.calls.length :=
  List.forall_mem_append.mpr ⟨intact.answered, List.forall_mem_singleton.mpr begun⟩

/-- A call that begins now comes after all that have succeeded. -/
theorem Intact.recent (intact : self.Intact strict) (association : Nat) (destination : Address) :
    ∀ packet ∈ self.succeeded association destination, packet.1 < self.calls.length := by
  intro packet member
  obtain ⟨⟨call, result⟩, listed, same⟩ := List.mem_filterMap.mp member
  cases result with
  | error => contradiction
  | ok value =>
    obtain ⟨sent, called, rest⟩ := Option.bind_eq_some_iff.mp same
    split at rest
    · cases Option.some.inj rest
      exact intact.answered _ listed
    · contradiction

/-- A call returns an error, having written nothing. -/
theorem Intact.failCall (intact : self.Intact strict)
    (found : self.connections[association]? = some connection) (begun : call < self.calls.length)
    (unrecorded : self.currentRecord connection.progress = none)
    (unpacked : ∀ stream, self.currentPacket stream connection.progress = none) (error : Error) :
    (self.finish association connection call (.error error)).Intact strict := by
  have after : (self.finish association connection call (.error error)).ConnectionIntact strict association
      { connection with progress := .idle } :=
    (intact.connection association connection found).rest id rfl rfl rfl rfl (List.Subset.refl _) rfl
      (fun _ => succeeded_error error rfl rfl) unrecorded unpacked
  exact intact.set (spares_finish_error self association connection call error) id rfl after
    (intact.answered_concat begun) intact.placed

theorem Transmission.keeps {answer : Except String Unit} {context : OutgoingUdpContext}
    (transmitted : Transmission self association connection call packet.data answer context next)
    (intact : self.Intact strict)
    (base : self.ConnectionIntact strict association { connection with progress := .idle })
    (called : self.calls[call]? = some ⟨association, packet⟩)
    (recent : ∀ destination, ∀ earlier ∈ self.succeeded association destination, earlier.1 < call)
    (known : connection.contexts packet.destination = some context) : next.Intact strict := by
  obtain ⟨spares, calls, results, later, connections, after⟩ :=
    transmitted.intact base called recent known
  refine intact.set spares id connections after (fun entry member => ?_) (calls ▸ intact.placed)
  rw [calls]
  rcases results entry member with old | same
  · exact intact.answered entry old
  · rw [same]
    exact (List.getElem?_eq_some_iff.mp called).1

theorem Announcement.keeps {destination : Address}
    (announced : Announcement self association connection call destination next) (intact : self.Intact strict)
    (advanced : { self with allocated := self.allocated + 1 }.Intact strict)
    (found : self.connections[association]? = some connection) (idle : connection.progress = .idle)
    (called : self.calls[call]? = some ⟨association, packet⟩) (same : packet.destination = destination)
    (missing : connection.contexts packet.destination = none)
    (recent : ∀ destination, ∀ earlier ∈ self.succeeded association destination, earlier.1 < call) :
    next.Intact strict := by
  have begun : call < self.calls.length := (List.getElem?_eq_some_iff.mp called).1
  have quiet : ∀ sender : Sender, sender.currentRecord connection.progress = none ∧
      ∀ stream, sender.currentPacket stream connection.progress = none := by
    intro sender
    rw [idle]
    exact ⟨rfl, fun _ => rfl⟩
  cases announced with
  | unencodable error => exact advanced.failCall found begun (quiet _).1 (quiet _).2 error
  | broken address text => exact advanced.failCall found begun (quiet _).1 (quiet _).2 _
  | written address encoded healthy =>
    have old := intact.connection association connection found
    obtain ⟨records, whole⟩ := old.control
    have carried := whole.carrying
    rw [(quiet self).1] at carried
    subst same
    let later : PacketConnection := { connection with
      control := connection.control.writeAll (encodeRecord address (wireId self.allocated))
      records := connection.records ++ [(packet.destination, self.allocated)]
      progress := .control call self.allocated }
    let after : Sender := { self with allocated := self.allocated + 1 }.setConnection association later
    have current : after.currentRecord (.control call self.allocated) =
        some (packet.destination, self.allocated) := currentRecord_control called
    have bytes : recordBytes (packet.destination, self.allocated) =
        encodeRecord address (wireId self.allocated) := by
      rw [recordBytes, encoded]
    have legal : later.Legal (encodeRecord address (wireId self.allocated)) :=
      ⟨_, List.mem_append_right _ (List.mem_singleton_self _), ⟨address, encoded⟩, bytes.symm⟩
    have control : after.ControlIntact later records := by
      refine ⟨fun record member => List.mem_append_left _ (whole.known member), whole.encodes,
        whole.entered, by simp [later], ?_, ?_⟩
      · intro record writing
        cases Option.some.inj (current.symm.trans writing)
        exact ⟨List.mem_append_right _ (List.mem_singleton_self _), address, encoded⟩
      · show (connection.control.writeAll _).Carrying _ _ (Option.map _ (after.currentRecord _))
        rw [current, Option.map_some, bytes]
        refine (carried.mono fun frame fine => ?_).writeAll healthy legal
        obtain ⟨record, member, rest⟩ := fine
        exact ⟨record, List.mem_append_left _ member, rest⟩
    refine intact.set (.same rfl rfl rfl rfl) id rfl (old.move rfl (List.Subset.refl _)
      (fun _ => succeeded_congr rfl rfl) (fun destination number stream entered => ?_)
      ⟨records, control⟩ ⟨packet, called, missing⟩ fun running begun => Or.inr ?_)
      intact.answered intact.placed
    · refine (old.streams destination number stream entered).congr id rfl (succeeded_congr rfl rfl) ?_
      rw [(quiet self).2]
      rfl
    · cases Option.some.inj begun
      exact recent

/-- The record under way has been written. -/
theorem ControlIntact.complete (whole : self.ControlIntact connection records)
    (stage : connection.progress = .control call number)
    (called : self.calls[call]? = some ⟨association, packet⟩) (drained : connection.control.pending = [])
    {progress : Progress} (next' : progress = .idle ∨ progress = .opening call number) :
    self.ControlIntact { connection with progress } (records ++ [(packet.destination, number)]) := by
  have current : self.currentRecord connection.progress = some (packet.destination, number) := by
    rw [stage]
    exact currentRecord_control called
  obtain ⟨member, encodable⟩ := whole.writing _ current
  have silent : self.currentRecord progress = none := by
    rcases next' with rfl | rfl <;> rfl
  refine ⟨?_, ?_, fun destination context entered =>
    List.mem_append_left _ (whole.entered destination context entered), ?_, ?_, ?_⟩
  · exact List.append_subset.mpr ⟨whole.known, List.cons_subset.mpr ⟨member, List.nil_subset _⟩⟩
  · exact List.forall_mem_append.mpr ⟨whole.encodes, List.forall_mem_singleton.mpr encodable⟩
  · intro call' number' sent reached found
    have same : progress = .opening call' number' := by
      rcases reached with opening | ⟨stream, header⟩
      · exact opening
      · rcases next' with rfl | rfl <;> contradiction
    rcases next' with rfl | rfl
    · contradiction
    · cases same
      cases Option.some.inj (called.symm.trans found)
      exact List.mem_append_right _ (List.mem_singleton_self _)
  · simp [silent]
  · have carried := whole.carrying
    rw [current, Option.map_some] at carried
    rw [silent, List.flatMap_append, List.flatMap_singleton]
    exact carried.complete drained

theorem flushed_intact (intact : self.Intact strict)
    (found : self.connections[association]? = some connection)
    (stage : connection.progress = .control call number) (drained : connection.control.pending = []) :
    (self.setConnection association { connection with progress := .opening call number }).Intact strict := by
  have old := intact.connection association connection found
  have waits := old.stage
  rw [stage] at waits
  obtain ⟨packet, called, missing⟩ := waits
  obtain ⟨records, whole⟩ := old.control
  have waits' : self.StageIntact association { connection with progress := .opening call number }
    (.opening call number) := ⟨packet, called, missing⟩
  have control : ControlIntact (self.setConnection association
      { connection with progress := .opening call number }) _ _ :=
    (whole.complete stage called drained (Or.inr rfl)).mono waits' (List.prefix_refl _)
  refine intact.set (.same rfl rfl rfl rfl) id rfl (old.move rfl (List.Subset.refl _) (fun _ => succeeded_congr rfl rfl) ?_ ⟨_, control⟩ waits'
      fun _ begun => Or.inl (by rw [stage]; exact begun)) intact.answered intact.placed
  intro destination number' stream entered
  refine (old.streams destination number' stream entered).congr id rfl (succeeded_congr rfl rfl) ?_
  rw [stage]
  rfl

theorem opened_intact (intact : self.Intact strict)
    (found : self.connections[association]? = some connection)
    (stage : connection.progress = .opening call number) :
    (self.openUni association connection call number).Intact strict := by
  have old := intact.connection association connection found
  have waits := old.stage
  rw [stage] at waits
  obtain ⟨records, whole⟩ := old.control
  have kept : ∀ {index : Nat} {uni : UniStream}, self.unis[index]? = some uni →
      (self.openUni association connection call number).unis[index]? = some uni := by
    intro index uni here
    exact Table.kept (List.prefix_append _ _) here
  refine intact.set ⟨List.prefix_refl _, List.Subset.refl _, fun here _ => kept here,
    fun _ _ => succeeded_congr rfl rfl⟩ id rfl (old.move rfl (List.Subset.refl _)
    (fun _ => succeeded_congr rfl rfl) ?_ ⟨records, ?_⟩ ?_
    fun _ begun => Or.inl (by rw [stage]; exact begun)) intact.answered intact.placed
  · intro destination number' stream entered
    have uni := old.streams destination number' stream entered
    refine uni.congr id ?_ (succeeded_congr rfl rfl) (by rw [stage]; rfl)
    obtain ⟨_, _, here, _⟩ := uni
    rw [here, kept here]
  · refine whole.congr rfl rfl rfl (by rw [stage]; rfl) ?_
    rintro call' number' sent (opening | ⟨stream, header⟩) called
    · contradiction
    · cases header
      exact whole.announced call number sent (Or.inl stage) called
  · refine ⟨waits, ⟨⟨association, number, SendStream.fresh.writeAll (idBytes number), []⟩,
      by simp [openUni, idBytes], rfl, ?_⟩, ?_⟩
    · exact (SendStream.Carrying.resting rfl rfl rfl).writeAll rfl rfl
    · intro destination other entered
      obtain ⟨_, _, here, _⟩ := old.streams destination other _ entered
      exact absurd (List.getElem?_eq_some_iff.mp here).1 (Nat.lt_irrefl _)

/-- A context is entered for a destination that had none; no packet has gone to it. -/
theorem ConnectionIntact.enter (intact : self.ConnectionIntact strict association connection)
    (context : OutgoingUdpContext) (missing : connection.contexts packet.destination = none)
    (whole : self.ControlIntact { connection with progress := .idle } records)
    (announced : (packet.destination, context.number) ∈ records)
    (unpacked : ∀ stream, self.currentPacket stream connection.progress = none)
    (fresh : ∀ number stream, context = .stream number stream →
      (∃ uni, self.unis[stream]? = some uni ∧ uni.association = association ∧
        uni.stream.Carrying LegalPacket (idBytes number) none) ∧
      ∀ destination other, connection.contexts destination ≠ some (.stream other stream)) :
    self.ConnectionIntact strict association { connection with
      contexts := Function.update connection.contexts packet.destination (some context)
      progress := .idle } := by
  have none' := intact.unentered packet.destination missing
  refine ⟨⟨records, ⟨whole.known, whole.encodes, ?_, whole.announced, whole.writing, whole.carrying⟩⟩,
    trivial, ?_, ?_, ?_, ?_, intact.ordered, by simp [Progress.call]⟩
  · intro destination existing known
    rcases Table.of_update known with ⟨rfl, rfl⟩ | ⟨_, before⟩
    · exact announced
    · exact whole.entered destination existing before
  · intro destination absent
    by_cases same : destination = packet.destination
    · rw [same]
      exact none'
    · exact intact.unentered destination ((Function.update_of_ne same _ _).symm.trans absent)
  · intro destination number stream known
    rcases Table.of_update known with ⟨rfl, same⟩ | ⟨_, before⟩
    · obtain ⟨⟨uni, here, owner, carrying⟩, _⟩ := fresh number stream same.symm
      refine ⟨uni, [], here, owner, by simp, by rw [none'], fun _ => none'.symm, ?_⟩
      rw [List.flatMap_nil, List.append_nil]
      exact carrying
    · refine (intact.streams destination number stream before).congr id rfl rfl ?_
      rw [unpacked]
      rfl
  · intro destination other number number' stream known known'
    rcases Table.of_update known with ⟨rfl, same⟩ | ⟨_, before⟩ <;>
      rcases Table.of_update known' with ⟨rfl, same'⟩ | ⟨_, before'⟩
    · rfl
    · exact absurd before' ((fresh number stream same.symm).2 _ _)
    · exact absurd before ((fresh number' stream same'.symm).2 _ _)
    · exact intact.alone _ _ _ _ _ before before'
  · intro destination number known earlier member
    rcases Table.of_update known with ⟨rfl, _⟩ | ⟨_, before⟩
    · rw [none'] at member
      contradiction
    · exact intact.datagrams destination number before earlier member

/-- The bytes of the packet under way. -/
theorem ConnectionIntact.writing (intact : self.ConnectionIntact strict association connection)
    (stage : connection.progress = .payload call stream) :
    ∃ packet number uni done, self.calls[call]? = some ⟨association, packet⟩ ∧
      connection.contexts packet.destination = some (.stream number stream) ∧
      self.unis[stream]? = some uni ∧ uni.association = association ∧
      packet.data.length ≤ maxStreamPacket ∧ (∀ packet ∈ done, packet.2.length ≤ maxStreamPacket) ∧
      (self.succeeded association packet.destination).Sublist done ∧
      (strict → done = self.succeeded association packet.destination) ∧
      uni.stream.Carrying LegalPacket (idBytes number ++ done.flatMap (encodePacket ·.2))
        (some (encodePacket packet.data)) := by
  have reached := intact.stage
  rw [stage] at reached
  obtain ⟨packet, number, called, known⟩ := reached
  obtain ⟨uni, done, here, owner, small, sublist, exact', carrying⟩ := intact.streams _ _ _ known
  have current : self.currentPacket stream connection.progress = some (call, packet.data) := by
    rw [stage]
    exact currentPacket_payload called
  rw [current, Option.map_some] at carrying
  have short : packet.data.length ≤ maxStreamPacket := by
    cases carrying with
    | writing _ flowed _ fine =>
      obtain ⟨data, bound, same⟩ := fine
      have equal : packet.data = data := encodePacket_injective same
      rw [equal]
      exact bound
  exact ⟨packet, number, uni, done, called, known, here, owner, short, small, sublist, exact', carrying⟩

/-- One more whole packet. -/
theorem flatMap_concat (number : Nat) (done : List (Nat × Bytes)) (data : Bytes) :
    idBytes number ++ done.flatMap (encodePacket ·.2) ++ encodePacket data =
      idBytes number ++ (done ++ [(call, data)]).flatMap (encodePacket ·.2) := by
  rw [List.flatMap_append, List.flatMap_singleton, List.append_assoc]

theorem small_concat {done : List (Nat × Bytes)} {data : Bytes}
    (small : ∀ packet ∈ done, packet.2.length ≤ maxStreamPacket) (short : data.length ≤ maxStreamPacket) :
    ∀ packet ∈ done ++ [(call, data)], packet.2.length ≤ maxStreamPacket :=
  List.forall_mem_append.mpr ⟨small, List.forall_mem_singleton.mpr short⟩

theorem completed_intact {uni : UniStream} (intact : self.Intact strict)
    (found : self.connections[association]? = some connection)
    (stage : connection.progress = .payload call stream) (here : self.unis[stream]? = some uni)
    (drained : uni.stream.pending = []) :
    (self.finish association connection call (.ok ())).Intact strict := by
  have old := intact.connection association connection found
  obtain ⟨packet, number, _, done, called, known, there, owner, short, small, sublist, exact', carrying⟩ :=
    old.writing stage
  cases Option.some.inj (here.symm.trans there)
  have results : (self.finish association connection call (.ok ())).results =
      self.results ++ [(call, .ok ())] := rfl
  obtain ⟨own, elsewhere⟩ := succeeded_own results rfl called
  obtain ⟨records, whole⟩ := old.control
  refine intact.set (spares_success results rfl called rfl (List.Subset.refl _) rfl) id rfl
    (old.touch id known rfl (List.Subset.refl _) (fun _ _ => rfl) elsewhere ?_ ?_ ⟨records, ?_⟩ trivial
      (ordered_success results rfl called old.ordered (old.recent call (by rw [stage]; rfl)))
      (by simp [Progress.call]))
    (intact.answered_concat (List.getElem?_eq_some_iff.mp called).1) intact.placed
  · intro other different
    rw [stage]
    exact (if_neg (Ne.symm different)).symm
  · refine ⟨uni, done ++ [(call, packet.data)], here, owner, small_concat small short, ?_, ?_, ?_⟩
    · rw [own]
      exact sublist.append (List.Sublist.refl _)
    · rw [own]
      exact fun holds => by rw [exact' holds]
    · rw [← flatMap_concat]
      exact carrying.complete drained
  · refine whole.congr rfl rfl rfl (by rw [stage]; rfl) ?_
    rintro call' number' sent (opening | ⟨other, header⟩) <;> contradiction

/-- The state of the packet connection between entering a context and using it. -/
theorem entered_base (intact : self.Intact strict)
    (found : self.connections[association]? = some connection) {sent : SendCall}
    (context : OutgoingUdpContext)
    (stage : connection.progress = .control call context.number ∧
        connection.control.pending = [] ∧ connection.mode = .datagram ∧
        context = .datagram context.number ∨
      ∃ stream uni, connection.progress = .header call context.number stream ∧
        self.unis[stream]? = some uni ∧ uni.stream.pending = [] ∧
        context = .stream context.number stream)
    (called : self.calls[call]? = some sent) :
    sent.association = association ∧ self.ConnectionIntact strict association { connection with
      contexts := Function.update connection.contexts sent.packet.destination (some context)
      progress := .idle } := by
  have old := intact.connection association connection found
  have reached := old.stage
  obtain ⟨records, whole⟩ := old.control
  rcases stage with ⟨control, drained, _, kind⟩ | ⟨stream, uni, header, here, drained, kind⟩
  · rw [control] at reached
    obtain ⟨packet, before, missing⟩ := reached
    cases Option.some.inj (called.symm.trans before)
    refine ⟨rfl, old.enter context missing (whole.complete control called drained (Or.inl rfl))
      (List.mem_append_right _ (List.mem_singleton_self _)) (fun _ => by rw [control]; rfl) ?_⟩
    rintro number stream rfl
    contradiction
  · rw [header] at reached
    obtain ⟨⟨packet, before, missing⟩, ⟨_, there, owner, carrying⟩, unused⟩ := reached
    cases Option.some.inj (called.symm.trans before)
    cases Option.some.inj (here.symm.trans there)
    refine ⟨rfl, old.enter context missing (whole.congr rfl rfl rfl (by rw [header]; rfl) (by simp))
      (whole.announced call context.number _ (Or.inr ⟨stream, header⟩) called)
      (fun _ => by rw [header]; rfl) ?_⟩
    rintro number stream' rfl
    cases kind
    exact ⟨⟨uni, here, owner, carrying.complete drained⟩, unused⟩

/-- The control stream of the packet connection changes, and nothing else. -/
theorem Intact.setControl {control : SendStream} (intact : self.Intact strict)
    (found : self.connections[association]? = some connection)
    (carries : ∀ whole, connection.control.Carrying connection.Legal whole
        ((self.currentRecord connection.progress).map recordBytes) →
      control.Carrying connection.Legal whole
        ((self.currentRecord connection.progress).map recordBytes)) :
    (self.setConnection association { connection with control }).Intact strict := by
  have old := intact.connection association connection found
  obtain ⟨records, whole⟩ := old.control
  have after : self.ConnectionIntact strict association { connection with control } := by
    refine ⟨⟨records, whole.known, whole.encodes, whole.entered, whole.announced, whole.writing,
      carries _ whole.carrying⟩, ?_, old.unentered, old.streams, old.alone, old.datagrams, old.ordered,
      old.recent⟩
    have stage := old.stage
    cases progress : connection.progress with
    | _ =>
      rw [progress] at stage
      exact stage
  have spares : ∀ other, Spares other self (self.setConnection association { connection with control }) :=
    fun _ => .same rfl rfl rfl rfl
  refine intact.set (spares association) id rfl ?_ intact.answered intact.placed
  exact after.spare (spares (association + 1)) (Nat.ne_of_lt (Nat.lt_succ_self _)) id

/-- A unidirectional stream changes but carries what it did. -/
theorem Intact.setUni {uni : UniStream} {later : SendStream} (intact : self.Intact strict)
    (here : self.unis[stream]? = some uni)
    (carries : ∀ legal whole current, uni.stream.Carrying legal whole current →
      later.Carrying legal whole current) :
    { self with unis := self.unis.set stream { uni with stream := later } }.Intact strict := by
  let after : Sender := { self with unis := self.unis.set stream { uni with stream := later } }
  have changed : after.unis[stream]? = some { uni with stream := later } :=
    List.getElem?_set_self (List.getElem?_eq_some_iff.mp here).1
  have untouched : ∀ other, other ≠ stream → after.unis[other]? = self.unis[other]? :=
    fun other different => List.getElem?_set_ne (Ne.symm different)
  have same : ∀ {other destination}, after.succeeded other destination = self.succeeded other destination :=
    succeeded_congr rfl rfl
  -- every stream is still there and carries what it did
  have kept : ∀ {index : Nat} {existing : UniStream}, self.unis[index]? = some existing →
      ∃ found, after.unis[index]? = some found ∧ found.association = existing.association ∧
        ∀ legal whole current, existing.stream.Carrying legal whole current →
          found.stream.Carrying legal whole current := by
    intro index existing found
    apply Table.set_related _ here _ found
    · exact fun uni => ⟨rfl, fun _ _ _ => id⟩
    · exact ⟨rfl, carries⟩
  refine ⟨fun other connection found => ?_, intact.answered, intact.placed⟩
  have old := intact.connection other connection found
  obtain ⟨records, whole⟩ := old.control
  refine old.move rfl (List.Subset.refl _) (fun _ => same) (fun destination number index known => ?_)
    ⟨records, whole.mono old.stage (List.prefix_refl _)⟩ ?_ (fun _ => Or.inl)
  · obtain ⟨existing, done, there, owner, small, sublist, exact', carrying⟩ :=
      old.streams destination number index known
    obtain ⟨found', there', owner', onward⟩ := kept there
    refine ⟨found', done, there', owner'.trans owner, small, ?_, ?_, onward _ _ _ carrying⟩
    · rw [same]
      exact sublist
    · rw [same]
      exact exact'
  · have stage := old.stage
    cases progress : connection.progress with
    | header call number index =>
      rw [progress] at stage
      obtain ⟨waits, ⟨existing, there, owner, carrying⟩, unused⟩ := stage
      obtain ⟨found', there', owner', onward⟩ := kept there
      exact ⟨waits, ⟨found', there', owner'.trans owner, onward _ _ _ carrying⟩, unused⟩
    | idle => trivial
    | control call number => rw [progress] at stage; exact stage
    | opening call number => rw [progress] at stage; exact stage
    | payload call index => rw [progress] at stage; exact stage

theorem controlFailed_intact (intact : self.Intact strict)
    (found : self.connections[association]? = some connection)
    (stage : connection.progress = .control call number) (unfinished : connection.control.pending ≠ [])
    (text : String) : (self.finish association { connection with control := connection.control.fail text }
      call (.error (.write text))).Intact strict := by
  have old := intact.connection association connection found
  have waits := old.stage
  rw [stage] at waits
  obtain ⟨packet, called, _⟩ := waits
  obtain ⟨records, whole⟩ := old.control
  have carried := whole.carrying
  have current : self.currentRecord connection.progress = some (packet.destination, number) := by
    rw [stage]
    exact congrArg (Option.map _) called
  rw [current, Option.map_some] at carried
  have same : ∀ {other destination}, (self.finish association { connection with
      control := connection.control.fail text } call (.error (.write text))).succeeded other destination =
      self.succeeded other destination := succeeded_error _ rfl rfl
  refine intact.set (spares_finish_error self association _ call _) id rfl (old.move rfl
    (List.Subset.refl _) (fun _ => same) (fun destination number' stream known => ?_)
    ⟨records, whole.known, whole.encodes, whole.entered, by simp, by simp [currentRecord],
      carried.fail unfinished text⟩ trivial (by simp [Progress.call]))
    (intact.answered_concat (List.getElem?_eq_some_iff.mp called).1) intact.placed
  refine (old.streams destination number' stream known).congr id rfl same ?_
  rw [stage]
  rfl

/-- The stream that the call under way alone holds is given up: nothing else is on it. -/
theorem Intact.dropHeader {uni : UniStream} {later : SendStream} {next : Sender} (intact : self.Intact strict)
    (weaker : strict' → strict) (found : self.connections[association]? = some connection)
    (stage : connection.progress = .header call number stream) (here : self.unis[stream]? = some uni)
    (connections : next.connections = self.connections.set association { connection with progress := .idle })
    (unis : next.unis = self.unis.set stream { uni with stream := later })
    (calls : next.calls = self.calls) (datagrams : next.datagrams = self.datagrams)
    (same : ∀ other destination, next.succeeded other destination = self.succeeded other destination)
    (answered : ∀ entry ∈ next.results, entry.1 < next.calls.length) : next.Intact strict' := by
  have old := intact.connection association connection found
  have reached := old.stage
  rw [stage] at reached
  obtain ⟨_, ⟨_, there, owner, _⟩, unused⟩ := reached
  cases Option.some.inj (here.symm.trans there)
  obtain ⟨records, whole⟩ := old.control
  have untouched : ∀ other, other ≠ stream → next.unis[other]? = self.unis[other]? := by
    intro other different
    rw [unis, List.getElem?_set_ne (Ne.symm different)]
  refine intact.set ⟨by rw [calls], by rw [datagrams]; exact List.Subset.refl _,
    fun {other existing} known foreign => ?_, fun destination _ => same _ destination⟩ weaker connections
    (old.move rfl (by rw [datagrams]; exact List.Subset.refl _) (same _)
      (fun destination number' other known => ?_)
      ⟨records, whole.congr rfl rfl rfl (by rw [stage]; rfl) (by simp)⟩ trivial
      (by simp [Progress.call])) answered
    (calls ▸ intact.placed)
  · refine (untouched other ?_).trans known
    rintro rfl
    cases Option.some.inj (here.symm.trans known)
    exact foreign owner
  · refine (old.streams destination number' other known).congr weaker (untouched other ?_)
      (same _ destination) (by rw [stage]; rfl)
    rintro rfl
    exact unused destination number' known

/-- The packet under way is given up, with or without a whole packet more. -/
theorem Intact.dropPacket {uni : UniStream} {later : SendStream} {next : Sender} {number : Nat}
    {done : List (Nat × Bytes)} (intact : self.Intact strict) (weaker : strict' → strict)
    (found : self.connections[association]? = some connection)
    (stage : connection.progress = .payload call stream)
    (known : connection.contexts packet.destination = some (.stream number stream))
    (here : self.unis[stream]? = some uni) (owner : uni.association = association)
    (connections : next.connections = self.connections.set association { connection with progress := .idle })
    (unis : next.unis = self.unis.set stream { uni with stream := later })
    (calls : next.calls = self.calls) (datagrams : next.datagrams = self.datagrams)
    (same : ∀ other destination, next.succeeded other destination = self.succeeded other destination)
    (answered : ∀ entry ∈ next.results, entry.1 < next.calls.length)
    (small : ∀ packet ∈ done, packet.2.length ≤ maxStreamPacket)
    (sublist : (self.succeeded association packet.destination).Sublist done)
    (exact' : strict' → done = self.succeeded association packet.destination)
    (carrying : later.Carrying LegalPacket (idBytes number ++ done.flatMap (encodePacket ·.2)) none) :
    next.Intact strict' := by
  have old := intact.connection association connection found
  obtain ⟨records, whole⟩ := old.control
  have untouched : ∀ other, other ≠ stream → next.unis[other]? = self.unis[other]? := by
    intro other different
    rw [unis, List.getElem?_set_ne (Ne.symm different)]
  have changed : next.unis[stream]? = some { uni with stream := later } := by
    rw [unis, List.getElem?_set_self (List.getElem?_eq_some_iff.mp here).1]
  refine intact.set ⟨by rw [calls], by rw [datagrams]; exact List.Subset.refl _,
    fun {other existing} listed foreign => ?_, fun destination _ => same _ destination⟩ weaker connections
    (old.touch weaker known rfl (by rw [datagrams]; exact List.Subset.refl _) untouched
      (fun other _ => same _ other) (fun other different => ?_) ?_
      ⟨records, whole.congr rfl rfl rfl (by rw [stage]; rfl) (by simp)⟩ trivial
      (fun destination => (same _ destination).symm ▸ old.ordered destination)
      (by simp [Progress.call])) answered
    (calls ▸ intact.placed)
  · refine (untouched other ?_).trans listed
    rintro rfl
    cases Option.some.inj (here.symm.trans listed)
    exact foreign owner
  · rw [stage]
    exact (if_neg (Ne.symm different)).symm
  · refine ⟨_, done, changed, owner, small, ?_, ?_, carrying⟩
    · rw [same]
      exact sublist
    · rw [same]
      exact exact'

theorem uniFailed_intact {uni : UniStream} (intact : self.Intact strict)
    (found : self.connections[association]? = some connection)
    (stage : (∃ number, connection.progress = .header call number stream) ∨
      connection.progress = .payload call stream) (here : self.unis[stream]? = some uni)
    (unfinished : uni.stream.pending ≠ []) (text : String) :
    ((self.failUni stream uni text).finish association connection call (.error (.write text))).Intact
      strict := by
  have same : ∀ other destination, ((self.failUni stream uni text).finish association connection call
      (.error (.write text))).succeeded other destination = self.succeeded other destination :=
    fun _ _ => succeeded_error _ rfl rfl
  have old := intact.connection association connection found
  rcases stage with ⟨number, header⟩ | payload
  · have reached := old.stage
    rw [header] at reached
    obtain ⟨packet, called, _⟩ := reached.1
    exact intact.dropHeader id found header here rfl rfl rfl rfl same
      (intact.answered_concat (List.getElem?_eq_some_iff.mp called).1)
  · obtain ⟨packet, number, _, done, called, known, there, owner, _, small, sublist, exact', carrying⟩ :=
      old.writing payload
    cases Option.some.inj (here.symm.trans there)
    exact intact.dropPacket id found payload known here owner rfl rfl rfl rfl same
      (intact.answered_concat (List.getElem?_eq_some_iff.mp called).1) small sublist exact'
      (carrying.fail unfinished text)

theorem associated_intact (intact : self.Intact strict) (mode : UdpMode) :
    { self with connections := self.connections ++ [PacketConnection.fresh mode] }.Intact strict := by
  have unsent : ∀ destination, self.succeeded self.connections.length destination = [] := by
    intro destination
    refine List.filterMap_eq_nil_iff.mpr fun entry member => ?_
    obtain ⟨call, result⟩ := entry
    cases result with
    | error => rfl
    | ok value =>
      rw [success, Option.bind_eq_none_iff]
      intro sent called
      refine if_neg fun own => ?_
      have placed := intact.placed sent (List.mem_of_getElem? called)
      omega
  have after : ∀ destination, succeeded
      { self with connections := self.connections ++ [PacketConnection.fresh mode] }
      self.connections.length destination = [] :=
    fun destination => (succeeded_congr rfl rfl).trans (unsent destination)
  have spares : Spares self.connections.length self
      { self with connections := self.connections ++ [PacketConnection.fresh mode] } :=
    .same rfl rfl rfl rfl
  refine intact.step spares id (fun other connection found => ?_) intact.answered (fun sent member => ?_)
  · rcases Table.of_concat found with old | ⟨rfl, rfl⟩
    · exact Or.inl ⟨Nat.ne_of_lt (List.getElem?_eq_some_iff.mp old).1, old⟩
    · refine Or.inr ⟨⟨[], by simp, by simp, by simp [PacketConnection.fresh],
        by simp [PacketConnection.fresh], by simp [PacketConnection.fresh, currentRecord],
        .resting rfl rfl rfl⟩, trivial, fun destination _ => after destination,
        by simp [PacketConnection.fresh], by simp [PacketConnection.fresh],
        by simp [PacketConnection.fresh], fun destination => ?_,
        by simp [PacketConnection.fresh, Progress.call]⟩
      rw [after]
      exact List.Pairwise.nil
  · have placed := intact.placed sent member
    rw [List.length_append, List.length_singleton]
    omega

end Sender

theorem sendStep_intact {self next : Sender} {strict : Prop} {action : SendAction}
    (intact : self.Intact strict) (stepped : sendStep self action = some next) : next.Intact strict := by
  have inside : ∀ {association : Nat} {connection : PacketConnection},
      self.connections[association]? = some connection → association < self.connections.length :=
    fun found => (List.getElem?_eq_some_iff.mp found).1
  have recent : ∀ (association : Nat) (packet : ShadowQuicPacket) (destination : Address),
      ∀ earlier ∈ Sender.succeeded { self with calls := self.calls ++ [⟨association, packet⟩] } association
        destination, earlier.1 < self.calls.length := by
    intro association packet destination
    rw [Sender.succeeded_calls intact.answered]
    exact intact.recent association destination
  cases sendStep_rule stepped with
  | associated mode => exact Sender.associated_intact intact mode
  | announced association packet answer connection next found live idle missing announced =>
    exact announced.keeps (intact.begin (inside found) self.allocated)
      (intact.begin (inside found) (self.allocated + 1)) found idle (by simp) rfl missing
      (recent association packet)
  | resumed association packet answer connection context next found live idle known transmitted =>
    have begun : Sender.Intact { self with calls := self.calls ++ [⟨association, packet⟩] } strict :=
      intact.begin (inside found) self.allocated
    refine transmitted.keeps begun ?_ (by simp) (recent association packet) known
    exact (begun.connection association connection found).rest id rfl rfl rfl rfl (List.Subset.refl _) rfl
      (fun _ => rfl) (by rw [idle]; rfl) (fun _ => by rw [idle]; rfl)
  | flushed association answer connection call number found stage drained mode =>
    exact Sender.flushed_intact intact found stage drained
  | refused association text connection call number found stage =>
    have waits := (intact.connection association connection found).stage
    rw [stage] at waits
    obtain ⟨packet, called, _⟩ := waits
    exact intact.failCall found (List.getElem?_eq_some_iff.mp called).1 (by rw [stage]; rfl)
      (fun _ => by rw [stage]; rfl) _
  | opened association connection call number found stage => exact Sender.opened_intact intact found stage
  | entered association answer connection call sent context next found stage called transmitted =>
    obtain ⟨owner, base⟩ := Sender.entered_base intact found context stage called
    subst owner
    have running : connection.progress.call = some call := by
      rcases stage with ⟨control, _⟩ | ⟨stream, uni, header, _⟩
      · rw [control]
        rfl
      · rw [header]
        rfl
    exact transmitted.keeps intact base called
      ((intact.connection _ connection found).recent call running) (Function.update_self _ _ _)
  | completed association answer connection call stream uni found stage here drained =>
    exact Sender.completed_intact intact found stage here drained
  | controlFlowed association count connection found healthy =>
    exact intact.setControl found fun _ carrying => carrying.flow healthy count
  | uniFlowed stream count uni here healthy =>
    exact intact.setUni here fun _ _ _ carrying => carrying.flow healthy count
  | controlFailed association text connection call number found stage unfinished =>
    exact Sender.controlFailed_intact intact found stage unfinished text
  | uniFailed association text connection call stream uni found stage here unfinished =>
    exact Sender.uniFailed_intact intact found stage here unfinished text
  | closed association connection found idle =>
    refine intact.set (.same rfl rfl rfl rfl) id rfl ?_ intact.answered intact.placed
    exact (intact.connection association connection found).rest id rfl rfl rfl idle (List.Subset.refl _) rfl
      (fun _ => Sender.succeeded_congr rfl rfl) (by rw [idle]; rfl) (fun _ => by rw [idle]; rfl)

namespace Sender
variable {self next : Sender} {strict strict' : Prop} {association call number : Nat}
  {connection : PacketConnection} {packet : ShadowQuicPacket} {records : List (Address × Nat)}

/-- The record of a cancelled call counts if all of it was accepted, and leaves no trace
if nothing was. -/
theorem ControlIntact.abandon (whole : self.ControlIntact connection records)
    (stage : connection.progress = .control call number)
    (called : self.calls[call]? = some ⟨association, packet⟩)
    (untorn : connection.control.pending = [] ∨
      connection.control.pending = recordBytes (packet.destination, number)) :
    ∃ records, self.ControlIntact
      { connection with control := connection.control.abandon, progress := .idle } records := by
  have current : self.currentRecord connection.progress = some (packet.destination, number) := by
    rw [stage]
    exact currentRecord_control called
  have carried := whole.carrying
  rw [current, Option.map_some] at carried
  rcases carried.abandon untorn with ⟨drained, all⟩ | nothing
  · have more := whole.complete stage called drained (Or.inl rfl)
    refine ⟨_, more.known, more.encodes, more.entered, more.announced, more.writing, ?_⟩
    rw [List.flatMap_append, List.flatMap_singleton]
    exact all
  · exact ⟨records, whole.known, whole.encodes, whole.entered, by simp, by simp [currentRecord], nothing⟩

/-- A cancellation that tears no frame keeps the framing. A packet that was written as
a whole is on its stream although its call has not succeeded. -/
theorem Cancelled.intact (cancelled : self.Cancelled association connection call next)
    (intact : self.Intact strict) (lax : ¬strict')
    (found : self.connections[association]? = some connection)
    (recorded : ∀ record, self.currentRecord connection.progress = some record →
      connection.control.pending = [] ∨ connection.control.pending = recordBytes record)
    (packed : ∀ stream uni packet, self.unis[stream]? = some uni →
      self.currentPacket stream connection.progress = some packet →
      uni.stream.pending = [] ∨ uni.stream.pending = encodePacket packet.2) : next.Intact strict' := by
  have old := intact.connection association connection found
  have weaker : strict' → strict := fun holds => absurd holds lax
  cases cancelled with
  | record number stage =>
    have waits := old.stage
    rw [stage] at waits
    obtain ⟨packet, called, _⟩ := waits
    obtain ⟨records, whole⟩ := old.control
    have untorn := recorded (packet.destination, number) (by rw [stage]; exact currentRecord_control called)
    obtain ⟨records', whole'⟩ := whole.abandon stage called untorn
    refine intact.set (.same rfl rfl rfl rfl) weaker rfl (old.move rfl (List.Subset.refl _)
      (fun _ => succeeded_congr rfl rfl) (fun destination number' stream known => ?_)
      ⟨records', whole'.congr rfl rfl rfl rfl (by simp)⟩ trivial (by simp [Progress.call]))
      intact.answered intact.placed
    refine (old.streams destination number' stream known).congr weaker rfl (succeeded_congr rfl rfl) ?_
    rw [stage]
    rfl
  | opening number stage =>
    refine intact.set (.same rfl rfl rfl rfl) weaker rfl ?_ intact.answered intact.placed
    exact old.rest weaker rfl rfl rfl rfl (List.Subset.refl _) rfl (fun _ => succeeded_congr rfl rfl)
      (by rw [stage]; rfl) (fun _ => by rw [stage]; rfl)
  | header number stream uni stage here =>
    exact intact.dropHeader weaker found stage here rfl rfl rfl rfl (fun _ _ => succeeded_congr rfl rfl)
      intact.answered
  | packet stream uni stage here =>
    obtain ⟨packet, number, _, done, called, known, there, owner, short, small, sublist, _, carrying⟩ :=
      old.writing stage
    cases Option.some.inj (here.symm.trans there)
    have current : self.currentPacket stream connection.progress = some (call, packet.data) := by
      rw [stage]
      exact currentPacket_payload called
    rcases carrying.abandon (packed stream uni _ here current) with ⟨_, all⟩ | nothing
    · refine intact.dropPacket weaker found stage known here owner rfl rfl rfl rfl
        (fun _ _ => succeeded_congr rfl rfl) intact.answered (small_concat small short)
        (sublist.trans (List.sublist_append_left _ [(call, packet.data)])) (fun holds => absurd holds lax) ?_
      rw [← flatMap_concat]
      exact all
    · exact intact.dropPacket weaker found stage known here owner rfl rfl rfl rfl
        (fun _ _ => succeeded_congr rfl rfl) intact.answered small sublist (fun holds => absurd holds lax)
        nothing

theorem initial_intact : initial.Intact strict :=
  ⟨by simp [initial], by simp [initial], by simp [initial]⟩

end Sender

/-- What holds in every state of a run in which no cancellation tears a frame. -/
theorem cancelStep_intact {self next : Cancellable} {action : CancelAction}
    (intact : self.sender.Intact (self.cancelled = [])) (untorn : Untorn self action)
    (stepped : cancelStep self action = some next) : next.sender.Intact (next.cancelled = []) := by
  cases cancelStep_rule stepped with
  | call action sender sent => exact sendStep_intact intact sent
  | cancel association call connection sender found cancelled =>
    obtain ⟨recorded, packed⟩ := untorn connection found
    exact cancelled.intact intact (by simp) found recorded packed

end SingQuic.ShadowQuic
