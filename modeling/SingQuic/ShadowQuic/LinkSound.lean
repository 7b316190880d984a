import SingQuic.ShadowQuic.Link

/-! Every step of a link keeps the two ends in agreement: what a task has read is the
beginning of what was written, and what it will read is the rest. -/
namespace SingQuic.ShadowQuic
open Wire

section Reading
variable {sender : Sender} {association arrived stream : Nat}

theorem readRecord_nil : readRecord [] = .more := rfl

theorem readPacket_nil : readPacket [] = .more := rfl

/-- The bytes of a control stream are records. -/
theorem Sender.Valid.controlBytes_records (valid : sender.Valid) (association : Nat) :
    sender.controlBytes association <+: (sender.records association).flatMap recordBytes := by
  unfold Sender.controlBytes Sender.records
  cases found : sender.connections[association]? with
  | none => exact List.nil_prefix
  | some connection =>
    show connection.control.written <+: connection.records.flatMap recordBytes
    rw [← (valid.connection association connection found).content]
    exact List.prefix_append _ _

theorem Sender.Valid.readRecord (valid : sender.Valid) {record : Address × Nat}
    (member : record ∈ sender.records association) (rest : Bytes) :
    readRecord (recordBytes record ++ rest) = .done (announced record) rest := by
  unfold Sender.records at member
  cases found : sender.connections[association]? with
  | none =>
    rw [found] at member
    contradiction
  | some connection =>
    rw [found] at member
    exact readRecord_recordBytes ((valid.connection association connection found).encodes record member) rest

theorem prefix_of_flatMap_append {α : Type} {bytes : α → Bytes} {consumed remaining : List α}
    {unread whole : Bytes} (part : whole <+: (consumed ++ remaining).flatMap bytes)
    (same : whole = consumed.flatMap bytes ++ unread) : unread <+: remaining.flatMap bytes := by
  rw [same, List.flatMap_append] at part
  exact (List.prefix_append_right_inj _).mp part

/-- A control task waits for more bytes or reads the next record that was announced;
it never fails. -/
theorem ControlSound.next (valid : sender.Valid) {task : ControlTask}
    (sound : ControlSound sender association arrived task) :
    readRecord task.unread = .more ∨ ∃ record rest, record ∈ sender.records association ∧
      readRecord task.unread = .done (announced record) rest ∧
      ControlSound sender association arrived { task with
        unread := rest, records := task.records ++ [announced record] } := by
  obtain ⟨consumed, ⟨remaining, split⟩, records, bytes⟩ := sound
  have part : task.unread <+: remaining.flatMap recordBytes := by
    refine prefix_of_flatMap_append ?_ bytes
    rw [split]
    exact (List.take_prefix _ _).trans (valid.controlBytes_records association)
  have decodes : ∀ record ∈ remaining, ∀ rest,
      readRecord (recordBytes record ++ rest) = .done (announced record) rest :=
    fun record member => valid.readRecord (split ▸ List.mem_append_right consumed member)
  rcases readRecord_stable.frames readRecord_nil decodes part with
    waits | ⟨record, later, rest, rfl, unread, read, _⟩
  · exact Or.inl waits
  · refine Or.inr ⟨record, rest, split ▸ by simp, read, consumed ++ [record], ⟨later, by simp [← split]⟩,
      by simp [records], ?_⟩
    rw [bytes, unread]
    simp

variable {uni : UniStream} {task : IncomingStream}

/-- A stream starts with the id of its context. -/
theorem StreamSound.readId {state : StreamState} {id : UInt16} {rest : Bytes}
    (valid : sender.UniValid stream uni)
    (sound : StreamSound sender uni (uni.stream.written.take arrived) task .header)
    (read : readU16 task.unread = .done id rest) :
    StreamSound sender uni (uni.stream.written.take arrived)
      { task with unread := rest, state := state } (.waiting id) := by
  obtain ⟨count, bytes⟩ := sound
  obtain ⟨later, whole⟩ : task.unread <+:
      idBytes uni.number ++ uni.packets.flatMap (encodePacket ·.2) := by
    rw [← valid.content, ← bytes]
    exact (List.take_prefix _ _).trans (List.prefix_append _ _)
  have decoded := readU16_stable.done read later
  rw [whole, idBytes, readU16_append] at decoded
  obtain ⟨rfl, behind⟩ := Read.done.inj decoded
  rw [behind, ← List.append_assoc] at whole
  exact ⟨count, rfl, bytes.trans (List.append_cancel_right whole)⟩

/-- A handler that is reading waits or gets the next packet; it never fails. -/
theorem StreamSound.next {route : IncomingUdpRoute} (valid : sender.UniValid stream uni)
    (sound : StreamSound sender uni (uni.stream.written.take arrived) task (.reading route)) :
    readPacket task.unread = .more ∨ ∃ data rest, readPacket task.unread = .done data rest ∧
      StreamSound sender uni (uni.stream.written.take arrived)
        { task with unread := rest, state := .sending route data } (.sending route data) := by
  obtain ⟨announces, frames, ⟨remaining, split⟩, count, bytes⟩ := sound
  obtain ⟨_, _, _, _, packets⟩ := valid.owner
  have part : task.unread <+: remaining.flatMap (encodePacket ·.2) := by
    refine (List.prefix_append_right_inj (frames.flatMap (encodePacket ·.2))).mp ?_
    rw [← List.flatMap_append, split]
    refine (List.prefix_append_right_inj (idBytes uni.number)).mp ?_
    rw [← bytes, ← valid.content]
    exact (List.take_prefix _ _).trans (List.prefix_append _ _)
  have decodes : ∀ packet ∈ remaining, ∀ rest,
      readPacket (encodePacket packet.2 ++ rest) = .done packet.2 rest := fun packet member =>
    readPacket_encodePacket (packets packet (split ▸ List.mem_append_right frames member)).1
  rcases readPacket_stable.frames readPacket_nil decodes part with waits | ⟨⟨call, data⟩, later, rest, rfl, unread, read, _⟩
  · exact Or.inl waits
  · refine Or.inr ⟨data, rest, read, announces, frames, call, ⟨later, by simp [← split]⟩, count, ?_⟩
    rw [bytes, unread]
    simp

theorem length_upcoming_le {written : Bytes} {count : Nat} (bound : arrived ≤ written.length) :
    arrived + (upcoming written arrived count).length ≤ written.length := by
  simp only [upcoming, List.length_take, List.length_drop]
  omega

/-- What arrives continues what has arrived. -/
theorem take_upcoming (written : Bytes) (arrived count : Nat) :
    written.take (arrived + (upcoming written arrived count).length) =
      written.take arrived ++ upcoming written arrived count := by
  rw [List.take_add, upcoming, List.length_take]
  congr 1
  rw [← List.take_take, List.take_length]

theorem StreamSound.arrive {sender : Sender} {uni : UniStream} {task : IncomingStream}
    {before bytes : Bytes} {state : StreamState} (sound : StreamSound sender uni before task state) :
    StreamSound sender uni (before ++ bytes) { task with unread := task.unread ++ bytes } state := by
  cases state with
  | unaccepted => exact ⟨sound.1, by rw [sound.2]⟩
  | header => exact ⟨sound.1, by rw [sound.2]⟩
  | waiting id => exact ⟨sound.1, sound.2.1, by rw [sound.2.2, List.append_assoc]⟩
  | reading route =>
    obtain ⟨announces, frames, part, count, same⟩ := sound
    exact ⟨announces, frames, part, count, by simp [same]⟩
  | sending route data =>
    obtain ⟨announces, frames, call, part, count, same⟩ := sound
    exact ⟨announces, frames, call, part, count, by simp [same]⟩
  | ended result => trivial

end Reading

/-- Nothing that has been delivered can be delivered again after the change. -/
structure Settled (before after : Receiver) : Prop where
  datagrams : ∀ {source : Nat} {task : DatagramTask} {result : Result Unit},
    before.datagrams source = some task → task.state = .ended result →
      after.datagrams source = some task
  streams : ∀ {stream : Nat} {task : IncomingStream}, before.streams stream = some task →
    ∃ later, after.streams stream = some later ∧ task.count ≤ later.count

theorem Delivered.settled {sender : Sender} {receiver after : Receiver} {delivery : Delivery}
    {origin : Origin} (settled : Settled receiver after)
    (delivered : Delivered sender receiver delivery origin) :
    Delivered sender after delivery origin := by
  cases origin with
  | datagram source =>
    obtain ⟨datagram, task, result, found, here, ended, rest⟩ := delivered
    exact ⟨datagram, task, result, found, settled.datagrams here ended, ended, rest⟩
  | packet stream index =>
    obtain ⟨uni, task, call, found, here, past, rest⟩ := delivered
    obtain ⟨later, there, more⟩ := settled.streams here
    exact ⟨uni, later, call, found, there, past.trans_le more, rest⟩

namespace Link
variable {self : Link} {association source stream arrived : Nat}

/-- A control stream moves on: bytes arrive, are read, or are given up. -/
theorem Sound.setControl (sound : self.Sound) {task : ControlTask}
    (bound : arrived ≤ (self.sender.controlBytes association).length)
    (moved : ControlSound self.sender association arrived task) :
    { self with
      receiver := self.receiver.setControl association task
      control := Function.update self.control association arrived }.Sound := by
  refine { sound with controls := ?_, controlBound := ?_, unopened := ?_ }
  · intro other existing here
    dsimp only
    by_cases same : other = association
    · subst other
      rw [Function.update_self]
      obtain rfl := Option.some.inj ((self.receiver.setControl_self task).symm.trans here)
      exact moved
    · rw [Function.update_of_ne same]
      exact sound.controls other existing ((self.receiver.setControl_ne same task).symm.trans here)
  · intro other
    dsimp only
    by_cases same : other = association
    · subst other
      rwa [Function.update_self]
    · rw [Function.update_of_ne same]
      exact sound.controlBound other
  · intro other missing
    dsimp only
    by_cases same : other = association
    · subst other
      exact absurd ((self.receiver.setControl_self task).symm.trans missing) (by simp)
    · rw [Function.update_of_ne same]
      exact sound.unopened other ((self.receiver.setControl_ne same task).symm.trans missing)

/-- The same without an arrival. -/
theorem Sound.setControl_same (sound : self.Sound) (later : ControlTask)
    (moved : ControlSound self.sender association (self.control association) later) :
    { self with receiver := self.receiver.setControl association later }.Sound := by
  have kept := sound.setControl (sound.controlBound association) moved
  rwa [Function.update_eq_self] at kept

theorem Sound.teardown (sound : self.Sound) {task : ControlTask}
    (here : self.receiver.controls association = some task) :
    { self with receiver := self.receiver.teardown association task }.Sound := by
  have kept := sound.setControl_same { task with running := false }
    (sound.controls association task here)
  refine { kept with routes := ?_ }
  intro id route found
  simp only [Receiver.teardown] at found
  split at found
  · contradiction
  · exact sound.routes id route found

theorem Sound.register (sound : self.Sound) {task : ControlTask} {destination : Address} {id : UInt16}
    {rest : Bytes} (here : self.receiver.controls association = some task)
    (read : readRecord task.unread = .done (destination, id) rest) :
    { self with receiver := self.receiver.register association task destination id rest }.Sound := by
  rcases (sound.controls association task here).next sound.valid with
    waits | ⟨record, remaining, member, got, moved⟩
  · rw [waits] at read
    contradiction
  · rw [read] at got
    obtain ⟨same, rfl⟩ := Read.done.inj got
    obtain ⟨rfl, rfl⟩ := Prod.mk.inj same
    refine { sound.setControl_same _ moved with routes := ?_ }
    intro other route found
    rcases Table.of_update found with ⟨rfl, rfl⟩ | ⟨_, before⟩
    · exact ⟨record, member, rfl⟩
    · exact sound.routes other route before

/-- A handler of a stream moves on. -/
theorem Sound.setStream (sound : self.Sound) (task : IncomingStream) {uni : UniStream}
    (found : self.sender.unis[stream]? = some uni)
    (grown : ∀ earlier, self.receiver.streams stream = some earlier → earlier.count ≤ task.count)
    (bound : arrived ≤ uni.stream.written.length)
    (moved : StreamSound self.sender uni (uni.stream.written.take arrived) task task.state) :
    { self with
      receiver := self.receiver.setStream stream task
      stream := Function.update self.stream stream arrived }.Sound := by
  have settled : Settled self.receiver (self.receiver.setStream stream task) := by
    refine ⟨fun here _ => here, fun {other existing} here => ?_⟩
    by_cases same : other = stream
    · subst other
      exact ⟨task, self.receiver.setStream_self task, grown existing here⟩
    · exact ⟨existing, (self.receiver.setStream_ne same task).trans here, le_rfl⟩
  refine { sound with streams := ?_, unseen := ?_, log := fun delivery member =>
    (sound.log delivery member).settled settled }
  · intro other existing here
    dsimp only
    by_cases same : other = stream
    · subst other
      rw [Function.update_self]
      obtain rfl := Option.some.inj ((self.receiver.setStream_self task).symm.trans here)
      exact ⟨uni, found, bound, moved⟩
    · rw [Function.update_of_ne same]
      exact sound.streams other existing ((self.receiver.setStream_ne same task).symm.trans here)
  · intro other missing
    dsimp only
    by_cases same : other = stream
    · subst other
      exact absurd ((self.receiver.setStream_self task).symm.trans missing) (by simp)
    · rw [Function.update_of_ne same]
      exact sound.unseen other ((self.receiver.setStream_ne same task).symm.trans missing)

theorem Sound.setStream_same (sound : self.Sound) (later : IncomingStream) {task : IncomingStream}
    (here : self.receiver.streams stream = some task) (grown : task.count ≤ later.count)
    (moved : ∀ uni, self.sender.unis[stream]? = some uni → self.sender.UniValid stream uni →
      StreamSound self.sender uni (uni.stream.written.take (self.stream stream)) task task.state →
      StreamSound self.sender uni (uni.stream.written.take (self.stream stream)) later later.state) :
    { self with receiver := self.receiver.setStream stream later }.Sound := by
  obtain ⟨uni, found, bound, old⟩ := sound.streams stream task here
  have kept := sound.setStream later found
    (fun earlier there => by cases here.symm.trans there; exact grown) bound
    (moved uni found (sound.valid.uni stream uni found) old)
  rwa [Function.update_eq_self] at kept

/-- A handler of a datagram moves on. -/
theorem Sound.setDatagram (sound : self.Sound) (task : DatagramTask)
    (running : ∀ earlier result, self.receiver.datagrams source = some earlier →
      earlier.state ≠ .ended result)
    (unread : source ∉ self.receiver.inbox.map Prod.fst)
    (moved : DatagramSound self.sender source task) :
    { self with receiver := self.receiver.setDatagram source task }.Sound := by
  have settled : Settled self.receiver (self.receiver.setDatagram source task) := by
    refine ⟨fun {other existing result} here ended => ?_, fun here => ⟨_, here, le_rfl⟩⟩
    have different : other ≠ source := by
      rintro rfl
      exact running existing result here ended
    exact (self.receiver.setDatagram_ne different task).trans here
  refine { sound with inbox := ?_, datagrams := ?_, log := fun delivery member =>
    (sound.log delivery member).settled settled }
  · intro other bytes member
    obtain ⟨known, fresh⟩ := sound.inbox other bytes member
    have different : other ≠ source := by
      rintro rfl
      exact unread (List.mem_map_of_mem member)
    exact ⟨known, (self.receiver.setDatagram_ne different task).trans fresh⟩
  · intro other existing here
    by_cases same : other = source
    · subst other
      obtain rfl := Option.some.inj ((self.receiver.setDatagram_self task).symm.trans here)
      exact moved
    · exact sound.datagrams other existing ((self.receiver.setDatagram_ne same task).symm.trans here)

/-- A datagram that a handler works on has left the inbox. -/
theorem Sound.unread (sound : self.Sound) {task : DatagramTask}
    (here : self.receiver.datagrams source = some task) :
    source ∉ self.receiver.inbox.map Prod.fst := by
  intro member
  obtain ⟨⟨_, bytes⟩, inside, rfl⟩ := List.mem_map.mp member
  rw [(sound.inbox _ bytes inside).2] at here
  contradiction

/-- A delivery with an origin of its own goes onto a queue. -/
theorem Sound.push (sound : self.Sound) (delivery : Delivery)
    (delivered : Delivered self.sender self.receiver delivery delivery.origin)
    (new : ∀ earlier ∈ self.receiver.log, earlier.origin.Before delivery.origin) :
    { self with receiver := self.receiver.push delivery }.Sound := by
  refine { sound with log := ?_, order := ?_ }
  · exact List.forall_mem_append.mpr ⟨sound.log, List.forall_mem_singleton.mpr delivered⟩
  · exact Table.pairwise_concat sound.order new

theorem Sound.endDatagram (sound : self.Sound) {task : DatagramTask}
    (here : self.receiver.datagrams source = some task)
    (running : ∀ result, task.state ≠ .ended result) (result : Result Unit) :
    { self with receiver := self.receiver.endDatagram source task result }.Sound := by
  have kept := sound.setDatagram { task with state := .ended result }
    (fun earlier other there => by cases here.symm.trans there; exact running other)
    (sound.unread here) ⟨(sound.datagrams source task here).1, by simp⟩
  exact { kept with }

/-- The handler of a datagram puts its payload onto the queue and ends. -/
theorem Sound.deliver (sound : self.Sound) {task : DatagramTask} {route : IncomingUdpRoute}
    (here : self.receiver.datagrams source = some task) (sending : task.state = .sending route) :
    { self with
      receiver := (self.receiver.push (Receiver.delivery source task route)).endDatagram source task
        (.ok ()) }.Sound := by
  have running : ∀ result, task.state ≠ .ended result := by simp [sending]
  obtain ⟨⟨datagram, found, frame⟩, announces⟩ := sound.datagrams source task here
  have ended := sound.endDatagram here running (.ok ())
  refine ended.push (Receiver.delivery source task route)
    ⟨datagram, { task with state := .ended (.ok ()) }, .ok (), found,
      self.receiver.setDatagram_self _, rfl, frame ▸ rfl, frame ▸ announces route sending⟩ ?_
  intro earlier member
  have known := sound.log earlier member
  cases origin : earlier.origin with
  | packet stream index => trivial
  | datagram other =>
    rw [origin] at known
    obtain ⟨_, existing, result, _, there, finished, _⟩ := known
    rintro rfl
    cases here.symm.trans there
    exact running result finished

/-- The handler of a stream puts the packet it has read onto the queue. -/
theorem Sound.deliverPacket (sound : self.Sound) {task : IncomingStream} {route : IncomingUdpRoute}
    {data : Bytes} (here : self.receiver.streams stream = some task)
    (sending : task.state = .sending route data) :
    { self with
      receiver := (self.receiver.push (Receiver.streamDelivery stream task route data)).setStream stream
        { task with state := .reading route, count := task.count + 1 } }.Sound := by
  obtain ⟨uni, found, bound, old⟩ := sound.streams stream task here
  rw [sending] at old
  obtain ⟨announces, frames, call, ⟨rest, split⟩, count, bytes⟩ := old
  have moved := sound.setStream_same
    { task with state := .reading route, count := task.count + 1 } here (Nat.le_succ _) <| by
      intro other there _ _
      cases found.symm.trans there
      exact ⟨announces, frames ++ [(call, data)], ⟨rest, split⟩, by simp [count], bytes⟩
  have packet : uni.packets[task.count]? = some (call, data) := by
    rw [← split, List.getElem?_append_left (by simp [count]), ← count]
    simp
  refine moved.push (Receiver.streamDelivery stream task route data)
    ⟨uni, _, call, found, self.receiver.setStream_self _, Nat.lt_succ_self _, packet, announces⟩ ?_
  intro earlier member
  have known := sound.log earlier member
  cases origin : earlier.origin with
  | datagram other => trivial
  | packet other index =>
    rw [origin] at known
    obtain ⟨_, existing, _, _, there, past, _⟩ := known
    rintro rfl
    cases here.symm.trans there
    exact past

/-- The receive loop takes the next datagram from the inbox. -/
theorem Sound.readDatagram (sound : self.Sound) {dispatch : Dispatch} {bytes : Bytes}
    {rest : List (Nat × Bytes)} (first : self.receiver.inbox = (source, bytes) :: rest) :
    { self with receiver :=
      { self.receiver with inbox := rest }.startDatagram dispatch source bytes }.Sound := by
  obtain ⟨known, fresh⟩ := sound.inbox source bytes (by simp [first])
  have once := sound.once
  rw [first, List.map_cons, List.nodup_cons] at once
  have shorter : { self with receiver := { self.receiver with inbox := rest } }.Sound :=
    { sound with
      inbox := fun other content member => sound.inbox other content (by simp [first, member])
      once := once.2 }
  have started : ∀ state : DatagramState, (∀ route, state ≠ .sending route) →
      (Link.mk self.sender ({ self.receiver with inbox := rest }.setDatagram source ⟨bytes, state⟩)
        self.control self.stream).Sound := by
    intro state harmless
    refine shorter.setDatagram ⟨bytes, state⟩ ?_ once.1
      ⟨known, fun route same => absurd same (harmless route)⟩
    intro earlier result there
    rw [fresh] at there
    contradiction
  unfold Receiver.startDatagram
  split
  · exact started _ (by simp)
  · exact { started .waiting (by simp) with }

variable {dispatch : Dispatch} {next : Receiver} {action : ReceiveAction}

theorem Sound.receive (sound : self.Sound) (own : action.arrival = false)
    (stepped : receiveStep dispatch self.receiver action = some next) :
    { self with receiver := next }.Sound := by
  cases receiveStep_rule stepped with
  | controlArrived | datagramArrived | streamArrived | bytesArrived => contradiction
  | associated association missing =>
    refine sound.setControl_same _ ⟨[], List.nil_prefix, rfl, ?_⟩
    rw [sound.unopened association missing]
    rfl
  | registered association task destination id rest here running read => exact sound.register here read
  | garbled association task error here => exact sound.teardown here
  | stopped association task here => exact sound.teardown here
  | datagramRead source bytes rest first => exact sound.readDatagram first
  | routed source task route here waiting found =>
    refine sound.setDatagram { task with state := .sending route } ?_ (sound.unread here)
      ⟨(sound.datagrams source task here).1, ?_⟩
    · intro earlier result there
      cases here.symm.trans there
      simp [waiting]
    · rintro other ⟨⟩
      exact sound.routes _ _ found
  | quit source task here waiting => exact sound.endDatagram here (by simp [waiting]) _
  | refused source task route here sending => exact sound.endDatagram here (by simp [sending]) _
  | delivered source task route here sending => exact sound.deliver here sending
  | accepted stream task here waiting =>
    refine sound.setStream_same _ here le_rfl fun uni _ _ old => ?_
    rw [waiting] at old
    exact old
  | idRead stream task id rest here header read =>
    refine sound.setStream_same _ here le_rfl fun uni _ valid old => ?_
    rw [header] at old
    exact old.readId valid read
  | streamRouted stream task id route here waiting found =>
    refine sound.setStream_same _ here le_rfl fun uni _ _ old => ?_
    rw [waiting] at old
    obtain ⟨count, rfl, bytes⟩ := old
    exact ⟨sound.routes _ _ found, [], List.nil_prefix, count.symm, by simpa using bytes⟩
  | packetRead stream task route data rest here reading read =>
    refine sound.setStream_same _ here le_rfl fun uni _ valid old => ?_
    rw [reading] at old
    rcases old.next valid with waits | ⟨other, remaining, got, onward⟩
    · rw [waits] at read
      contradiction
    · rw [read] at got
      obtain ⟨rfl, rfl⟩ := Read.done.inj got
      exact onward
  | packetDelivered stream task route data here sending => exact sound.deliverPacket here sending
  | streamQuit stream task id here => exact sound.setStream_same _ here le_rfl fun _ _ _ _ => trivial
  | packetRefused stream task route data here =>
    exact sound.setStream_same _ here le_rfl fun _ _ _ _ => trivial
  | streamFailed stream text task here =>
    exact sound.setStream_same _ here le_rfl fun _ _ _ _ => trivial
  | taken | queueDropped | closed => exact { sound with }

end Link

theorem linkStep_sound {dispatch : Dispatch} {self next : Link} {action : LinkAction}
    (sound : self.Sound) (stepped : linkStep dispatch self action = some next) : next.Sound := by
  cases action with
  | send action =>
    obtain ⟨sender, sent, rfl⟩ := Option.map_eq_some_iff.mp stepped
    exact sound.send (sendStep_grows sent) (sendStep_valid sound.valid sent)
  | receive action =>
    simp only [linkStep] at stepped
    split at stepped
    · contradiction
    · rename_i own
      obtain ⟨receiver, received, rfl⟩ := Option.map_eq_some_iff.mp stepped
      exact sound.receive (by simpa using own) received
  | controlArrives association count =>
    obtain ⟨connection, found, arrives⟩ := Option.bind_eq_some_iff.mp stepped
    obtain ⟨receiver, received, rfl⟩ := Option.map_eq_some_iff.mp arrives
    obtain ⟨task, here, rfl⟩ := Option.map_eq_some_iff.mp received
    have written : self.sender.controlBytes association = connection.control.written := by
      rw [Sender.controlBytes, found]
      rfl
    have bound := sound.controlBound association
    obtain ⟨consumed, part, records, bytes⟩ := sound.controls association task here
    rw [written] at bound bytes
    refine sound.setControl ?_ ⟨consumed, part, records, ?_⟩
    · rw [written]
      exact length_upcoming_le bound
    · rw [written, take_upcoming, bytes, List.append_assoc]
  | datagramArrives source =>
    obtain ⟨datagram, found, arrives⟩ := Option.bind_eq_some_iff.mp stepped
    obtain ⟨receiver, received, rfl⟩ := Option.map_eq_some_iff.mp arrives
    cases receiveStep_rule received with
    | datagramArrived _ _ absent new =>
      refine { sound with inbox := ?_, once := ?_ }
      · intro other bytes member
        rcases List.mem_append.mp member with earlier | last
        · exact sound.inbox other bytes earlier
        · obtain ⟨rfl, rfl⟩ := Prod.mk.inj (List.mem_singleton.mp last)
          exact ⟨⟨datagram, found, rfl⟩, absent⟩
      · dsimp only
        rw [List.map_append, List.map_singleton, List.nodup_append]
        refine ⟨sound.once, List.nodup_singleton _, ?_⟩
        intro other member final last same
        rw [same, List.mem_singleton.mp last] at member
        exact new member
  | streamArrives stream =>
    obtain ⟨uni, found, arrives⟩ := Option.bind_eq_some_iff.mp stepped
    obtain ⟨receiver, received, rfl⟩ := Option.map_eq_some_iff.mp arrives
    cases receiveStep_rule received with
    | streamArrived _ missing =>
      have kept := sound.setStream ⟨[], .unaccepted, 0⟩ found
        (fun earlier there => by rw [missing] at there; contradiction) (Nat.zero_le _) ⟨rfl, rfl⟩
      rwa [Function.update_eq_self_iff.mpr (sound.unseen stream missing).symm] at kept
  | bytesArrive stream count =>
    obtain ⟨uni, found, arrives⟩ := Option.bind_eq_some_iff.mp stepped
    obtain ⟨receiver, received, rfl⟩ := Option.map_eq_some_iff.mp arrives
    obtain ⟨task, here, rfl⟩ := Option.map_eq_some_iff.mp received
    obtain ⟨other, there, bound, old⟩ := sound.streams stream task here
    cases found.symm.trans there
    refine sound.setStream _ found (fun earlier there => by cases here.symm.trans there; exact le_rfl)
      (length_upcoming_le bound) ?_
    rw [take_upcoming]
    exact old.arrive

theorem Link.initial_sound : Link.initial.Sound where
  valid := Sender.initial_valid
  controls _ _ here := absurd here (by simp [Link.initial, Receiver.initial])
  controlBound _ := Nat.zero_le _
  unopened _ _ := rfl
  routes _ _ found := absurd found (by simp [Link.initial, Receiver.initial])
  inbox _ _ member := absurd member List.not_mem_nil
  once := List.nodup_nil
  datagrams _ _ here := absurd here (by simp [Link.initial, Receiver.initial])
  streams _ _ here := absurd here (by simp [Link.initial, Receiver.initial])
  unseen _ _ := rfl
  log _ member := absurd member List.not_mem_nil
  order := List.Pairwise.nil

theorem run_sound {dispatch : Dispatch} {actions : List LinkAction} {link : Link}
    (execution : Transition.run (linkStep dispatch) .initial actions = some link) : link.Sound :=
  Transition.run_invariant (P := Link.Sound) linkStep_sound execution Link.initial_sound

end SingQuic.ShadowQuic
