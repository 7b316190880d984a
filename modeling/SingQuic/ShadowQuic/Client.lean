import SingQuic.ShadowQuic.LinkProgress

/-! The client's side of SQuic UDP. `associate` starts a task for the control stream
in every mode, but `connection_state` starts the receive loop for datagrams and
streams only when the client authenticates the SunnyQUIC way. -/
namespace SingQuic.ShadowQuic
open Wire

inductive ClientAuthentication where
  | jls
  | sunny (credential : { bytes : Bytes // bytes.length = 64 })

/-- Who reads what the server sends, as `connection_state` arranges it. -/
def ClientAuthentication.dispatch : ClientAuthentication → Dispatch
  | .jls => .absent
  | .sunny _ => .inline

/-- The steps that the tasks take by themselves. -/
def ReceiveAction.own : ReceiveAction → Bool
  | .record _ | .readDatagram | .route _ | .quit _ | .deliver _ | .accept _ | .readId _
  | .routeStream _ | .quitStream _ | .readPacket _ | .deliverPacket _ => true
  | _ => false

/-- Every task has run until it blocks. -/
def Receiver.Quiescent (dispatch : Dispatch) (self : Receiver) : Prop :=
  ∀ action : ReceiveAction, action.own = true → receiveStep dispatch self action = none

/-- Once the tasks are blocked, none of their rules applies. -/
theorem Receiver.Quiescent.blocks {dispatch : Dispatch} {self next : Receiver} {action : ReceiveAction}
    (quiet : self.Quiescent dispatch) (rule : Rule dispatch self action next) (own : action.own = true) :
    False := by
  have stuck := quiet action own
  rw [rule.step] at stuck
  contradiction

namespace Link

/-- All bytes of the record have arrived on the control stream. -/
def RecordArrived (self : Link) (association : Nat) (record : Address × Nat) : Prop :=
  ∃ before after, self.sender.records association = before ++ record :: after ∧
    ((before ++ [record]).flatMap recordBytes).length ≤ self.control association

/-- The datagram, or all bytes of the stream up to the end of the packet, have
arrived. -/
def Arrived (self : Link) : Origin → Prop
  | .datagram source =>
    source ∈ self.receiver.inbox.map Prod.fst ∨ self.receiver.datagrams source ≠ none
  | .packet stream index => self.receiver.streams stream ≠ none ∧
    ∃ uni, self.sender.unis[stream]? = some uni ∧
      (idBytes uni.number ++ (uni.packets.take (index + 1)).flatMap (encodePacket ·.2)).length ≤
        self.stream stream

/-- A packet sent by the server's half of an association, the context it was sent
with, and what carried it; that and its control record have arrived. -/
structure Reply (link : Link) (association call : Nat) (packet : ShadowQuicPacket)
    (context : OutgoingUdpContext) (origin : Origin) : Prop where
  called : link.sender.calls[call]? = some ⟨association, packet⟩
  entered : ∃ connection, link.sender.connections[association]? = some connection ∧
    connection.contexts packet.destination = some context
  carried : Carried link.sender (some context) call origin
  record : link.RecordArrived association (packet.destination, context.number)
  arrived : link.Arrived origin

/-- The packet was put onto the queue of the association. -/
def OnQueue (self : Link) (association : Nat) (packet : ShadowQuicPacket) (origin : Origin) : Prop :=
  ∃ entry ∈ self.receiver.log, entry.origin = origin ∧ entry.association = association ∧
    entry.packet = ⟨packet.data, canonical packet.destination⟩

end Link

namespace Receiver

/-- The receive loop has not come to the datagram or the stream yet. -/
def Unread (self : Receiver) : Origin → Prop
  | .datagram source => source ∈ self.inbox.map Prod.fst
  | .packet stream _ => ∃ task, self.streams stream = some task ∧ task.state = .unaccepted

/-- The handler waits for the route of its id. -/
def AwaitsRoute (self : Receiver) : Origin → Prop
  | .datagram source => ∃ task, self.datagrams source = some task ∧ task.state = .waiting
  | .packet stream _ => ∃ task id, self.streams stream = some task ∧ task.state = .waiting id

/-- The stream has failed before the packet. -/
def Broken (self : Receiver) : Origin → Prop
  | .datagram _ => False
  | .packet stream index => ∃ task text, self.streams stream = some task ∧
    task.state = .ended (.error (.read text)) ∧ task.count ≤ index

/-- Nothing but the authentication mode stands between a packet and its queue: the
loop is not held by another datagram while the packet is unread, the control stream
is open as long as the route is needed, and the stream of the packet is intact. -/
structure Unhindered (receiver : Receiver) (association : Nat) (origin : Origin) : Prop where
  free : receiver.Unread origin → receiver.hand = none
  opened : receiver.AwaitsRoute origin →
    ∃ task, receiver.controls association = some task ∧ task.running = true
  intact : ¬ receiver.Broken origin

end Receiver

namespace Link
variable {self : Link} {association call : Nat} {packet : ShadowQuicPacket}
  {context : OutgoingUdpContext} {origin : Origin} {dispatch : Dispatch}

theorem Sound.record_read (sound : self.Sound) (quiet : self.receiver.Quiescent dispatch)
    {task : ControlTask} (here : self.receiver.controls association = some task)
    (running : task.running = true) {record : Address × Nat}
    (arrived : self.RecordArrived association record) : announced record ∈ task.records := by
  have waits : readRecord task.unread = .more := by
    rcases (sound.controls association task here).next sound.valid with more | ⟨_, _, _, read, _⟩
    · exact more
    · exact (quiet.blocks (.registered _ _ _ _ _ here running read) rfl).elim
  obtain ⟨consumed, part, records, bytes⟩ := sound.controls association task here
  obtain ⟨before, after, split, enough⟩ := arrived
  have length : (consumed.flatMap recordBytes ++ task.unread).length = self.control association := by
    rw [← bytes, List.length_take, Nat.min_eq_left (sound.controlBound association)]
  have decodes : ∀ record ∈ self.sender.records association, ∀ rest,
      readRecord (recordBytes record ++ rest) = .done (announced record) rest :=
    fun record member => sound.valid.readRecord member
  have past := Reader.passed_of_more decodes part split
    (bytes ▸ (List.take_prefix _ _).trans (sound.valid.controlBytes_records association))
    (length ▸ enough) waits
  have found : consumed[before.length]? = some record := by
    obtain ⟨rest, whole⟩ := part
    have listed : (consumed ++ rest)[before.length]? = some record := by
      rw [whole, split]
      simp
    rwa [List.getElem?_append_left past] at listed
  rw [records]
  exact List.mem_map_of_mem (List.mem_of_getElem? found)

/-- Once its record has arrived, the id of the packet leads to its association. -/
theorem Kept.route (kept : self.Kept) (quiet : self.receiver.Quiescent .inline)
    (reply : self.Reply association call packet context origin)
    (unshared : self.sender.Unshared (wireId context.number)) {task : ControlTask}
    (here : self.receiver.controls association = some task) (running : task.running = true) :
    self.receiver.routes (wireId context.number) = some ⟨association, canonical packet.destination⟩ := by
  have read := kept.sound.record_read quiet here running reply.record
  exact kept.routed _ unshared association task here running _ read

/-- Every route announced for the id of the packet is the route of the packet. -/
theorem Sound.route_unique (sound : self.Sound)
    (reply : self.Reply association call packet context origin)
    (unshared : self.sender.Unshared (wireId context.number)) {route : IncomingUdpRoute}
    (announces : self.sender.Announces route (wireId context.number)) :
    route = ⟨association, canonical packet.destination⟩ := by
  obtain ⟨connection, found, used⟩ := reply.entered
  exact unshared _ _ announces (sound.valid.announces found used)

/-- What was delivered from the origin of the packet is the packet. -/
theorem Sound.onQueue (sound : self.Sound)
    (reply : self.Reply association call packet context origin)
    (unshared : self.sender.Unshared (wireId context.number))
    (delivered : ∃ entry ∈ self.receiver.log, entry.origin = origin) :
    self.OnQueue association packet origin := by
  obtain ⟨entry, member, rfl⟩ := delivered
  obtain ⟨_, _, _, _, _, called, _, _, carried, data, announces⟩ := sound.carried member
  obtain rfl := reply.carried.call_unique carried
  obtain rfl := Option.some.inj (reply.carried.context_unique carried)
  obtain ⟨rfl, rfl⟩ := SendCall.mk.inj (Option.some.inj (reply.called.symm.trans called))
  obtain ⟨rfl, destination⟩ := IncomingUdpRoute.mk.inj (sound.route_unique reply unshared announces)
  exact ⟨entry, member, rfl, rfl, by rw [← destination, ← data]⟩

theorem Kept.datagram_queued {source : Nat} (kept : self.Kept)
    (quiet : self.receiver.Quiescent .inline)
    (reply : self.Reply association call packet context (.datagram source))
    (unshared : self.sender.Unshared (wireId context.number))
    (unhindered : self.receiver.Unhindered association (.datagram source))
    (room : self.receiver.queued association < queueCapacity)
    (held : self.receiver.dropped association = false) :
    ∃ entry ∈ self.receiver.log, entry.origin = .datagram source := by
  have sound := kept.sound
  obtain ⟨datagram, found, _, used⟩ := reply.carried
  obtain rfl := Option.some.inj used
  obtain ⟨_, content, _, _, _, frame⟩ :=
    (sound.valid.datagram datagram (List.mem_of_getElem? found)).owner
  -- the loop has read it, since nothing holds the loop
  obtain ⟨task, here⟩ : ∃ task, self.receiver.datagrams source = some task := by
    rcases reply.arrived with inside | read
    · cases inbox : self.receiver.inbox with
      | nil =>
        rw [inbox] at inside
        contradiction
      | cons first rest =>
        have ready : self.receiver.ready .inline = true := by
          simp [Receiver.ready, unhindered.free inside]
        exact (quiet.blocks (.datagramRead _ _ _ inbox ready) rfl).elim
    · exact Option.ne_none_iff_exists'.mp read
  obtain ⟨⟨_, there, bytes⟩, announces⟩ := sound.datagrams source task here
  cases found.symm.trans there
  have id : datagramId task.bytes = wireId datagram.number := by
    rw [← bytes, frame, datagramId_idBytes]
  rw [id] at announces
  cases state : task.state with
  | waiting =>
    obtain ⟨control, listed, running⟩ := unhindered.opened ⟨task, here, state⟩
    have route := kept.route quiet reply unshared listed running
    exact (quiet.blocks (.routed _ _ _ here state (id ▸ route)) rfl).elim
  | sending other =>
    obtain rfl := sound.route_unique reply unshared (announces other state)
    exact (quiet.blocks (.delivered _ _ _ here state held room) rfl).elim
  | ended result =>
    rcases kept.outcomes.datagrams source task result here state with sent | short |
      ⟨other, known, gone⟩
    · exact sent
    · rw [← bytes, frame, List.length_append, idBytes, length_bigEndian] at short
      omega
    · obtain rfl := sound.route_unique reply unshared (id ▸ known)
      rw [held] at gone
      contradiction

theorem readU16_of_length {bytes : Bytes} (enough : 2 ≤ bytes.length) :
    ∃ id rest, readU16 bytes = .done id rest :=
  ⟨_, _, Reader.bind_done (if_pos enough)⟩

theorem Kept.packet_queued {stream index : Nat} (kept : self.Kept)
    (quiet : self.receiver.Quiescent .inline)
    (reply : self.Reply association call packet context (.packet stream index))
    (unshared : self.sender.Unshared (wireId context.number))
    (unhindered : self.receiver.Unhindered association (.packet stream index))
    (room : self.receiver.queued association < queueCapacity)
    (held : self.receiver.dropped association = false) :
    ∃ entry ∈ self.receiver.log, entry.origin = .packet stream index := by
  have sound := kept.sound
  obtain ⟨uni, data, found, written, used⟩ := reply.carried
  obtain rfl := Option.some.inj used
  obtain ⟨opened, _, again, enough⟩ := reply.arrived
  cases found.symm.trans again
  obtain ⟨task, here⟩ := Option.ne_none_iff_exists'.mp opened
  obtain ⟨_, there, bound, old⟩ := sound.streams stream task here
  cases found.symm.trans there
  have valid := sound.valid.uni stream uni found
  have length : (uni.stream.written.take (self.stream stream)).length = self.stream stream := by
    rw [List.length_take, Nat.min_eq_left bound]
  cases state : task.state with
  | unaccepted =>
    have free := unhindered.free ⟨task, here, state⟩
    have ready : self.receiver.ready .inline = true := by simp [Receiver.ready, free]
    exact (quiet.blocks (.accepted _ _ here state ready) rfl).elim
  | header =>
    rw [state] at old
    have long : 2 ≤ task.unread.length := by
      rw [← old.2, length]
      rw [List.length_append, idBytes, length_bigEndian] at enough
      omega
    obtain ⟨id, rest, read⟩ := readU16_of_length long
    exact (quiet.blocks (.idRead _ _ _ _ here state read) rfl).elim
  | waiting id =>
    rw [state] at old
    obtain ⟨_, rfl, _⟩ := old
    obtain ⟨control, listed, running⟩ := unhindered.opened ⟨task, _, here, state⟩
    have route := kept.route quiet reply unshared listed running
    exact (quiet.blocks (.streamRouted _ _ _ _ here state route) rfl).elim
  | reading other =>
    rw [state] at old
    have waits : readPacket task.unread = .more := by
      rcases old.next valid with more | ⟨_, _, read, _⟩
      · exact more
      · exact (quiet.blocks (.packetRead _ _ _ _ _ here state read) rfl).elim
    obtain ⟨_, frames, part, count, bytes⟩ := old
    obtain ⟨_, _, _, _, packets⟩ := valid.owner
    obtain ⟨small, last⟩ := List.getElem?_eq_some_iff.mp written
    have split : uni.packets = uni.packets.take index ++ (call, data) :: uni.packets.drop (index + 1) := by
      rw [← last, List.cons_getElem_drop_succ, List.take_append_drop]
    have arrived : frames.flatMap (encodePacket ·.2) ++ task.unread <+:
        uni.packets.flatMap (encodePacket ·.2) := by
      refine (List.prefix_append_right_inj (idBytes uni.number)).mp ?_
      rw [← bytes, ← valid.content]
      exact (List.take_prefix _ _).trans (List.prefix_append _ _)
    have decodes : ∀ entry ∈ uni.packets, ∀ rest,
        readPacket (encodePacket entry.2 ++ rest) = .done entry.2 rest :=
      fun entry member => readPacket_encodePacket (packets entry member).1
    have past := Reader.passed_of_more decodes part split arrived ?_ waits
    · rw [List.length_take, Nat.min_eq_left small.le, count] at past
      exact kept.outcomes.packets stream task here index past
    · have total := length
      rw [bytes, List.length_append] at total
      rw [← last, ← List.take_succ_eq_append_getElem small]
      rw [List.length_append] at enough
      omega
  | sending other content =>
    rw [state] at old
    obtain rfl := sound.route_unique reply unshared old.1
    exact (quiet.blocks (.packetDelivered _ _ _ _ here state held room) rfl).elim
  | ended result =>
    rcases kept.outcomes.streams stream task result here state with ⟨text, rfl⟩ |
      ⟨_, other, there, known, gone⟩
    · have past : index < task.count := by
        by_contra early
        exact unhindered.intact ⟨task, text, here, state, Nat.le_of_not_lt early⟩
      exact kept.outcomes.packets stream task here index past
    · cases found.symm.trans there
      obtain rfl := sound.route_unique reply unshared known
      rw [held] at gone
      contradiction

end Link

/-- Without a receive loop nothing is read: datagrams stay in the inbox, streams stay
unaccepted. -/
structure Receiver.Unserved (receiver : Receiver) : Prop where
  datagrams : ∀ source, receiver.datagrams source = none
  streams : ∀ stream task, receiver.streams stream = some task → task.state = .unaccepted

theorem receiveStep_unserved {self next : Receiver} {action : ReceiveAction} (unserved : self.Unserved)
    (stepped : receiveStep .absent self action = some next) : next.Unserved := by
  have idle : ∀ {source : Nat} {task : DatagramTask}, self.datagrams source = some task → False := by
    intro source task here
    rw [unserved.datagrams source] at here
    contradiction
  obtain ⟨loop, streams⟩ := receiveStep_loop stepped
  constructor
  · cases loop with
    | quiet _ datagrams => exact datagrams ▸ unserved.datagrams
    | arrived source bytes _ _ same => exact same ▸ unserved.datagrams
    | read source bytes rest _ _ ready => contradiction
    | routed source task route here => exact (idle here).elim
    | quit source task here => exact (idle here).elim
    | refused source task route here => exact (idle here).elim
    | delivered source task route here => exact (idle here).elim
  · intro stream task here
    cases streams.past here with
    | same there => exact unserved.streams stream task there
    | opened fresh => rw [fresh]
    | accepted earlier _ _ ready => contradiction
    | moved earlier there kept => exact kept (unserved.streams stream earlier there)

theorem run_unserved {actions : List LinkAction} {link : Link}
    (execution : Transition.run (linkStep .absent) .initial actions = some link) :
    link.receiver.Unserved := by
  refine Transition.run_invariant (P := fun link => link.receiver.Unserved) ?_ execution
    ⟨fun _ => rfl, fun _ _ here => absurd here (by simp [Link.initial, Receiver.initial])⟩
  intro before action after unserved stepped
  rcases linkStep_ends stepped with ⟨_, _, same⟩ | ⟨_, received, step⟩
  · exact same ▸ unserved
  · exact receiveStep_unserved unserved step

/-- A queue of a client without a receive loop stays empty. -/
theorem Link.Sound.log_unserved {self : Link} (sound : self.Sound) (unserved : self.receiver.Unserved) :
    self.receiver.log = [] := by
  refine List.eq_nil_iff_forall_not_mem.mpr fun entry member => ?_
  have known := sound.log entry member
  cases origin : entry.origin with
  | datagram source =>
    rw [origin] at known
    obtain ⟨_, task, _, _, here, _⟩ := known
    rw [unserved.datagrams source] at here
    contradiction
  | packet stream index =>
    rw [origin] at known
    obtain ⟨_, task, _, _, here, past, _⟩ := known
    obtain ⟨uni, _, _, old⟩ := sound.streams stream task here
    rw [unserved.streams stream task here] at old
    rw [old.1] at past
    contradiction

/-- Whatever was delivered met no hindrance. -/
theorem Link.Sound.unhindered {self : Link} (sound : self.Sound) {entry : Delivery}
    (member : entry ∈ self.receiver.log) (association : Nat) :
    self.receiver.Unhindered association entry.origin := by
  have known := sound.log entry member
  cases origin : entry.origin with
  | datagram source =>
    rw [origin] at known
    obtain ⟨_, task, result, _, here, ended, _⟩ := known
    refine ⟨fun unread => ?_, ?_, id⟩
    · obtain ⟨⟨_, bytes⟩, inside, rfl⟩ := List.mem_map.mp unread
      cases here.symm.trans (sound.inbox _ bytes inside).2
    · rintro ⟨other, there, waiting⟩
      cases here.symm.trans there
      cases ended.symm.trans waiting
  | packet stream index =>
    rw [origin] at known
    obtain ⟨_, task, _, _, here, past, _⟩ := known
    obtain ⟨uni, _, _, state⟩ := sound.streams stream task here
    refine ⟨?_, ?_, ?_⟩
    · rintro ⟨other, there, unaccepted⟩
      cases here.symm.trans there
      rw [unaccepted] at state
      have := state.1
      omega
    · rintro ⟨other, id, there, waiting⟩
      cases here.symm.trans there
      rw [waiting] at state
      have := state.1
      omega
    · rintro ⟨other, text, there, _, early⟩
      cases here.symm.trans there
      omega

/-- Once all tasks are blocked, a packet that has arrived together with its record, with an id of its own
and room on its queue, is on the queue exactly if the client authenticated the SunnyQUIC way and nothing
else hinders the packet. -/
theorem onQueue_iff_unhindered {authentication : ClientAuthentication} {actions : List LinkAction}
    {link : Link} {association call : Nat} {packet : ShadowQuicPacket} {context : OutgoingUdpContext}
    {origin : Origin}
    (execution : Transition.run (linkStep authentication.dispatch) .initial actions = some link)
    (quiet : link.receiver.Quiescent authentication.dispatch)
    (reply : link.Reply association call packet context origin)
    (unshared : link.sender.Unshared (wireId context.number))
    (room : link.receiver.queued association < queueCapacity)
    (held : link.receiver.dropped association = false) :
    link.OnQueue association packet origin ↔
      (∃ credential, authentication = .sunny credential) ∧
        link.receiver.Unhindered association origin := by
  cases authentication with
  | jls =>
    have empty := (run_sound execution).log_unserved (run_unserved execution)
    constructor
    · rintro ⟨entry, member, _⟩
      rw [empty] at member
      contradiction
    · rintro ⟨⟨_, sunny⟩, _⟩
      contradiction
  | sunny credential =>
    have kept := run_kept execution
    constructor
    · rintro ⟨entry, member, rfl, _⟩
      exact ⟨⟨credential, rfl⟩, kept.sound.unhindered member association⟩
    · rintro ⟨_, unhindered⟩
      refine kept.sound.onQueue reply unshared ?_
      cases origin with
      | datagram source => exact kept.datagram_queued quiet reply unshared unhindered room held
      | packet stream index => exact kept.packet_queued quiet reply unshared unhindered room held

end SingQuic.ShadowQuic
