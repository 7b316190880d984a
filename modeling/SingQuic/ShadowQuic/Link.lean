import SingQuic.ShadowQuic.SendInvariant
import SingQuic.ShadowQuic.SendHistory
import SingQuic.ShadowQuic.Teardown

/-! One direction of a QUIC connection between the packet connections of one peer
and the receive tasks of the other. Streams are reliable and ordered: what arrives
is the next part of what was written. A datagram arrives at most once, in any order
and perhaps never. -/
namespace SingQuic.ShadowQuic
open Wire

/-- `control` and `stream` count the bytes of each stream that have arrived. -/
structure Link where
  sender : Sender
  receiver : Receiver
  control : Nat → Nat
  stream : Nat → Nat

inductive LinkAction where
  | send (action : SendAction)
  | receive (action : ReceiveAction)
  | controlArrives (association count : Nat)
  | datagramArrives (source : Nat)
  | streamArrives (stream : Nat)
  | bytesArrive (stream count : Nat)

/-- Whether an action of the receiving side is the network's and not its own. -/
def ReceiveAction.arrival : ReceiveAction → Bool
  | .arriveControl _ _ | .arriveDatagram _ _ | .arriveStream _ | .arriveBytes _ _ => true
  | _ => false

namespace Link

def initial : Link := ⟨.initial, .initial, fun _ => 0, fun _ => 0⟩

end Link

/-- The bytes that come next on a stream of which some have arrived. -/
def upcoming (written : Bytes) (arrived count : Nat) : Bytes := (written.drop arrived).take count

def linkStep (dispatch : Dispatch) (self : Link) : LinkAction → Option Link
  | .send action => (sendStep self.sender action).map fun sender => { self with sender }
  | .receive action =>
    if action.arrival then none
    else (receiveStep dispatch self.receiver action).map fun receiver => { self with receiver }
  | .controlArrives association count =>
    (self.sender.connections[association]?).bind fun connection =>
      let bytes := upcoming connection.control.written (self.control association) count
      (receiveStep dispatch self.receiver (.arriveControl association bytes)).map fun receiver =>
        { self with receiver, control :=
            Function.update self.control association (self.control association + bytes.length) }
  | .datagramArrives source =>
    (self.sender.datagrams[source]?).bind fun datagram =>
      (receiveStep dispatch self.receiver (.arriveDatagram source datagram.frame)).map fun receiver =>
        { self with receiver }
  | .streamArrives stream =>
    (self.sender.unis[stream]?).bind fun _ =>
      (receiveStep dispatch self.receiver (.arriveStream stream)).map fun receiver =>
        { self with receiver }
  | .bytesArrive stream count =>
    (self.sender.unis[stream]?).bind fun uni =>
      let bytes := upcoming uni.stream.written (self.stream stream) count
      (receiveStep dispatch self.receiver (.arriveBytes stream bytes)).map fun receiver =>
        { self with receiver, stream :=
            Function.update self.stream stream (self.stream stream + bytes.length) }

namespace Sender

/-- The history of a control stream; empty before the association is there. -/
def records (self : Sender) (association : Nat) : List (Address × Nat) :=
  (self.connections[association]?).elim [] (·.records)

/-- The bytes of a control stream that may arrive. -/
def controlBytes (self : Sender) (association : Nat) : Bytes :=
  (self.connections[association]?).elim [] (·.control.written)

end Sender

/-- A record as the peer reads it. -/
def announced (record : Address × Nat) : Address × UInt16 := (canonical record.1, wireId record.2)

theorem readRecord_recordBytes {record : Address × Nat}
    (encodable : ∃ address, encodeAddress record.1 = .ok address) (rest : Bytes) :
    readRecord (recordBytes record ++ rest) = .done (announced record) rest := by
  obtain ⟨address, encoded⟩ := encodable
  rw [recordBytes, encoded]
  exact readRecord_encodeRecord encoded _ rest

/-- The route stands on the control stream of its association. -/
def Sender.Announces (self : Sender) (route : IncomingUdpRoute) (id : UInt16) : Prop :=
  ∃ record ∈ self.records route.sender, announced record = (route.destination, id)

/-- Every record with this id leads to the same place. -/
def Sender.Unshared (self : Sender) (id : UInt16) : Prop :=
  ∀ route other, self.Announces route id → self.Announces other id → route = other

/-- What a control task has registered is the beginning of what was announced, and
its unread bytes are what comes after that. -/
def ControlSound (sender : Sender) (association arrived : Nat) (task : ControlTask) : Prop :=
  ∃ consumed, consumed <+: sender.records association ∧ task.records = consumed.map announced ∧
    (sender.controlBytes association).take arrived = consumed.flatMap recordBytes ++ task.unread

def DatagramSound (sender : Sender) (source : Nat) (task : DatagramTask) : Prop :=
  (∃ datagram, sender.datagrams[source]? = some datagram ∧ datagram.frame = task.bytes) ∧
    ∀ route, task.state = .sending route → sender.Announces route (datagramId task.bytes)

/-- The handler of a stream has delivered the first packets written to it, in order,
and what it still has to read comes right after them. -/
def StreamSound (sender : Sender) (uni : UniStream) (arrived : Bytes) (task : IncomingStream) :
    StreamState → Prop
  | .unaccepted | .header => task.count = 0 ∧ arrived = task.unread
  | .waiting id =>
    task.count = 0 ∧ id = wireId uni.number ∧ arrived = idBytes uni.number ++ task.unread
  | .reading route => sender.Announces route (wireId uni.number) ∧
    ∃ frames, frames <+: uni.packets ∧ frames.length = task.count ∧
      arrived = idBytes uni.number ++ (frames.flatMap (encodePacket ·.2) ++ task.unread)
  | .sending route data => sender.Announces route (wireId uni.number) ∧
    ∃ frames call, frames ++ [(call, data)] <+: uni.packets ∧ frames.length = task.count ∧
      arrived = idBytes uni.number ++
        ((frames ++ [(call, data)]).flatMap (encodePacket ·.2) ++ task.unread)
  | .ended _ => True

/-- Two deliveries never have the same origin, and packets of one stream come in
the order of the stream. -/
def Origin.Before : Origin → Origin → Prop
  | .datagram source, .datagram other => source ≠ other
  | .packet stream index, .packet stream' index' => stream = stream' → index < index'
  | _, _ => True

/-- Where the packet of a delivery comes from. Its origin will not deliver again:
the handler of the datagram has ended, that of the stream is past the packet. -/
def Delivered (sender : Sender) (receiver : Receiver) (delivery : Delivery) : Origin → Prop
  | .datagram source => ∃ datagram task result, sender.datagrams[source]? = some datagram ∧
    receiver.datagrams source = some task ∧ task.state = .ended result ∧
    delivery.packet.data = datagram.frame.drop 2 ∧
    sender.Announces ⟨delivery.association, delivery.packet.destination⟩ (datagramId datagram.frame)
  | .packet stream index => ∃ uni task call, sender.unis[stream]? = some uni ∧
    receiver.streams stream = some task ∧ index < task.count ∧
    uni.packets[index]? = some (call, delivery.packet.data) ∧
    sender.Announces ⟨delivery.association, delivery.packet.destination⟩ (wireId uni.number)

structure Link.Sound (link : Link) : Prop where
  valid : link.sender.Valid
  controls : ∀ association task, link.receiver.controls association = some task →
    ControlSound link.sender association (link.control association) task
  controlBound : ∀ association,
    link.control association ≤ (link.sender.controlBytes association).length
  unopened : ∀ association, link.receiver.controls association = none → link.control association = 0
  routes : ∀ id route, link.receiver.routes id = some route → link.sender.Announces route id
  inbox : ∀ source bytes, (source, bytes) ∈ link.receiver.inbox →
    (∃ datagram, link.sender.datagrams[source]? = some datagram ∧ datagram.frame = bytes) ∧
      link.receiver.datagrams source = none
  once : (link.receiver.inbox.map Prod.fst).Nodup
  datagrams : ∀ source task, link.receiver.datagrams source = some task →
    DatagramSound link.sender source task
  streams : ∀ stream task, link.receiver.streams stream = some task →
    ∃ uni, link.sender.unis[stream]? = some uni ∧
      link.stream stream ≤ uni.stream.written.length ∧
      StreamSound link.sender uni (uni.stream.written.take (link.stream stream)) task task.state
  unseen : ∀ stream, link.receiver.streams stream = none → link.stream stream = 0
  log : ∀ delivery ∈ link.receiver.log,
    Delivered link.sender link.receiver delivery delivery.origin
  order : link.receiver.log.Pairwise fun earlier later => earlier.origin.Before later.origin

section Growth
variable {sender next : Sender}

theorem Sender.Grows.records (grows : sender.Grows next) (association : Nat) :
    sender.records association <+: next.records association := by
  unfold Sender.records
  cases found : sender.connections[association]? with
  | none => exact List.nil_prefix
  | some connection =>
    obtain ⟨later, there, longer⟩ := grows.connections found
    rw [there]
    exact longer.1

theorem Sender.Grows.controlBytes (grows : sender.Grows next) (association : Nat) :
    sender.controlBytes association <+: next.controlBytes association := by
  unfold Sender.controlBytes
  cases found : sender.connections[association]? with
  | none => exact List.nil_prefix
  | some connection =>
    obtain ⟨later, there, longer⟩ := grows.connections found
    rw [there]
    exact longer.2

theorem Sender.Announces.mono (grows : sender.Grows next) {route : IncomingUdpRoute} {id : UInt16}
    (announces : sender.Announces route id) : next.Announces route id := by
  obtain ⟨record, member, same⟩ := announces
  exact ⟨record, (grows.records _).subset member, same⟩

theorem Sender.Unshared.mono (grows : sender.Grows next) {id : UInt16} (unshared : next.Unshared id) :
    sender.Unshared id :=
  fun route other one two => unshared route other (one.mono grows) (two.mono grows)

/-- What has arrived of a stream stays the same when more is written to it. -/
theorem take_of_longer {bytes more : Bytes} (longer : bytes <+: more) {count : Nat}
    (bound : count ≤ bytes.length) : more.take count = bytes.take count := by
  obtain ⟨rest, rfl⟩ := longer
  exact List.take_append_of_le_length bound

theorem StreamSound.mono (grows : sender.Grows next) {uni later : UniStream}
    (longer : Sender.LongerUni uni later) {arrived : Bytes} {task : IncomingStream}
    {state : StreamState} (sound : StreamSound sender uni arrived task state) :
    StreamSound next later arrived task state := by
  obtain ⟨number, packets, _⟩ := longer
  cases state with
  | unaccepted => exact sound
  | header => exact sound
  | waiting id => simpa only [StreamSound, number] using sound
  | reading route =>
    obtain ⟨announces, frames, part, rest⟩ := sound
    simp only [StreamSound, number]
    exact ⟨announces.mono grows, frames, part.trans packets, rest⟩
  | sending route data =>
    obtain ⟨announces, frames, call, part, rest⟩ := sound
    simp only [StreamSound, number]
    exact ⟨announces.mono grows, frames, call, part.trans packets, rest⟩
  | ended result => trivial

theorem Delivered.mono (grows : sender.Grows next) {receiver : Receiver} {delivery : Delivery}
    {origin : Origin} (delivered : Delivered sender receiver delivery origin) :
    Delivered next receiver delivery origin := by
  cases origin with
  | datagram source =>
    obtain ⟨datagram, task, result, found, here, ended, data, announces⟩ := delivered
    exact ⟨datagram, task, result, Table.kept grows.datagrams found, here, ended, data,
      announces.mono grows⟩
  | packet stream index =>
    obtain ⟨uni, task, call, found, here, past, data, announces⟩ := delivered
    obtain ⟨later, there, number, packets, _⟩ := grows.unis found
    exact ⟨later, task, call, there, here, past, Table.kept packets data,
      number ▸ announces.mono grows⟩

theorem Link.Sound.send {self : Link} (sound : self.Sound) (grows : self.sender.Grows next)
    (valid : next.Valid) : { self with sender := next }.Sound where
  valid := valid
  controls association task here := by
    obtain ⟨consumed, part, records, bytes⟩ := sound.controls association task here
    refine ⟨consumed, part.trans (grows.records association), records, ?_⟩
    rw [take_of_longer (grows.controlBytes association) (sound.controlBound association), bytes]
  controlBound association :=
    (sound.controlBound association).trans (grows.controlBytes association).length_le
  unopened := sound.unopened
  routes id route found := (sound.routes id route found).mono grows
  inbox source bytes member := by
    obtain ⟨⟨datagram, found, frame⟩, fresh⟩ := sound.inbox source bytes member
    exact ⟨⟨datagram, Table.kept grows.datagrams found, frame⟩, fresh⟩
  once := sound.once
  datagrams source task here := by
    obtain ⟨⟨datagram, found, frame⟩, announces⟩ := sound.datagrams source task here
    exact ⟨⟨datagram, Table.kept grows.datagrams found, frame⟩,
      fun route sending => (announces route sending).mono grows⟩
  streams stream task here := by
    obtain ⟨uni, found, bound, rest⟩ := sound.streams stream task here
    obtain ⟨later, there, longer⟩ := grows.unis found
    refine ⟨later, there, bound.trans longer.2.2.length_le, ?_⟩
    dsimp only
    rw [take_of_longer longer.2.2 bound]
    exact rest.mono grows longer
  unseen := sound.unseen
  log delivery member := (sound.log delivery member).mono grows
  order := sound.order

end Growth

end SingQuic.ShadowQuic
