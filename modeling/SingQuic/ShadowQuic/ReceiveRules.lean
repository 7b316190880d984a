import SingQuic.ShadowQuic.Receive

/-! The steps of the receiving half as rules, one for each way a step can go, with
everything it requires and the whole state it leads to. What is proved about a step
is proved from its rule. -/
namespace SingQuic.ShadowQuic
open Wire

namespace Receiver

/-- The delivery of the payload of a datagram along a route. -/
def delivery (source : Nat) (task : DatagramTask) (route : IncomingUdpRoute) : Delivery :=
  ⟨route.sender, ⟨task.bytes.drop 2, route.destination⟩, .datagram source⟩

/-- The delivery of the packet that the handler of a stream has read. -/
def streamDelivery (stream : Nat) (task : IncomingStream) (route : IncomingUdpRoute) (data : Bytes) :
    Delivery :=
  ⟨route.sender, ⟨data, route.destination⟩, .packet stream task.count⟩

inductive Rule (dispatch : Dispatch) (self : Receiver) : ReceiveAction → Receiver → Prop where
  | associated (association : Nat) (absent : self.controls association = none) :
      Rule dispatch self (.associate association) (self.setControl association ⟨[], [], true⟩)
  | controlArrived (association : Nat) (bytes : Bytes) (task : ControlTask)
      (here : self.controls association = some task) :
      Rule dispatch self (.arriveControl association bytes)
        (self.setControl association { task with unread := task.unread ++ bytes })
  | registered (association : Nat) (task : ControlTask) (destination : Address) (id : UInt16)
      (rest : Bytes) (here : self.controls association = some task) (running : task.running = true)
      (read : readRecord task.unread = .done (destination, id) rest) :
      Rule dispatch self (.record association) (self.register association task destination id rest)
  | garbled (association : Nat) (task : ControlTask) (error : Error)
      (here : self.controls association = some task) (running : task.running = true)
      (read : readRecord task.unread = .failed error) :
      Rule dispatch self (.record association) (self.teardown association task)
  | stopped (association : Nat) (task : ControlTask) (here : self.controls association = some task)
      (running : task.running = true) :
      Rule dispatch self (.stop association) (self.teardown association task)
  | datagramArrived (source : Nat) (bytes : Bytes) (absent : self.datagrams source = none)
      (new : source ∉ self.inbox.map Prod.fst) :
      Rule dispatch self (.arriveDatagram source bytes)
        { self with inbox := self.inbox ++ [(source, bytes)] }
  | datagramRead (source : Nat) (bytes : Bytes) (rest : List (Nat × Bytes))
      (first : self.inbox = (source, bytes) :: rest) (ready : self.ready dispatch = true) :
      Rule dispatch self .readDatagram
        ({ self with inbox := rest }.startDatagram dispatch source bytes)
  | routed (source : Nat) (task : DatagramTask) (route : IncomingUdpRoute)
      (here : self.datagrams source = some task) (waiting : task.state = .waiting)
      (found : self.routes (datagramId task.bytes) = some route) :
      Rule dispatch self (.route source)
        (self.setDatagram source { task with state := .sending route })
  | quit (source : Nat) (task : DatagramTask) (here : self.datagrams source = some task)
      (waiting : task.state = .waiting) (shut : self.closed = true) :
      Rule dispatch self (.quit source) (self.endDatagram source task (.error .closed))
  | refused (source : Nat) (task : DatagramTask) (route : IncomingUdpRoute)
      (here : self.datagrams source = some task) (sending : task.state = .sending route)
      (gone : self.dropped route.sender = true) :
      Rule dispatch self (.deliver source) (self.endDatagram source task (.error .closed))
  | delivered (source : Nat) (task : DatagramTask) (route : IncomingUdpRoute)
      (here : self.datagrams source = some task) (sending : task.state = .sending route)
      (held : self.dropped route.sender = false) (room : self.queued route.sender < queueCapacity) :
      Rule dispatch self (.deliver source)
        ((self.push (delivery source task route)).endDatagram source task (.ok ()))
  | streamArrived (stream : Nat) (absent : self.streams stream = none) :
      Rule dispatch self (.arriveStream stream) (self.setStream stream ⟨[], .unaccepted, 0⟩)
  | bytesArrived (stream : Nat) (bytes : Bytes) (task : IncomingStream)
      (here : self.streams stream = some task) :
      Rule dispatch self (.arriveBytes stream bytes)
        (self.setStream stream { task with unread := task.unread ++ bytes })
  | accepted (stream : Nat) (task : IncomingStream) (here : self.streams stream = some task)
      (waiting : task.state = .unaccepted) (ready : self.ready dispatch = true) :
      Rule dispatch self (.accept stream) (self.setStream stream { task with state := .header })
  | idRead (stream : Nat) (task : IncomingStream) (id : UInt16) (rest : Bytes)
      (here : self.streams stream = some task) (header : task.state = .header)
      (read : readU16 task.unread = .done id rest) :
      Rule dispatch self (.readId stream)
        (self.setStream stream { task with unread := rest, state := .waiting id })
  | streamRouted (stream : Nat) (task : IncomingStream) (id : UInt16) (route : IncomingUdpRoute)
      (here : self.streams stream = some task) (waiting : task.state = .waiting id)
      (found : self.routes id = some route) :
      Rule dispatch self (.routeStream stream)
        (self.setStream stream { task with state := .reading route })
  | streamQuit (stream : Nat) (task : IncomingStream) (id : UInt16)
      (here : self.streams stream = some task) (waiting : task.state = .waiting id)
      (shut : self.closed = true) :
      Rule dispatch self (.quitStream stream)
        (self.setStream stream { task with state := .ended (.error .closed) })
  | packetRead (stream : Nat) (task : IncomingStream) (route : IncomingUdpRoute) (data rest : Bytes)
      (here : self.streams stream = some task) (reading : task.state = .reading route)
      (read : readPacket task.unread = .done data rest) :
      Rule dispatch self (.readPacket stream)
        (self.setStream stream { task with unread := rest, state := .sending route data })
  | packetRefused (stream : Nat) (task : IncomingStream) (route : IncomingUdpRoute) (data : Bytes)
      (here : self.streams stream = some task) (sending : task.state = .sending route data)
      (gone : self.dropped route.sender = true) :
      Rule dispatch self (.deliverPacket stream)
        (self.setStream stream { task with state := .ended (.error .closed) })
  | packetDelivered (stream : Nat) (task : IncomingStream) (route : IncomingUdpRoute) (data : Bytes)
      (here : self.streams stream = some task) (sending : task.state = .sending route data)
      (held : self.dropped route.sender = false) (room : self.queued route.sender < queueCapacity) :
      Rule dispatch self (.deliverPacket stream)
        ((self.push (streamDelivery stream task route data)).setStream stream
          { task with state := .reading route, count := task.count + 1 })
  | streamFailed (stream : Nat) (text : String) (task : IncomingStream)
      (here : self.streams stream = some task)
      (reads : task.state = .header ∨ ∃ route, task.state = .reading route) :
      Rule dispatch self (.failStream stream text)
        (self.setStream stream { task with state := .ended (.error (.read text)) })
  | taken (association : Nat) (queued : 0 < self.queued association) :
      Rule dispatch self (.take association) { self with
        taken := Function.update self.taken association (self.taken association + 1) }
  | queueDropped (association : Nat) :
      Rule dispatch self (.dropQueue association) { self with
        dropped := Function.update self.dropped association true }
  | closed (spawned : dispatch = .spawned) : Rule dispatch self .close { self with closed := true }

theorem enqueue_cases {self : Receiver} {delivery : Delivery} {outcome : Result Receiver}
    (pushed : self.enqueue delivery = some outcome) :
    self.dropped delivery.association = true ∧ outcome = .error .closed ∨
      self.dropped delivery.association = false ∧ self.queued delivery.association < queueCapacity ∧
        outcome = .ok (self.push delivery) := by
  unfold enqueue at pushed
  split at pushed
  · rename_i gone
    exact Or.inl ⟨gone, (Option.some.inj pushed).symm⟩
  · rename_i held
    split at pushed
    · rename_i room
      exact Or.inr ⟨Bool.eq_false_of_not_eq_true held, room, (Option.some.inj pushed).symm⟩
    · contradiction

end Receiver

/-- Every step follows a rule. -/
theorem receiveStep_rule {dispatch : Dispatch} {self next : Receiver} {action : ReceiveAction}
    (stepped : receiveStep dispatch self action = some next) :
    Receiver.Rule dispatch self action next := by
  cases action with
  | associate association =>
    simp only [receiveStep] at stepped
    split at stepped
    · rename_i absent
      exact Option.some.inj stepped ▸ .associated association absent
    · contradiction
  | arriveControl association bytes =>
    obtain ⟨task, here, rfl⟩ := Option.map_eq_some_iff.mp stepped
    exact .controlArrived association bytes task here
  | record association =>
    obtain ⟨task, here, moved⟩ := Option.bind_eq_some_iff.mp stepped
    split at moved
    · rename_i running
      unfold Receiver.record at moved
      split at moved
      · contradiction
      · rename_i destination id rest read
        exact Option.some.inj moved ▸ .registered association task destination id rest here running read
      · rename_i error read
        exact Option.some.inj moved ▸ .garbled association task error here running read
    · contradiction
  | stop association =>
    obtain ⟨task, here, moved⟩ := Option.bind_eq_some_iff.mp stepped
    split at moved
    · rename_i running
      exact Option.some.inj moved ▸ .stopped association task here running
    · contradiction
  | arriveDatagram source bytes =>
    simp only [receiveStep] at stepped
    split at stepped
    · rename_i fresh
      exact Option.some.inj stepped ▸ .datagramArrived source bytes fresh.1 fresh.2
    · contradiction
  | readDatagram =>
    simp only [receiveStep] at stepped
    split at stepped
    · contradiction
    · rename_i source bytes rest first
      split at stepped
      · rename_i ready
        exact Option.some.inj stepped ▸ .datagramRead source bytes rest first ready
      · contradiction
  | route source =>
    obtain ⟨task, here, moved⟩ := Option.bind_eq_some_iff.mp stepped
    split at moved
    · rename_i waiting
      obtain ⟨route, found, rfl⟩ := Option.map_eq_some_iff.mp moved
      exact .routed source task route here waiting found
    · contradiction
  | quit source =>
    obtain ⟨task, here, moved⟩ := Option.bind_eq_some_iff.mp stepped
    split at moved
    · rename_i waits
      exact Option.some.inj moved ▸ .quit source task here waits.1 waits.2
    · contradiction
  | deliver source =>
    obtain ⟨task, here, moved⟩ := Option.bind_eq_some_iff.mp stepped
    split at moved
    · rename_i route sending
      obtain ⟨outcome, pushed, rfl⟩ := Option.map_eq_some_iff.mp moved
      rcases Receiver.enqueue_cases pushed with ⟨gone, rfl⟩ | ⟨held, room, rfl⟩
      · exact .refused source task route here sending gone
      · exact .delivered source task route here sending held room
    · contradiction
  | arriveStream stream =>
    simp only [receiveStep] at stepped
    split at stepped
    · rename_i absent
      exact Option.some.inj stepped ▸ .streamArrived stream absent
    · contradiction
  | arriveBytes stream bytes =>
    obtain ⟨task, here, rfl⟩ := Option.map_eq_some_iff.mp stepped
    exact .bytesArrived stream bytes task here
  | accept stream =>
    obtain ⟨task, here, moved⟩ := Option.bind_eq_some_iff.mp stepped
    split at moved
    · rename_i waits
      exact Option.some.inj moved ▸ .accepted stream task here waits.1 waits.2
    · contradiction
  | readId stream =>
    obtain ⟨task, here, moved⟩ := Option.bind_eq_some_iff.mp stepped
    split at moved
    · rename_i id rest header read
      exact Option.some.inj moved ▸ .idRead stream task id rest here header read
    · contradiction
  | routeStream stream =>
    obtain ⟨task, here, moved⟩ := Option.bind_eq_some_iff.mp stepped
    split at moved
    · rename_i id waiting
      obtain ⟨route, found, rfl⟩ := Option.map_eq_some_iff.mp moved
      exact .streamRouted stream task id route here waiting found
    · contradiction
  | quitStream stream =>
    obtain ⟨task, here, moved⟩ := Option.bind_eq_some_iff.mp stepped
    split at moved
    · rename_i id waiting
      split at moved
      · rename_i shut
        exact Option.some.inj moved ▸ .streamQuit stream task id here waiting shut
      · contradiction
    · contradiction
  | readPacket stream =>
    obtain ⟨task, here, moved⟩ := Option.bind_eq_some_iff.mp stepped
    split at moved
    · rename_i route data rest reading read
      exact Option.some.inj moved ▸ .packetRead stream task route data rest here reading read
    · contradiction
  | deliverPacket stream =>
    obtain ⟨task, here, moved⟩ := Option.bind_eq_some_iff.mp stepped
    split at moved
    · rename_i route data sending
      obtain ⟨outcome, pushed, rfl⟩ := Option.map_eq_some_iff.mp moved
      rcases Receiver.enqueue_cases pushed with ⟨gone, rfl⟩ | ⟨held, room, rfl⟩
      · exact .packetRefused stream task route data here sending gone
      · exact .packetDelivered stream task route data here sending held room
    · contradiction
  | failStream stream text =>
    obtain ⟨task, here, moved⟩ := Option.bind_eq_some_iff.mp stepped
    split at moved
    · rename_i header
      exact Option.some.inj moved ▸ .streamFailed stream text task here (Or.inl header)
    · rename_i route reading
      exact Option.some.inj moved ▸ .streamFailed stream text task here (Or.inr ⟨route, reading⟩)
    · contradiction
  | take association =>
    simp only [receiveStep] at stepped
    split at stepped
    · rename_i queued
      exact Option.some.inj stepped ▸ .taken association queued
    · contradiction
  | dropQueue association => exact Option.some.inj stepped ▸ .queueDropped association
  | close =>
    simp only [receiveStep] at stepped
    split at stepped
    · rename_i spawned
      exact Option.some.inj stepped ▸ .closed spawned
    · contradiction

/-- Every rule can be followed. -/
theorem Receiver.Rule.step {dispatch : Dispatch} {self next : Receiver} {action : ReceiveAction}
    (rule : Rule dispatch self action next) : receiveStep dispatch self action = some next := by
  cases rule with
  | associated association absent => simp only [receiveStep, absent]
  | controlArrived association bytes task here => simp only [receiveStep, here, Option.map_some]
  | registered association task destination id rest here running read =>
    simp only [receiveStep, here, Option.bind_some, if_pos running, record, read]
  | garbled association task error here running read =>
    simp only [receiveStep, here, Option.bind_some, if_pos running, record, read]
  | stopped association task here running =>
    simp only [receiveStep, here, Option.bind_some, if_pos running]
  | datagramArrived source bytes absent new => exact if_pos ⟨absent, new⟩
  | datagramRead source bytes rest first ready => simp only [receiveStep, first, if_pos ready]
  | routed source task route here waiting found =>
    simp only [receiveStep, here, Option.bind_some, if_pos waiting, datagramStep, found, Option.map_some]
  | quit source task here waiting shut =>
    simp only [receiveStep, here, Option.bind_some, if_pos (And.intro waiting shut)]
  | refused source task route here sending gone =>
    simp only [receiveStep, here, Option.bind_some, sending, datagramStep, enqueue, if_pos gone,
      Option.map_some]
  | delivered source task route here sending held room =>
    simp only [receiveStep, here, Option.bind_some, sending, datagramStep, enqueue, held, if_pos room,
      Bool.false_eq_true, if_false, Option.map_some, delivery]
  | streamArrived stream absent => simp only [receiveStep, absent]
  | bytesArrived stream bytes task here => simp only [receiveStep, here, Option.map_some]
  | accepted stream task here waiting ready =>
    simp only [receiveStep, here, Option.bind_some, if_pos (And.intro waiting ready)]
  | idRead stream task id rest here header read =>
    simp only [receiveStep, here, Option.bind_some, header, read]
  | streamRouted stream task id route here waiting found =>
    simp only [receiveStep, here, Option.bind_some, waiting, found, Option.map_some]
  | streamQuit stream task id here waiting shut =>
    simp only [receiveStep, here, Option.bind_some, waiting, if_pos shut]
  | packetRead stream task route data rest here reading read =>
    simp only [receiveStep, here, Option.bind_some, reading, read]
  | packetRefused stream task route data here sending gone =>
    simp only [receiveStep, here, Option.bind_some, sending, deliverPacket, enqueue, if_pos gone,
      Option.map_some]
  | packetDelivered stream task route data here sending held room =>
    simp only [receiveStep, here, Option.bind_some, sending, deliverPacket, enqueue, held, if_pos room,
      Bool.false_eq_true, if_false, Option.map_some, streamDelivery]
  | streamFailed stream text task here reads =>
    rcases reads with header | ⟨route, reading⟩
    · simp only [receiveStep, here, Option.bind_some, header]
    · simp only [receiveStep, here, Option.bind_some, reading]
  | taken association queued => exact if_pos queued
  | queueDropped association => rfl
  | closed spawned => exact if_pos spawned

/-- The application can make room on any queue. -/
theorem Receiver.can_drain (dispatch : Dispatch) (ok : Receiver → ReceiveAction → Prop) (self : Receiver)
    (association : Nat) (quiet : ∀ state, ok state (.take association)) :
    ∃ taken, Transition.Can (receiveStep dispatch) ok self { self with taken } ∧
      { self with taken }.queued association < queueCapacity := by
  induction size : self.queued association using Nat.strong_induction_on generalizing self with
  | _ size ih =>
    by_cases room : self.queued association < queueCapacity
    · exact ⟨self.taken, .refl, room⟩
    · have some' : 0 < self.queued association := by
        have := Nat.le_of_not_lt room
        exact lt_of_lt_of_le (by decide) this
      let next : Receiver := { self with
        taken := Function.update self.taken association (self.taken association + 1) }
      have fewer : next.queued association = self.queued association - 1 := by
        simp only [queued, next, Function.update_self]
        omega
      obtain ⟨taken, can, done⟩ := ih (next.queued association) (by omega) next rfl
      exact ⟨taken, .head (quiet self) (Rule.taken association some').step can, done⟩

end SingQuic.ShadowQuic
