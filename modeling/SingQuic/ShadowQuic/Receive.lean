import SingQuic.ShadowQuic.Send
import SingQuic.ShadowQuic.Registry

/-! The receiving half of SQuic UDP: the tasks that read control streams, and the
handlers of datagrams and unidirectional streams. A call of `wait` is one step here,
taken when the route is there or the registry closed: no wake-up is ever lost. -/
namespace SingQuic.ShadowQuic
open Wire

/-- Who handles what arrives: a task for each datagram, the receive loop itself, or
nobody, if no receive loop was started. -/
inductive Dispatch where
  | spawned
  | inline
  | absent
  deriving DecidableEq, Repr

/-- A `handle_udp_control_stream` task with the records it has registered. -/
structure ControlTask where
  unread : Bytes
  records : List (Address × UInt16)
  running : Bool
  deriving DecidableEq, Repr

def ControlTask.ids (self : ControlTask) : List UInt16 := self.records.map Prod.snd

inductive DatagramState where
  | waiting
  | sending (route : IncomingUdpRoute)
  | ended (result : Result Unit)
  deriving DecidableEq, Repr

/-- A call of `handle_incoming_udp_datagram`. -/
structure DatagramTask where
  bytes : Bytes
  state : DatagramState
  deriving DecidableEq, Repr

inductive StreamState where
  | unaccepted
  | header
  | waiting (id : UInt16)
  | reading (route : IncomingUdpRoute)
  | sending (route : IncomingUdpRoute) (data : Bytes)
  | ended (result : Result Unit)
  deriving DecidableEq, Repr

/-- A unidirectional stream and, once accepted, its `handle_incoming_udp_stream`
task, which has delivered `count` packets. -/
structure IncomingStream where
  unread : Bytes
  state : StreamState
  count : Nat
  deriving DecidableEq, Repr

/-- Which datagram, or which packet of which stream, a delivery came from. -/
inductive Origin where
  | datagram (source : Nat)
  | packet (stream index : Nat)
  deriving DecidableEq, Repr

/-- A packet put on the queue of an association. -/
structure Delivery where
  association : Nat
  packet : ShadowQuicPacket
  origin : Origin
  deriving DecidableEq, Repr

/-- `hand` is the datagram the receive loop is busy with when it handles datagrams
itself. `log` is the history of all queues, of which the application has `taken`
some and `dropped` some entirely. -/
structure Receiver where
  routes : UInt16 → Option IncomingUdpRoute
  closed : Bool
  controls : Nat → Option ControlTask
  inbox : List (Nat × Bytes)
  datagrams : Nat → Option DatagramTask
  streams : Nat → Option IncomingStream
  hand : Option Nat
  log : List Delivery
  taken : Nat → Nat
  dropped : Nat → Bool

inductive ReceiveAction where
  | associate (association : Nat)
  | arriveControl (association : Nat) (bytes : Bytes)
  | record (association : Nat)
  | stop (association : Nat)
  | arriveDatagram (source : Nat) (bytes : Bytes)
  | readDatagram
  | route (source : Nat)
  | quit (source : Nat)
  | deliver (source : Nat)
  | arriveStream (stream : Nat)
  | arriveBytes (stream : Nat) (bytes : Bytes)
  | accept (stream : Nat)
  | readId (stream : Nat)
  | routeStream (stream : Nat)
  | quitStream (stream : Nat)
  | readPacket (stream : Nat)
  | deliverPacket (stream : Nat)
  | failStream (stream : Nat) (text : String)
  | take (association : Nat)
  | dropQueue (association : Nat)
  | close

def queueCapacity : Nat := 256

/-- The id a datagram is addressed to. -/
def datagramId (bytes : Bytes) : UInt16 := UInt16.ofNat (ofBigEndian (bytes.take 2))

namespace Receiver

def initial : Receiver :=
  ⟨fun _ => none, false, fun _ => none, [], fun _ => none, fun _ => none, none, [], fun _ => 0,
    fun _ => false⟩

/-- The packets on the queue of an association that were not taken yet. -/
def queued (self : Receiver) (association : Nat) : Nat :=
  (self.log.filter (·.association = association)).length - self.taken association

def setControl (self : Receiver) (association : Nat) (task : ControlTask) : Receiver :=
  { self with controls := Function.update self.controls association (some task) }

def setDatagram (self : Receiver) (source : Nat) (task : DatagramTask) : Receiver :=
  { self with datagrams := Function.update self.datagrams source (some task) }

def setStream (self : Receiver) (stream : Nat) (task : IncomingStream) : Receiver :=
  { self with streams := Function.update self.streams stream (some task) }

section Update
variable (self : Receiver) {index other : Nat}

@[simp] theorem setControl_self (task : ControlTask) :
    (self.setControl index task).controls index = some task := Function.update_self _ _ _

@[simp] theorem setDatagram_self (task : DatagramTask) :
    (self.setDatagram index task).datagrams index = some task := Function.update_self _ _ _

@[simp] theorem setStream_self (task : IncomingStream) :
    (self.setStream index task).streams index = some task := Function.update_self _ _ _

theorem setControl_ne (different : other ≠ index) (task : ControlTask) :
    (self.setControl index task).controls other = self.controls other :=
  Function.update_of_ne different _ _

theorem setDatagram_ne (different : other ≠ index) (task : DatagramTask) :
    (self.setDatagram index task).datagrams other = self.datagrams other :=
  Function.update_of_ne different _ _

theorem setStream_ne (different : other ≠ index) (task : IncomingStream) :
    (self.setStream index task).streams other = self.streams other :=
  Function.update_of_ne different _ _

end Update

def push (self : Receiver) (delivery : Delivery) : Receiver :=
  { self with log := self.log ++ [delivery] }

/-- `register`, and the id is remembered for the teardown. -/
def register (self : Receiver) (association : Nat) (task : ControlTask) (destination : Address)
    (id : UInt16) (rest : Bytes) : Receiver :=
  { self.setControl association { task with
      unread := rest, records := task.records ++ [(destination, id)] } with
    routes := Function.update self.routes id (some ⟨association, destination⟩) }

/-- The task ends and removes every id it has registered, whoever owns it now. -/
def teardown (self : Receiver) (association : Nat) (task : ControlTask) : Receiver :=
  { self.setControl association { task with running := false } with
    routes := fun id => if id ∈ task.ids then none else self.routes id }

/-- One round of `handle_udp_control_stream`. -/
def record (self : Receiver) (association : Nat) (task : ControlTask) : Option Receiver :=
  match readRecord task.unread with
  | .more => none
  | .done (destination, id) rest => some (self.register association task destination id rest)
  | .failed _ => some (self.teardown association task)

/-- Whether the receive loop is at its `select!`. -/
def ready (self : Receiver) : Dispatch → Bool
  | .spawned => true
  | .inline => self.hand.isNone
  | .absent => false

/-- A datagram handler returns; if it ran in the receive loop, the loop goes on. -/
def endDatagram (self : Receiver) (source : Nat) (task : DatagramTask) (result : Result Unit) :
    Receiver :=
  { self.setDatagram source { task with state := .ended result } with
    hand := if self.hand = some source then none else self.hand }

/-- The loop takes the next datagram and calls its handler, or spawns it. -/
def startDatagram (self : Receiver) (dispatch : Dispatch) (source : Nat) (bytes : Bytes) : Receiver :=
  if bytes.length < 2 then
    self.setDatagram source
      ⟨bytes, .ended (.error (.protocol "truncated ShadowQuic UDP datagram"))⟩
  else
    { self.setDatagram source ⟨bytes, .waiting⟩ with
      hand := if dispatch = .inline then some source else self.hand }

/-- `sender.send`: fails on a dropped queue, blocks on a full one. -/
def enqueue (self : Receiver) (delivery : Delivery) : Option (Result Receiver) :=
  if self.dropped delivery.association then some (.error .closed)
  else if self.queued delivery.association < queueCapacity then some (.ok (self.push delivery))
  else none

/-- A step of the handler of one datagram. -/
def datagramStep (self : Receiver) (source : Nat) (task : DatagramTask) : DatagramState → Option Receiver
  | .waiting =>
    (self.routes (datagramId task.bytes)).map fun route =>
      self.setDatagram source { task with state := .sending route }
  | .sending route =>
    (self.enqueue ⟨route.sender, ⟨task.bytes.drop 2, route.destination⟩, .datagram source⟩).map fun
      | .ok next => next.endDatagram source task (.ok ())
      | .error error => self.endDatagram source task (.error error)
  | .ended _ => none

/-- The packet in hand goes onto the queue, and the task reads on. -/
def deliverPacket (self : Receiver) (stream : Nat) (task : IncomingStream) (route : IncomingUdpRoute)
    (data : Bytes) : Option Receiver :=
  (self.enqueue ⟨route.sender, ⟨data, route.destination⟩, .packet stream task.count⟩).map fun
    | .ok next => next.setStream stream { task with state := .reading route, count := task.count + 1 }
    | .error error => self.setStream stream { task with state := .ended (.error error) }

end Receiver

def receiveStep (dispatch : Dispatch) (self : Receiver) : ReceiveAction → Option Receiver
  | .associate association =>
    match self.controls association with
    | none => some (self.setControl association ⟨[], [], true⟩)
    | some _ => none
  | .arriveControl association bytes =>
    (self.controls association).map fun task =>
      self.setControl association { task with unread := task.unread ++ bytes }
  | .record association =>
    (self.controls association).bind fun task =>
      if task.running then self.record association task else none
  | .stop association =>
    (self.controls association).bind fun task =>
      if task.running then some (self.teardown association task) else none
  | .arriveDatagram source bytes =>
    if self.datagrams source = none ∧ source ∉ self.inbox.map Prod.fst then
      some { self with inbox := self.inbox ++ [(source, bytes)] }
    else none
  | .readDatagram =>
    match self.inbox with
    | [] => none
    | (source, bytes) :: rest =>
      if self.ready dispatch then
        some ({ self with inbox := rest }.startDatagram dispatch source bytes)
      else none
  | .route source =>
    (self.datagrams source).bind fun task =>
      if task.state = .waiting then self.datagramStep source task .waiting else none
  | .quit source =>
    (self.datagrams source).bind fun task =>
      if task.state = .waiting ∧ self.closed then
        some (self.endDatagram source task (.error .closed))
      else none
  | .deliver source =>
    (self.datagrams source).bind fun task =>
      match task.state with
      | .sending route => self.datagramStep source task (.sending route)
      | _ => none
  | .arriveStream stream =>
    match self.streams stream with
    | none => some (self.setStream stream ⟨[], .unaccepted, 0⟩)
    | some _ => none
  | .arriveBytes stream bytes =>
    (self.streams stream).map fun task =>
      self.setStream stream { task with unread := task.unread ++ bytes }
  | .accept stream =>
    (self.streams stream).bind fun task =>
      if task.state = .unaccepted ∧ self.ready dispatch then
        some (self.setStream stream { task with state := .header })
      else none
  | .readId stream =>
    (self.streams stream).bind fun task =>
      match task.state, readU16 task.unread with
      | .header, .done id rest =>
        some (self.setStream stream { task with unread := rest, state := .waiting id })
      | _, _ => none
  | .routeStream stream =>
    (self.streams stream).bind fun task =>
      match task.state with
      | .waiting id => (self.routes id).map fun route =>
          self.setStream stream { task with state := .reading route }
      | _ => none
  | .quitStream stream =>
    (self.streams stream).bind fun task =>
      match task.state with
      | .waiting _ =>
        if self.closed then
          some (self.setStream stream { task with state := .ended (.error .closed) })
        else none
      | _ => none
  | .readPacket stream =>
    (self.streams stream).bind fun task =>
      match task.state, ShadowQuic.readPacket task.unread with
      | .reading route, .done data rest =>
        some (self.setStream stream { task with unread := rest, state := .sending route data })
      | _, _ => none
  | .deliverPacket stream =>
    (self.streams stream).bind fun task =>
      match task.state with
      | .sending route data => self.deliverPacket stream task route data
      | _ => none
  | .failStream stream text =>
    (self.streams stream).bind fun task =>
      match task.state with
      | .header | .reading _ =>
        some (self.setStream stream { task with state := .ended (.error (.read text)) })
      | _ => none
  | .take association =>
    if 0 < self.queued association then
      some { self with taken := Function.update self.taken association (self.taken association + 1) }
    else none
  | .dropQueue association =>
    some { self with dropped := Function.update self.dropped association true }
  | .close =>
    -- only `serve_connection` closes its registry; the client's loop never does
    if dispatch = .spawned then some { self with closed := true } else none

end SingQuic.ShadowQuic
