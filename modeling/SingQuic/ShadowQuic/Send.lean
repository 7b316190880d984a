import SingQuic.ShadowQuic.Wire
import SingQuic.Lib.Transition
import SingQuic.Lib.Table

/-! The sending half of SQuic UDP: every packet connection of one QUIC connection
draws its context ids from one counter. A call of `send` holds the lock of its own
packet connection from start to end, so at most one is under way on each; it can
be interrupted by calls on others wherever the source awaits. -/
namespace SingQuic.ShadowQuic
open Wire

inductive UdpMode where
  | datagram
  | stream
  deriving DecidableEq, Repr

structure ShadowQuicPacket where
  data : Bytes
  destination : Address
  deriving DecidableEq, Repr

/-- A send stream: the bytes the transport has accepted, those a `write_all` still
has to hand over, and the error of a failed write, with which all later ones fail. -/
structure SendStream where
  written : Bytes
  pending : Bytes
  broken : Option String
  deriving DecidableEq, Repr

namespace SendStream

def fresh : SendStream := ⟨[], [], none⟩

def writeAll (self : SendStream) (bytes : Bytes) : SendStream :=
  { self with pending := self.pending ++ bytes }

/-- The transport accepts some more bytes. -/
def flow (self : SendStream) (count : Nat) : SendStream :=
  { self with written := self.written ++ self.pending.take count, pending := self.pending.drop count }

/-- A failed write: the rest of it never leaves. -/
def fail (self : SendStream) (text : String) : SendStream := { self with broken := some text }

/-- Everything handed to the stream, accepted yet or not. -/
def content (self : SendStream) : Bytes := self.written ++ self.pending

@[simp] theorem content_writeAll (self : SendStream) (bytes : Bytes) :
    (self.writeAll bytes).content = self.content ++ bytes := by
  simp [writeAll, content]

@[simp] theorem content_flow (self : SendStream) (count : Nat) :
    (self.flow count).content = self.content := by
  simp [flow, content]

@[simp] theorem content_fail (self : SendStream) (text : String) :
    (self.fail text).content = self.content := rfl

@[simp] theorem content_fresh : fresh.content = [] := rfl

end SendStream

/-- `number` counts the allocations of the connection; the id on the wire is its
residue. The map of the source drops the id of a stream context, which was written
as the stream's first two bytes. -/
inductive OutgoingUdpContext where
  | datagram (number : Nat)
  | stream (number : Nat) (stream : Nat)
  deriving DecidableEq, Repr

def wireId (number : Nat) : UInt16 := UInt16.ofNat number

def OutgoingUdpContext.number : OutgoingUdpContext → Nat
  | .datagram number | .stream number _ => number

def OutgoingUdpContext.id (context : OutgoingUdpContext) : UInt16 := wireId context.number

/-- Where the call that holds the lock stands; `call` is its place in the history. -/
inductive Progress where
  | idle
  | control (call number : Nat)
  | opening (call number : Nat)
  | header (call number stream : Nat)
  | payload (call stream : Nat)
  deriving DecidableEq, Repr

/-- One packet connection. `records` is the history of its control stream: the
destinations announced there, each with its allocation. -/
structure PacketConnection where
  mode : UdpMode
  control : SendStream
  contexts : Address → Option OutgoingUdpContext
  progress : Progress
  live : Bool
  records : List (Address × Nat)

def PacketConnection.fresh (mode : UdpMode) : PacketConnection :=
  ⟨mode, .fresh, fun _ => none, .idle, true, []⟩

/-- A unidirectional stream and the packets written to it, each with its call. -/
structure UniStream where
  association : Nat
  number : Nat
  stream : SendStream
  packets : List (Nat × Bytes)
  deriving DecidableEq, Repr

structure SentDatagram where
  association : Nat
  number : Nat
  call : Nat
  frame : Bytes
  deriving DecidableEq, Repr

structure SendCall where
  association : Nat
  packet : ShadowQuicPacket
  deriving DecidableEq, Repr

/-- `next_id` has been drawn `allocated` times; `calls` lists the calls of `send`
in the order in which they got the lock, `results` how they ended. -/
structure Sender where
  allocated : Nat
  connections : List PacketConnection
  unis : List UniStream
  datagrams : List SentDatagram
  calls : List SendCall
  results : List (Nat × Result Unit)

inductive SendAction where
  | associate (mode : UdpMode)
  | start (association : Nat) (packet : ShadowQuicPacket) (answer : Except String Unit)
  | proceed (association : Nat) (answer : Except String Unit)
  | flowControl (association count : Nat)
  | flowUni (stream count : Nat)
  | fail (association : Nat) (text : String)
  | close (association : Nat)

namespace Sender

def initial : Sender := ⟨0, [], [], [], [], []⟩

def setConnection (self : Sender) (association : Nat) (connection : PacketConnection) : Sender :=
  { self with connections := self.connections.set association connection }

/-- The call returns and releases the lock. -/
def finish (self : Sender) (association : Nat) (connection : PacketConnection) (call : Nat)
    (result : Result Unit) : Sender :=
  { self.setConnection association { connection with progress := .idle } with
    results := self.results ++ [(call, result)] }

def maxStreamPacket : Nat := 65535

/-- Start writing a packet to a stream. -/
def writePacket (self : Sender) (association : Nat) (connection : PacketConnection) (call stream : Nat)
    (uni : UniStream) (data : Bytes) : Sender :=
  let uni := { uni with
    stream := uni.stream.writeAll (encodePacket data), packets := uni.packets ++ [(call, data)] }
  { self.setConnection association { connection with progress := .payload call stream } with
    unis := self.unis.set stream uni }

def sendDatagram (self : Sender) (association call number : Nat) (data : Bytes) : Sender :=
  { self with datagrams := self.datagrams ++
      [⟨association, number, call, bigEndian 2 (wireId number).toNat ++ data⟩] }

/-- The second half of `send`, with a context in place. `answer` is what
`send_datagram` says. -/
def transmit (self : Sender) (association : Nat) (connection : PacketConnection) (call : Nat)
    (data : Bytes) (answer : Except String Unit) : OutgoingUdpContext → Option Sender
  | .datagram number =>
    match answer with
    | .error text => some (self.finish association connection call (.error (.protocol text)))
    | .ok () => some ((self.sendDatagram association call number data).finish association connection
        call (.ok ()))
  | .stream _ stream =>
    if maxStreamPacket < data.length then
      some (self.finish association connection call
        (.error (.protocol "ShadowQuic UDP packet exceeds 65535 bytes")))
    else
      (self.unis[stream]?).map fun uni =>
        match uni.stream.broken with
        | some text => self.finish association connection call (.error (.write text))
        | none => self.writePacket association connection call stream uni data

/-- The new context goes into the map, and the call continues with it. -/
def insertContext (self : Sender) (association : Nat) (connection : PacketConnection) (call : Nat)
    (packet : ShadowQuicPacket) (answer : Except String Unit) (context : OutgoingUdpContext) :
    Option Sender :=
  self.transmit association { connection with
    contexts := Function.update connection.contexts packet.destination (some context) }
    call packet.data answer context

/-- The start of a context: draw an id, which stays drawn even if the address turns
out not to be encodable, and write the record of the new destination. -/
def announce (self : Sender) (association : Nat) (connection : PacketConnection) (call : Nat)
    (destination : Address) : Sender :=
  let number := self.allocated
  let self := { self with allocated := number + 1 }
  match encodeAddress destination with
  | .error error => self.finish association connection call (.error error)
  | .ok address =>
    match connection.control.broken with
    | some text => self.finish association connection call (.error (.write text))
    | none => self.setConnection association { connection with
        control := connection.control.writeAll (encodeRecord address (wireId number))
        records := connection.records ++ [(destination, number)]
        progress := .control call number }

/-- The call acquires the lock and runs to its first await. -/
def start (self : Sender) (association : Nat) (connection : PacketConnection)
    (packet : ShadowQuicPacket) (answer : Except String Unit) : Option Sender :=
  let call := self.calls.length
  let self : Sender := { self with calls := self.calls ++ [⟨association, packet⟩] }
  match connection.contexts packet.destination with
  | some context => self.transmit association connection call packet.data answer context
  | none => some (self.announce association connection call packet.destination)

/-- `open_uni` and the write of the id. -/
def openUni (self : Sender) (association : Nat) (connection : PacketConnection) (call number : Nat) :
    Sender :=
  let uni : UniStream :=
    ⟨association, number, SendStream.fresh.writeAll (bigEndian 2 (wireId number).toNat), []⟩
  { self.setConnection association
      { connection with progress := .header call number self.unis.length } with
    unis := self.unis ++ [uni] }

/-- The call under way continues past a completed await. -/
def proceed (self : Sender) (association : Nat) (connection : PacketConnection)
    (answer : Except String Unit) : Option Sender :=
  match connection.progress with
  | .idle => none
  | .control call number =>
    if connection.control.pending ≠ [] then none
    else
      match connection.mode with
      | .stream => some (self.setConnection association { connection with
          progress := .opening call number })
      | .datagram => (self.calls[call]?).bind fun sent =>
          self.insertContext association connection call sent.packet answer (.datagram number)
  | .opening call number =>
    match answer with
    | .error text => some (self.finish association connection call (.error (.connection text)))
    | .ok () => some (self.openUni association connection call number)
  | .header call number stream =>
    (self.unis[stream]?).bind fun uni =>
      if uni.stream.pending ≠ [] then none
      else (self.calls[call]?).bind fun sent =>
        self.insertContext association connection call sent.packet answer (.stream number stream)
  | .payload call stream =>
    (self.unis[stream]?).bind fun uni =>
      if uni.stream.pending ≠ [] then none
      else some (self.finish association connection call (.ok ()))

/-- A write to a unidirectional stream fails. -/
def failUni (self : Sender) (stream : Nat) (uni : UniStream) (text : String) : Sender :=
  { self with unis := self.unis.set stream { uni with stream := uni.stream.fail text } }

/-- The write under way fails, and so does the call. A `write_all` whose bytes have all
been accepted has returned. -/
def failWrite (self : Sender) (association : Nat) (connection : PacketConnection) (text : String) :
    Option Sender :=
  match connection.progress with
  | .control call _ =>
    if connection.control.pending = [] then none
    else some (self.finish association { connection with
      control := connection.control.fail text } call (.error (.write text)))
  | .header call _ stream | .payload call stream =>
    (self.unis[stream]?).bind fun uni =>
      if uni.stream.pending = [] then none
      else some ((self.failUni stream uni text).finish association connection call (.error (.write text)))
  | .idle | .opening _ _ => none

end Sender

/-- Steps of the sending side. Bytes flow only while no write of the stream has
failed. -/
def sendStep (self : Sender) : SendAction → Option Sender
  | .associate mode => some { self with connections := self.connections ++ [.fresh mode] }
  | .start association packet answer =>
    (self.connections[association]?).bind fun connection =>
      if connection.live ∧ connection.progress = .idle then
        self.start association connection packet answer
      else none
  | .proceed association answer =>
    (self.connections[association]?).bind fun connection =>
      self.proceed association connection answer
  | .flowControl association count =>
    (self.connections[association]?).bind fun connection =>
      if connection.control.broken.isSome then none
      else some (self.setConnection association { connection with
        control := connection.control.flow count })
  | .flowUni stream count =>
    (self.unis[stream]?).bind fun uni =>
      if uni.stream.broken.isSome then none
      else some { self with unis := self.unis.set stream { uni with stream := uni.stream.flow count } }
  | .fail association text =>
    (self.connections[association]?).bind fun connection =>
      self.failWrite association connection text
  | .close association =>
    (self.connections[association]?).bind fun connection =>
      if connection.progress = .idle then
        some (self.setConnection association { connection with live := false })
      else none

end SingQuic.ShadowQuic
