import SingQuic.Congestion
import SingQuic.ShadowQuic.Receive

/-! A connection of the SQuic server: the loop of `serve_connection` and the handlers
it spawns for bidirectional streams, unidirectional streams and datagrams. The
handlers share one watch, which `SQ_AUTHENTICATE` streams write to and on which the
others wait before they do anything. -/
namespace SingQuic.ShadowQuic
open Wire Net

def sqConnect : UInt8 := 0x01
def sqAssociateOverDatagram : UInt8 := 0x03
def sqAssociateOverStream : UInt8 := 0x04
def sqAuthenticate : UInt8 := 0x05
def sqExtension : UInt8 := 0xff
def sqExtensionConnection : Nat := 0x01
def sqExtensionGetStats : UInt8 := 0x00

abbrev Credential := { bytes : Bytes // bytes.length = 64 }

inductive ServerAuthentication where
  | jls
  | sunny (users : Credential → Option String)

structure HandshakeData where
  jlsAuthenticated : Option Bool
  jlsUser : Option String

/-- What the handlers of a connection are given. -/
structure Serving where
  authentication : ServerAuthentication
  user : String
  source : SocketAddr

/-- `serve_connection` up to its loop. -/
def serveConnection (authentication : ServerAuthentication) (source : SocketAddr)
    (handshake : Option HandshakeData) (congestion : Option CongestionKind) : Result Serving := do
  let user ← match authentication, handshake with
    | .jls, some data =>
      if data.jlsAuthenticated = some true then .ok (data.jlsUser.getD "")
      else .error .jlsAuthenticationFailed
    | .jls, none => .error .jlsAuthenticationFailed
    | .sunny _, _ => .ok ""
  if congestion.isNone then .error .congestionControl else .ok ⟨authentication, user, source⟩

structure AcceptedStream where
  stream : Nat
  destination : Address
  user : String
  source : SocketAddr

structure AcceptedPacket where
  connection : Nat
  mode : UdpMode
  destination : Address
  user : String
  source : SocketAddr

inductive Accepted where
  | stream (value : AcceptedStream)
  | packet (value : AcceptedPacket)

def Accepted.user : Accepted → String
  | .stream value => value.user
  | .packet value => value.user

/-- The bidirectional stream that was accepted. -/
def Accepted.origin : Accepted → Nat
  | .stream value => value.stream
  | .packet value => value.connection

/-- The requests that name a destination. -/
inductive ProxyRequest where
  | connect
  | associate (mode : UdpMode)

inductive Request where
  | proxy (request : ProxyRequest)
  | extension

/-- Where `handle_bi_stream` stands. -/
inductive BiState where
  | opcode
  | credential
  | waiting (request : Request)
  | destination (request : ProxyRequest) (user : String)
  | offering (value : Accepted)
  | control
  | extension
  | reset
  | ended (result : Result Unit)

structure BiStream where
  unread : Bytes
  state : BiState

/-- The handler of a unidirectional stream or a datagram, before it does its work. -/
inductive GateState where
  | waiting
  | passed
  | ended (error : Error)

inductive Handler where
  | bi (stream : Nat)
  | uni (stream : Nat)
  | datagram (source : Nat)
  deriving DecidableEq, Repr

/-- The path statistics of an extension reply; `rtt` holds the bits of the
floating-point milliseconds. -/
structure PathStats where
  lostPackets : UInt64
  sentPackets : UInt64
  rtt : UInt64
  currentMtu : UInt16

/-- `presented` is the history of credentials that `SQ_AUTHENTICATE` streams brought;
`accepted` what was handed to the application, `replies` the extension replies. -/
structure Server where
  watch : Option (Except String String)
  presented : List (Nat × Credential)
  closed : Bool
  live : Bool
  streams : Nat → Option BiStream
  unis : Nat → Option GateState
  gated : Nat → Option (Bytes × GateState)
  accepted : List Accepted
  replies : List (Nat × Bytes)
  receiver : Receiver

inductive ServerAction where
  | accept (stream : Nat)
  | acceptUni (stream : Nat)
  | readDatagram
  | arrive (stream : Nat) (bytes : Bytes)
  | readOpcode (stream : Nat)
  | authenticate (stream : Nat)
  | pass (handler : Handler)
  | refuse (handler : Handler) (error : Error)
  | readDestination (stream : Nat)
  | offer (stream : Nat)
  | abandon (stream : Nat)
  | readExtension (stream : Nat) (stats : PathStats)
  | fail (stream : Nat) (text : String)
  | receive (action : ReceiveAction)
  | shut

def waitForSunnyAuth (authentication : ServerAuthentication) (watch : Option (Except String String)) :
    Option (Result String) :=
  match authentication with
  | .jls => some (.ok "")
  | .sunny _ => watch.map fun
    | .ok user => .ok user
    | .error text => .error (.protocol text)

/-- How `wait_for_sunny_auth` can fail: on the value of the watch or, while there is
none, by the timeout or because the connection is over. -/
def refuses (authentication : ServerAuthentication) (watch : Option (Except String String))
    (error : Error) : Bool :=
  match waitForSunnyAuth authentication watch with
  | some (.ok _) => false
  | some (.error reason) => error = reason
  | none => error = .protocol "SunnyQUIC authentication timed out" ∨ error = .closed

/-- The request of an opcode that is not `SQ_AUTHENTICATE`. -/
def requestOf (opcode : UInt8) : Option Request :=
  if opcode = sqConnect then some (.proxy .connect)
  else if opcode = sqAssociateOverDatagram then some (.proxy (.associate .datagram))
  else if opcode = sqAssociateOverStream then some (.proxy (.associate .stream))
  else if opcode = sqExtension then some .extension
  else none

def acceptedValue (serving : Serving) (stream : Nat) (destination : Address)
    (authenticatedUser : String) : ProxyRequest → Accepted
  | .connect => .stream ⟨stream, destination,
      if authenticatedUser = "" then serving.user else authenticatedUser, serving.source⟩
  | .associate mode => .packet ⟨stream, mode, destination,
      if authenticatedUser = "" then serving.user else authenticatedUser, serving.source⟩

def readExtensionRequest : Reader Error (Nat × UInt8) := do
  let extension ← Reader.readExact 8
  let opcode ← Reader.readByte
  pure (ofBigEndian extension, opcode)

/-- `Result::Ok`, the length, and the statistics. -/
def extensionResponse (stats : PathStats) : Bytes :=
  0 :: (bigEndian 4 26 ++ bigEndian 8 stats.lostPackets.toNat ++ bigEndian 8 stats.sentPackets.toNat ++
    bigEndian 8 stats.rtt.toNat ++ bigEndian 2 stats.currentMtu.toNat)

namespace Server

def initial : Server :=
  ⟨none, [], false, true, fun _ => none, fun _ => none, fun _ => none, [], [], .initial⟩

def setStream (self : Server) (stream : Nat) (task : BiStream) : Server :=
  { self with streams := Function.update self.streams stream (some task) }

/-- `handle_bi_stream` dispatches on the opcode. -/
def dispatchOpcode (self : Server) (authentication : ServerAuthentication) (stream : Nat)
    (opcode : UInt8) (rest : Bytes) : Server :=
  let state : BiState :=
    if opcode = sqAuthenticate then
      match authentication with
      | .sunny _ => .credential
      | .jls => .reset
    else (requestOf opcode).elim .reset .waiting
  self.setStream stream ⟨rest, state⟩

/-- A credential is looked up and the result published; an unknown one also closes
the connection. -/
def present (self : Server) (users : Credential → Option String) (stream : Nat)
    (credential : Credential) (rest : Bytes) : Server :=
  let self := { self with presented := self.presented ++ [(stream, credential)] }
  match users credential with
  | some username =>
    { self.setStream stream ⟨rest, .ended (.ok ())⟩ with watch := some (.ok username) }
  | none =>
    { self.setStream stream ⟨rest, .ended (.error (.protocol "SunnyQUIC authentication failed"))⟩ with
      watch := some (.error "invalid SunnyQUIC credentials"), closed := true }

/-- A handler gets past `wait_for_sunny_auth` with the authenticated user. -/
def enter (self : Server) (user : String) : Handler → Option Server
  | .bi stream => (self.streams stream).bind fun task =>
      match task.state with
      | .waiting (.proxy request) =>
        some (self.setStream stream { task with state := .destination request user })
      | .waiting .extension => some (self.setStream stream { task with state := .extension })
      | _ => none
  | .uni stream =>
    match self.unis stream with
    | some .waiting => (receiveStep .spawned self.receiver (.accept stream)).map fun receiver =>
        { self with receiver, unis := Function.update self.unis stream (some .passed) }
    | _ => none
  | .datagram source =>
    match self.gated source with
    | some (bytes, .waiting) => some { self with
        receiver := self.receiver.startDatagram .spawned source bytes
        gated := Function.update self.gated source (some (bytes, .passed)) }
    | _ => none

/-- A handler ends at `wait_for_sunny_auth`. -/
def leave (self : Server) (error : Error) : Handler → Option Server
  | .bi stream => (self.streams stream).bind fun task =>
      match task.state with
      | .waiting _ => some (self.setStream stream { task with state := .ended (.error error) })
      | _ => none
  | .uni stream =>
    match self.unis stream with
    | some .waiting =>
      some { self with unis := Function.update self.unis stream (some (.ended error)) }
    | _ => none
  | .datagram source =>
    match self.gated source with
    | some (bytes, .waiting) =>
      some { self with gated := Function.update self.gated source (some (bytes, .ended error)) }
    | _ => none

/-- The application takes an accepted value; an association goes on as the control
stream of its packet connection. -/
def hand (self : Server) (stream : Nat) (task : BiStream) (value : Accepted) : Option Server :=
  let self := { self with accepted := self.accepted ++ [value] }
  match value with
  | .stream _ => some (self.setStream stream { task with state := .ended (.ok ()) })
  | .packet _ =>
    (receiveStep .spawned self.receiver (.associate stream)).bind fun receiver =>
      (receiveStep .spawned receiver (.arriveControl stream task.unread)).map fun receiver =>
        { self.setStream stream ⟨[], .control⟩ with receiver }

/-- `handle_extension` with its request read. -/
def answer (self : Server) (stream : Nat) (rest : Bytes) (extension : Nat) (opcode : UInt8)
    (stats : PathStats) : Server :=
  if extension ≠ sqExtensionConnection ∨ opcode ≠ sqExtensionGetStats then
    self.setStream stream ⟨rest, .reset⟩
  else
    { self.setStream stream ⟨rest, .ended (.ok ())⟩ with
      replies := self.replies ++ [(stream, extensionResponse stats)] }

/-- The steps of the UDP tasks that are not the loop's or another handler's. -/
def grants (self : Server) : ReceiveAction → Bool
  | .associate _ | .arriveControl _ _ | .readDatagram | .accept _ | .close => false
  | .arriveDatagram source _ => !self.closed && (self.gated source).isNone
  | .arriveStream _ | .arriveBytes _ _ => !self.closed
  | _ => true

end Server

def serverStep (serving : Serving) (self : Server) : ServerAction → Option Server
  | .accept stream =>
    if self.live ∧ (self.streams stream).isNone then some (self.setStream stream ⟨[], .opcode⟩)
    else none
  | .acceptUni stream =>
    if self.live ∧ (self.unis stream).isNone ∧ (self.receiver.streams stream).isSome then
      some { self with unis := Function.update self.unis stream (some .waiting) }
    else none
  | .readDatagram =>
    match self.receiver.inbox with
    | [] => none
    | (source, bytes) :: rest =>
      if self.live then some { self with
        receiver := { self.receiver with inbox := rest }
        gated := Function.update self.gated source (some (bytes, .waiting)) }
      else none
  | .arrive stream bytes =>
    if self.closed then none
    else (self.streams stream).bind fun task =>
      match task.state with
      | .control => (receiveStep .spawned self.receiver (.arriveControl stream bytes)).map
          fun receiver => { self with receiver }
      | _ => some (self.setStream stream { task with unread := task.unread ++ bytes })
  | .readOpcode stream => (self.streams stream).bind fun task =>
      match task.state, (Reader.readByte : Reader Error UInt8) task.unread with
      | .opcode, .done opcode rest =>
        some (self.dispatchOpcode serving.authentication stream opcode rest)
      | _, _ => none
  | .authenticate stream => (self.streams stream).bind fun task =>
      match serving.authentication, task.state,
        (Reader.readSized 64 : Reader Error Credential) task.unread with
      | .sunny users, .credential, .done credential rest =>
        some (self.present users stream credential rest)
      | _, _, _ => none
  | .pass handler =>
    match waitForSunnyAuth serving.authentication self.watch with
    | some (.ok user) => self.enter user handler
    | _ => none
  | .refuse handler error =>
    if refuses serving.authentication self.watch error then self.leave error handler else none
  | .readDestination stream => (self.streams stream).bind fun task =>
      match task.state, decodeAddress task.unread with
      | .destination request user, .done destination rest =>
        some (self.setStream stream
          ⟨rest, .offering (acceptedValue serving stream destination user request)⟩)
      | .destination _ _, .failed error =>
        some (self.setStream stream { task with state := .ended (.error error) })
      | _, _ => none
  | .offer stream => (self.streams stream).bind fun task =>
      match task.state with
      | .offering value => self.hand stream task value
      | _ => none
  | .abandon stream => (self.streams stream).bind fun task =>
      match task.state with
      | .offering _ => some (self.setStream stream { task with state := .ended (.error .closed) })
      | _ => none
  | .readExtension stream stats => (self.streams stream).bind fun task =>
      match task.state, readExtensionRequest task.unread with
      | .extension, .done (extension, opcode) rest =>
        some (self.answer stream rest extension opcode stats)
      | _, _ => none
  | .fail stream text => (self.streams stream).bind fun task =>
      match task.state with
      | .opcode | .credential | .destination _ _ | .extension =>
        some (self.setStream stream { task with state := .ended (.error (.read text)) })
      | _ => none
  | .receive action =>
    if self.grants action then
      (receiveStep .spawned self.receiver action).map fun receiver => { self with receiver }
    else none
  | .shut =>
    if self.live then some { self with live := false, receiver := { self.receiver with closed := true } }
    else none

end SingQuic.ShadowQuic
