import SingQuic.Congestion
import SingQuic.Hysteria2.Defragger
import SingQuic.Hysteria2.Protocol
import SingQuic.Lib.Transition

/-! One Hysteria2 connection on the server: the task of `serve_connection` from
the HTTP/3 handshake to the select loop, and the stream tasks it spawns. What the
peer, the network and the router do is chosen by the actions. -/
namespace SingQuic.Hysteria2
open Wire Net

structure User where
  name : String
  password : String
  deriving DecidableEq, Repr

/-- `disable_loss_compensation` is left out: the kind of a controller does not show it. -/
structure ServerBandwidth where
  sendBps : Nat
  receiveBps : Nat
  ignoreClientBandwidth : Bool
  deriving DecidableEq, Repr

/-- What a connection is served with; `source` is the remote address of the connection. -/
structure Config where
  users : List User
  bandwidth : ServerBandwidth
  source : SocketAddr
  usizeBits : Nat

/-- The map collected from the user list: a later user with the same password
replaces an earlier one. -/
def Config.lookup (config : Config) : String → Option String :=
  config.users.foldl (fun table user => Function.update table user.password (some user.name))
    fun _ => none

/-- The code reads `remote_address` again for each value; here `source` is the one of the `Config`,
so that the peer keeps its address. -/
inductive Accepted where
  | stream (destination : Address) (user : String) (source : SocketAddr) (congestion : CongestionKind)
  | packet (sessionId : UInt32) (destination : Address) (user : String) (source : SocketAddr)
      (congestion : CongestionKind)
  deriving DecidableEq, Repr

def Accepted.user : Accepted → String
  | .stream _ user _ _ | .packet _ _ user _ _ => user

/-- What leaves the connection: a request handed to the masquerade handler, the
auth-success response with its status and two of its headers (logged even if
sending it fails), a value for the router. -/
inductive Event where
  | masquerade (request : Request)
  | authSuccess (status : Nat) (udp receive : String)
  | accepted (value : Accepted)
  deriving DecidableEq, Repr

/-- What the connection knows about an admitted client. -/
structure Admission where
  user : String
  congestion : CongestionKind
  advertised : CongestionReceive
  deriving DecidableEq, Repr

inductive Stage where
  | connecting
  | accepting
  | resolving
  | masquerading (resolving : Bool)
  | responding (admission : Admission)
  | finishing (admission : Admission)
  | serving (admission : Admission)
  | handing (admission : Admission) (handle : Nat) (message : UdpMessage)
  | feeding (admission : Admission) (handle : Nat) (message : UdpMessage)
  | panicked
  | ended (result : Result Unit)

/-- A `handle_stream` task. -/
inductive StreamTask where
  | reading (user : String) (congestion : CongestionKind) (unread : Bytes)
  | responding (user : String) (congestion : CongestionKind) (destination : Address)
  | handing (user : String) (congestion : CongestionKind) (destination : Address)
  | ended (user : String) (result : Result Unit)

def StreamTask.user : StreamTask → String
  | .reading user _ _ | .responding user _ _ | .handing user _ _ | .ended user _ => user

/-- A packet connection; `held` while the router has a reference to it. -/
structure PacketHandle where
  sessionId : UInt32
  held : Bool
  defragger : Defragger
  incoming : List Hysteria2Packet

def incomingCapacity : Nat := 64

structure ServerState where
  stage : Stage
  controller : Option CongestionKind
  tasks : List StreamTask
  udpSessions : UInt32 → Option Nat
  handles : List PacketHandle
  log : List Event

/-- A step of one stream task. -/
inductive TaskAction where
  | arrive (bytes : Bytes)
  | readRequest
  | readFails (text : String)
  | writeResponse (result : Except String Unit)
  | hand (delivered : Bool)

inductive ServerAction where
  | connect (result : Except String Unit)
  | accept (result : Except String Bool)
  | resolve (result : Except String Request)
  | respond (result : Except String Unit)
  | finish (result : Except String Unit)
  | control (result : Except String Unit)
  | acceptBi (result : Except String Unit)
  | datagram (result : Except String Bytes)
  | hand (delivered : Bool)
  | feed (now : Instant)
  | task (index : Nat) (action : TaskAction)
  | receive (handle : Nat)
  | release (handle : Nat)

namespace Config
variable (config : Config)

/-- The user of a request that authenticates, as the first three `let`s decide. -/
def authenticate (request : Request) : Option String :=
  let user := ((request.header headerAuth).bind headerText).bind config.lookup
  if request.method = "POST" ∧ request.authority = some urlAuthority ∧ request.path = urlPath then user
  else none

/-- A server with a fixed receive rate that ignores the client's bandwidth sends
a client that declares no positive rate to the masquerade handler. -/
def diverts (request : Request) : Bool :=
  decide (0 < config.bandwidth.receiveBps) && config.bandwidth.ignoreClientBandwidth &&
    match parseCongestionReceive (request.header headerCcRx) with
    | .rate rate => decide (rate = 0)
    | .auto => true

def negotiatedSendRate (clientReceive : CongestionReceive) : Option Nat :=
  if config.bandwidth.receiveBps = 0 ∧ config.bandwidth.ignoreClientBandwidth then none
  else
    match clientReceive with
    | .auto => none
    | .rate clientReceiveBps =>
      if clientReceiveBps = 0 then none
      else if 0 < config.bandwidth.sendBps ∧ config.bandwidth.sendBps < clientReceiveBps then
        some config.bandwidth.sendBps
      else some clientReceiveBps

/-- Switch the controller to the negotiated rate and report what it runs. -/
def negotiate (request : Request) (user : String) (controller : Option CongestionKind) :
    Option CongestionKind × Result Admission :=
  let sendRate := config.negotiatedSendRate (parseCongestionReceive (request.header headerCcRx))
  let switched := match sendRate with
    | none => (controller, true)
    | some bytesPerSecond => configureConnectionBrutal controller bytesPerSecond
  let advertised := match sendRate with
    | none => .auto
    | some _ => .rate config.bandwidth.receiveBps
  match switched with
  | (controller, false) => (controller, .error .congestionControl)
  | (none, true) => (none, .error .congestionControl)
  | (some congestion, true) => (some congestion, .ok ⟨user, congestion, advertised⟩)

end Config

namespace ServerState

def initial (controller : Option CongestionKind) : ServerState :=
  ⟨.connecting, controller, [], fun _ => none, [], []⟩

def emit (state : ServerState) (event : Event) : ServerState := { state with log := state.log ++ [event] }

def enter (state : ServerState) (stage : Stage) : ServerState := { state with stage }

def fail (state : ServerState) (error : Error) : ServerState := state.enter (.ended (.error error))

/-- A stream task moves on; the value it hands to the router, if any, is logged. -/
def advance (state : ServerState) (index : Nat) (next : StreamTask) (value : Option Accepted) :
    ServerState :=
  { state with
    tasks := state.tasks.set index next
    log := state.log ++ (value.map Event.accepted).toList }

/-- The first request: admitted, or masqueraded like every later one. -/
def firstRequest (config : Config) (state : ServerState) (request : Request) : ServerState :=
  match config.authenticate request with
  | none => (state.emit (.masquerade request)).enter (.masquerading false)
  | some user =>
    if config.diverts request then (state.emit (.masquerade request)).enter (.masquerading false)
    else
      let (controller, admission) := config.negotiate request user state.controller
      let state := { state with controller }
      match admission with
      | .error error => state.fail error
      | .ok admission => state.enter (.responding admission)

/-- `input` on the connection under a handle. -/
def input (state : ServerState) (admission : Admission) (handle : Nat) (now : Instant)
    (message : UdpMessage) : Option ServerState :=
  (state.handles[handle]?).map fun target =>
    match target.defragger.feed now message with
    | none => state.enter .panicked
    | some (.error error, defragger) =>
      { state with handles := state.handles.set handle { target with defragger } }.fail error
    | some (.ok packet, defragger) =>
      let incoming := match packet with
        | some packet =>
          if target.incoming.length < incomingCapacity then target.incoming ++ [packet]
          else target.incoming
        | none => target.incoming
      { state with handles := state.handles.set handle { target with defragger, incoming } }.enter
        (.serving admission)

/-- `get` followed by `Weak::upgrade`. The select loop itself holds no connection
at that point, so a reference is left exactly if the router has one. -/
def upgrade (state : ServerState) (sessionId : UInt32) : Option Nat :=
  (state.udpSessions sessionId).filter fun handle => (state.handles[handle]?).any (·.held)

/-- One datagram of the select loop: for a connection the loop holds from here to
the end of `input`, or for a new one, which has to be announced first. -/
def receiveDatagram (state : ServerState) (admission : Admission) (bytes : Bytes) : ServerState :=
  match decodeMessage bytes with
  | .error error => state.fail error
  | .ok message =>
    match state.upgrade message.sessionId with
    | some handle => state.enter (.feeding admission handle message)
    | none =>
      let connection : PacketHandle := ⟨message.sessionId, false, Defragger.default, []⟩
      { state with handles := state.handles ++ [connection] }.enter
        (.handing admission state.handles.length message)

/-- The router takes the new connection. -/
def announce (config : Config) (state : ServerState) (admission : Admission) (handle : Nat)
    (message : UdpMessage) : ServerState :=
  let state := state.emit (.accepted (.packet message.sessionId message.destination admission.user
    config.source admission.congestion))
  let state : ServerState := { state with
    handles := state.handles.modify handle fun target => { target with held := true }
    udpSessions := Function.update state.udpSessions message.sessionId (some handle) }
  state.enter (.feeding admission handle message)

end ServerState

/-- `handle_stream`: the task afterwards and what it hands to the router. -/
def taskStep (config : Config) : StreamTask → TaskAction → Option (StreamTask × Option Accepted)
  | .reading user congestion unread, .arrive bytes =>
    some (.reading user congestion (unread ++ bytes), none)
  | .reading user congestion unread, .readRequest =>
    match readTcpRequest config.usizeBits unread with
    | .done destination _ => some (.responding user congestion destination, none)
    | .failed error => some (.ended user (.error error), none)
    | .more => none
  | .reading user _ _, .readFails text => some (.ended user (.error (.io text)), none)
  | .responding user congestion destination, .writeResponse (.ok ()) =>
    some (.handing user congestion destination, none)
  | .responding user _ _, .writeResponse (.error text) =>
    some (.ended user (.error (.io text)), none)
  | .handing user congestion destination, .hand true =>
    some (.ended user (.ok ()), some (.stream destination user config.source congestion))
  | .handing user _ _, .hand false => some (.ended user (.error .closed), none)
  | _, _ => none

def serverStep (config : Config) (state : ServerState) : ServerAction → Option ServerState
  | .connect result =>
    match state.stage, result with
    | .connecting, .ok () => some (state.enter .accepting)
    | .connecting, .error text => some (state.fail (.http3 text))
    | _, _ => none
  | .accept result =>
    match state.stage, result with
    | .accepting, .ok true => some (state.enter .resolving)
    | .accepting, .ok false =>
      some (state.fail (.protocol "connection closed before authentication"))
    | .accepting, .error text => some (state.fail (.http3 text))
    | .masquerading false, .ok true => some (state.enter (.masquerading true))
    | .masquerading false, .ok false => some (state.enter (.ended (.ok ())))
    | .masquerading false, .error text => some (state.fail (.http3 text))
    | _, _ => none
  | .resolve result =>
    match state.stage, result with
    | .resolving, .ok request => some (state.firstRequest config request)
    | .resolving, .error text => some (state.fail (.http3 text))
    | .masquerading true, .ok request =>
      some ((state.emit (.masquerade request)).enter (.masquerading false))
    | .masquerading true, .error text => some (state.fail (.http3 text))
    | _, _ => none
  | .respond result =>
    match state.stage with
    | .responding admission =>
      let state := state.emit (.authSuccess statusAuthOk "true"
        (congestionReceiveValue admission.advertised))
      match result with
      | .ok () => some (state.enter (.finishing admission))
      | .error text => some (state.fail (.http3 text))
    | _ => none
  | .finish result =>
    match state.stage, result with
    | .finishing admission, .ok () => some (state.enter (.serving admission))
    | .finishing _, .error text => some (state.fail (.http3 text))
    | _, _ => none
  | .control result =>
    match state.stage, result with
    | .serving _, .ok () => some state
    | .serving _, .error text => some (state.fail (.http3 text))
    | _, _ => none
  | .acceptBi result =>
    match state.stage, result with
    | .serving admission, .ok () =>
      some { state with tasks := state.tasks ++ [.reading admission.user admission.congestion []] }
    | .serving _, .error text => some (state.fail (.connection text))
    | _, _ => none
  | .datagram result =>
    match state.stage, result with
    | .serving admission, .ok bytes => some (state.receiveDatagram admission bytes)
    | .serving _, .error text => some (state.fail (.connection text))
    | _, _ => none
  | .hand delivered =>
    match state.stage with
    | .handing admission handle message =>
      if delivered then some (state.announce config admission handle message)
      else some (state.fail .closed)
    | _ => none
  | .feed now =>
    match state.stage with
    | .feeding admission handle message => state.input admission handle now message
    | _ => none
  | .task index action =>
    (state.tasks[index]?).bind fun task =>
      (taskStep config task action).map fun (next, value) => state.advance index next value
  | .receive handle =>
    match state.handles[handle]? with
    | some target =>
      match target.held, target.incoming with
      | true, _ :: rest =>
        some { state with handles := state.handles.set handle { target with incoming := rest } }
      | _, _ => none
    | none => none
  | .release handle =>
    match state.handles[handle]? with
    | some target =>
      if target.held then
        some { state with handles := state.handles.set handle { target with held := false } }
      else none
    | none => none

end SingQuic.Hysteria2
