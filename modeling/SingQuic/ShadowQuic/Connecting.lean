import SingQuic.Lib.SingleFlight
import SingQuic.ShadowQuic.Client
import SingQuic.ShadowQuic.Config
import SingQuic.ShadowQuic.Tunnel

/-! The connection a SQuic client keeps. All calls of one client share it; the first to
find it missing or closed makes a new one while the others wait, and presents its
credential before anybody opens a stream for a request. -/
namespace SingQuic.ShadowQuic
open Wire SingleFlight

/-- The fields of `Client` that making a connection depends on. -/
structure ClientConfig where
  congestion : CongestionConfig
  authentication : ClientAuthentication

/-- A connection of the client, with what was written on the stream of the credential
and the requests streams were opened for afterwards, in order. -/
structure ClientConnection where
  controller : Option CongestionKind
  handshake : Option HandshakeData
  presented : Bytes
  finished : Bool
  receives : Bool
  proxied : List (Address × ProxyRequest)

/-- The awaits of `connection_state` on the way to a new connection. -/
inductive ConnectStage where
  | handshaking
  | opening
  | presenting (left : Bytes) (later : List Bytes)

/-- What one of the awaits yields. The result of `finish`, which is not awaited, comes
with the last write before it. -/
inductive ConnectEvent where
  | handshake (result : Except String (Option CongestionKind × Option HandshakeData))
  | openBi (result : Except String Unit)
  | wrote (count : Nat) (finish : Except String Unit)
  | writeFails (text : String)

/-- The awaits of `connect` and `associate` once there is a connection. -/
inductive RequestStage where
  | opening (request : Address × ProxyRequest)
  | writing (left : Bytes) (later : List (Result Bytes))
  | returned (result : Result Unit)

/-- The controller is told by its kind, which does not show whether the losses are
compensated: `disable_loss_compensation` only sets that. -/
def applyCongestion (controller : Option CongestionKind) :
    CongestionConfig → Option CongestionKind × Bool
  | .bbr =>
    match controller with
    | none => (none, false)
    | some _ => (some .bbr, true)
  | .brutal bytesPerSecond _ => configureConnectionBrutal controller bytesPerSecond.toNat

/-- Handshake data that is missing, or not of rustls, is not looked at. -/
def jlsRefused (handshake : Option HandshakeData) : Bool :=
  handshake.any fun data => data.jlsAuthenticated ≠ some true

theorem jlsRefused_eq_false_iff {handshake : Option HandshakeData} :
    jlsRefused handshake = false ↔ ∀ data, handshake = some data → data.jlsAuthenticated = some true := by
  simp [jlsRefused, Option.any_eq_false]

/-- The pieces `connect` and `associate` write, each encoded when its turn comes. -/
def requestPieces : Address × ProxyRequest → List (Result Bytes)
  | (destination, .connect) => [encodeConnect destination]
  | (destination, .associate .datagram) => [.ok [sqAssociateOverDatagram], encodeAddress destination]
  | (destination, .associate .stream) => [.ok [sqAssociateOverStream], encodeAddress destination]

def nextPiece : List (Result Bytes) → RequestStage
  | [] => .returned (.ok ())
  | .error error :: _ => .returned (.error error)
  | .ok bytes :: later => .writing bytes later

namespace ClientConnection

/-- A connection that `endpoint.connect` has begun. -/
def connecting : ClientConnection := ⟨none, none, [], false, false, []⟩

/-- `connection_state`, from the handshake on. -/
def setup (config : ClientConfig) (value : ClientConnection) :
    ConnectStage → ConnectEvent → Option (ClientConnection × SingleFlight.Progress ConnectStage Error)
  | .handshaking, .handshake (.error text) => some (value, .failed (.connection text))
  | .handshaking, .handshake (.ok (controller, handshake)) =>
    let (controller, configured) := applyCongestion controller config.congestion
    let value := { value with controller, handshake }
    if configured then
      match config.authentication with
      | .jls => if jlsRefused handshake then some (value, .failed .jlsAuthenticationFailed)
        else some (value, .ready)
      | .sunny _ => some (value, .more .opening)
    else some (value, .failed .congestionControl)
  | .opening, .openBi (.error text) => some (value, .failed (.connection text))
  | .opening, .openBi (.ok ()) =>
    match config.authentication with
    | .jls => none
    | .sunny credential => some (value, .more (.presenting [sqAuthenticate] [credential.val]))
  | .presenting left later, .wrote count finish =>
    if count = 0 ∨ left.length < count then none
    else
      let value := { value with presented := value.presented ++ left.take count }
      match left.drop count, later with
      | [], [] =>
        match finish with
        | .error text => some (value, .failed (.protocol text))
        | .ok () => some ({ value with finished := true, receives := true }, .ready)
      | [], next :: later => some (value, .more (.presenting next later))
      | left, later => some (value, .more (.presenting left later))
  | .presenting _ _, .writeFails text => some (value, .failed (.write text))
  | _, _ => none

/-- `connect` and `associate`, from `open_bi` on. -/
def request (value : ClientConnection) :
    RequestStage → ConnectEvent → Option (ClientConnection × RequestStage)
  | .opening _, .openBi (.error text) => some (value, .returned (.error (.connection text)))
  | .opening request, .openBi (.ok ()) =>
    some ({ value with proxied := value.proxied ++ [request] }, nextPiece (requestPieces request))
  | .writing left later, .wrote count _ =>
    if count = 0 ∨ left.length < count then none
    else
      match left.drop count with
      | [] => some (value, nextPiece later)
      | left => some (value, .writing left later)
  | .writing _ _, .writeFails text => some (value, .returned (.error (.write text)))
  | _, _ => none

end ClientConnection

/-- `connection_state`, `connect` and `associate` of one client. -/
def clientProtocol (config : ClientConfig) : Protocol (Address × ProxyRequest) (Except String Unit)
    ClientConnection ConnectStage RequestStage ConnectEvent Error where
  connect
    | .error text => .error (.connect text)
    | .ok () => .ok (.connecting, .handshaking)
  setup := ClientConnection.setup config
  start := .opening
  use := ClientConnection.request

def CongestionConfig.kind : CongestionConfig → CongestionKind
  | .bbr => .bbr
  | .brutal bytesPerSecond _ => .brutal bytesPerSecond.toNat

/-- Whatever handshake data there is says that the peer was authenticated, or the whole
credential was written to it; and only with SunnyQUIC is there a task that reads what the
server sends. -/
structure AuthenticatedClient (config : ClientConfig) (value : ClientConnection) : Prop where
  controller : value.controller = some config.congestion.kind
  jls : config.authentication = .jls →
    (∀ data, value.handshake = some data → data.jlsAuthenticated = some true) ∧
      value.presented = [] ∧ value.receives = false
  sunny : ∀ credential, config.authentication = .sunny credential →
    value.presented = sqAuthenticate :: credential.val ∧ value.finished = true ∧ value.receives = true

/-- A connection on which no stream was opened for a request yet. -/
structure Connecting (config : ClientConfig) (value : ClientConnection) (stage : ConnectStage) : Prop where
  unused : value.proxied = []
  silent : value.receives = false
  progress : match stage with
    | .handshaking => value.presented = []
    | .opening => value.presented = [] ∧ value.controller = some config.congestion.kind ∧
      config.authentication ≠ .jls
    | .presenting left later => value.controller = some config.congestion.kind ∧
      ∃ credential, config.authentication = .sunny credential ∧
        value.presented ++ left ++ later.flatten = sqAuthenticate :: credential.val

variable {config : ClientConfig}

theorem applyCongestion_eq {controller after : Option CongestionKind} {congestion : CongestionConfig}
    (applied : applyCongestion controller congestion = (after, true)) : after = some congestion.kind := by
  cases congestion with
  | bbr =>
    cases controller with
    | none => cases applied
    | some kind =>
      cases applied
      rfl
  | brutal bytesPerSecond disable =>
    simp only [applyCongestion, configureConnectionBrutal] at applied
    split at applied
    · cases applied
    · cases controller with
      | none => cases applied
      | some kind =>
        cases applied
        rfl

/-- What the end of one await of `connection_state` leaves. -/
theorem Connecting.setup {value after : ClientConnection} {stage : ConnectStage} {event : ConnectEvent}
    {progress : SingleFlight.Progress ConnectStage Error} (connecting : Connecting config value stage)
    (stepped : ClientConnection.setup config value stage event = some (after, progress)) :
    (∃ later, progress = .more later ∧ Connecting config after later) ∨
      (progress = .ready ∧ AuthenticatedClient config after) ∨
      ∃ error, progress = .failed error ∧ after.proxied = [] := by
  obtain ⟨unused, silent, reached⟩ := connecting
  unfold ClientConnection.setup at stepped
  split at stepped
  · obtain ⟨rfl, rfl⟩ := Prod.mk.inj (Option.some.inj stepped)
    exact Or.inr (Or.inr ⟨_, rfl, unused⟩)
  · rename_i controller handshake
    cases applied : applyCongestion controller config.congestion with
    | mk now configured =>
    simp only [applied] at stepped
    cases configured with
    | false =>
      obtain ⟨rfl, rfl⟩ := Prod.mk.inj (Option.some.inj stepped)
      exact Or.inr (Or.inr ⟨_, rfl, unused⟩)
    | true =>
      have controlled := applyCongestion_eq applied
      rw [if_pos rfl] at stepped
      split at stepped
      · rename_i jls
        split at stepped
        · obtain ⟨rfl, rfl⟩ := Prod.mk.inj (Option.some.inj stepped)
          exact Or.inr (Or.inr ⟨_, rfl, unused⟩)
        · rename_i checked
          obtain ⟨rfl, rfl⟩ := Prod.mk.inj (Option.some.inj stepped)
          have accepted := jlsRefused_eq_false_iff.mp (Bool.eq_false_of_not_eq_true checked)
          refine Or.inr (Or.inl ⟨rfl, controlled, fun _ => ⟨accepted, reached, silent⟩, ?_⟩)
          intro credential sunny
          rw [jls] at sunny
          contradiction
      · rename_i credential sunny
        obtain ⟨rfl, rfl⟩ := Prod.mk.inj (Option.some.inj stepped)
        exact Or.inl ⟨_, rfl, unused, silent, reached, controlled, by simp [sunny]⟩
  · obtain ⟨rfl, rfl⟩ := Prod.mk.inj (Option.some.inj stepped)
    exact Or.inr (Or.inr ⟨_, rfl, unused⟩)
  · obtain ⟨empty, controlled, _⟩ := reached
    split at stepped
    · contradiction
    · rename_i credential sunny
      obtain ⟨rfl, rfl⟩ := Prod.mk.inj (Option.some.inj stepped)
      exact Or.inl ⟨_, rfl, unused, silent, controlled, credential, sunny, by simp [empty]⟩
  · rename_i left later count finish
    obtain ⟨controlled, credential, sunny, whole⟩ := reached
    split at stepped
    · contradiction
    · have parts : left.take count ++ left.drop count = left := List.take_append_drop count left
      dsimp only at stepped
      split at stepped
      · rename_i done
        split at stepped
        · obtain ⟨rfl, rfl⟩ := Prod.mk.inj (Option.some.inj stepped)
          exact Or.inr (Or.inr ⟨_, rfl, unused⟩)
        · obtain ⟨rfl, rfl⟩ := Prod.mk.inj (Option.some.inj stepped)
          refine Or.inr (Or.inl ⟨rfl, controlled, ?_, ?_⟩)
          · intro jls
            rw [sunny] at jls
            contradiction
          · intro other same
            obtain rfl := ClientAuthentication.sunny.inj (sunny.symm.trans same)
            refine ⟨?_, rfl, rfl⟩
            rw [done, List.append_nil] at parts
            rw [parts, ← whole]
            simp
      · rename_i next after done
        obtain ⟨rfl, rfl⟩ := Prod.mk.inj (Option.some.inj stepped)
        refine Or.inl ⟨_, rfl, unused, silent, controlled, credential, sunny, ?_⟩
        rw [done, List.append_nil] at parts
        rw [parts, ← whole]
        simp
      · obtain ⟨rfl, rfl⟩ := Prod.mk.inj (Option.some.inj stepped)
        refine Or.inl ⟨_, rfl, unused, silent, controlled, credential, sunny, ?_⟩
        rw [← whole, List.append_assoc value.presented, parts]
  · obtain ⟨rfl, rfl⟩ := Prod.mk.inj (Option.some.inj stepped)
    exact Or.inr (Or.inr ⟨_, rfl, unused⟩)
  · contradiction

/-- A request changes nothing but the record of the requests. -/
theorem AuthenticatedClient.request {value after : ClientConnection} {stage later : RequestStage}
    {event : ConnectEvent} (authenticated : AuthenticatedClient config value)
    (stepped : ClientConnection.request value stage event = some (after, later)) :
    AuthenticatedClient config after := by
  have same : after = value ∨
      ∃ request, after = { value with proxied := value.proxied ++ [request] } := by
    unfold ClientConnection.request at stepped
    split at stepped
    · exact Or.inl (Prod.mk.inj (Option.some.inj stepped)).1.symm
    · exact Or.inr ⟨_, (Prod.mk.inj (Option.some.inj stepped)).1.symm⟩
    · split at stepped
      · contradiction
      · split at stepped
        · exact Or.inl (Prod.mk.inj (Option.some.inj stepped)).1.symm
        · exact Or.inl (Prod.mk.inj (Option.some.inj stepped)).1.symm
    · exact Or.inl (Prod.mk.inj (Option.some.inj stepped)).1.symm
    · contradiction
  rcases same with rfl | ⟨request, rfl⟩
  · exact authenticated
  · exact ⟨authenticated.controller, authenticated.jls, authenticated.sunny⟩

theorem client_laws (config : ClientConfig) : Laws (clientProtocol config) (Connecting config)
    (fun value => value.proxied = []) (AuthenticatedClient config) where
  connect := by
    intro connected value stage begun
    cases connected with
    | error text => cases begun
    | ok =>
      cases begun
      exact ⟨rfl, rfl, rfl⟩
  more := by
    intro value stage event after later connecting stepped
    rcases connecting.setup stepped with ⟨_, same, young⟩ | ⟨impossible, _⟩ | ⟨_, impossible, _⟩
    · cases same
      exact young
    · cases impossible
    · cases impossible
  ready := by
    intro value stage event after connecting stepped
    rcases connecting.setup stepped with ⟨_, impossible, _⟩ | ⟨_, authenticated⟩ | ⟨_, impossible, _⟩
    · cases impossible
    · exact authenticated
    · cases impossible
  failed := by
    intro value stage event after error connecting stepped
    rcases connecting.setup stepped with ⟨_, impossible, _⟩ | ⟨impossible, _⟩ | ⟨_, _, unused⟩
    · cases impossible
    · cases impossible
    · exact unused
  unused := fun connecting => connecting.unused
  use := fun authenticated stepped => authenticated.request stepped

/-- All calls of a client, in any interleaving, whichever of them are dropped at whichever
await, and whenever connections are lost. At most one connection is open; what is cached,
and every connection on which a stream was opened for a request, was authenticated
before (handshake data that is missing is not looked at); at most one call is making a
connection; and none is made while the cached one is open. -/
theorem client_shares_connection
    {actions : List (Action (Address × ProxyRequest) (Except String Unit) ConnectEvent)}
    {state : State (Address × ProxyRequest) ClientConnection ConnectStage RequestStage Error}
    (execution : Transition.run (step (clientProtocol config)) State.initial actions = some state) :
    (∀ (first second : Nat) (one two : Entry ClientConnection), state.entries[first]? = some one →
      state.entries[second]? = some two → one.closed = false → two.closed = false → first = second) ∧
    (∀ entry, state.cached = some entry → ∃ found, state.entries[entry]? = some found ∧
      AuthenticatedClient config found.value) ∧
    (∀ found ∈ state.entries, found.value.proxied ≠ [] → AuthenticatedClient config found.value) ∧
    ∀ (task : Nat) (request : Address × ProxyRequest) (entry : Nat) (stage : ConnectStage),
      state.tasks[task]? = some (.making request entry stage) → state.current = none ∧
        ∀ (other : Nat) (found : Task (Address × ProxyRequest) ConnectStage RequestStage Error),
          state.tasks[other]? = some found → found.making?.isSome → other = task :=
  (SingleFlight.run_sound (client_laws config) execution).shares

/-- A call dropped while it writes its credential, one that makes a connection, and one
that had to wait for it. -/
theorem client_shares_connection_bob :
    let config : ClientConfig := ⟨.bbr, .sunny ⟨List.replicate 64 7, by decide⟩⟩
    let request : Address × ProxyRequest := (⟨"s", 1, by decide⟩, .connect)
    let actions : List (Action (Address × ProxyRequest) (Except String Unit) ConnectEvent) :=
      [.call request, .lock 0 (.ok ()), .advance 0 (.handshake (.ok (some .bbr, none))),
        .advance 0 (.openBi (.ok ())), .advance 0 (.wrote 1 (.ok ())), .call request, .call request,
        .drop 0, .lock 2 (.ok ()), .advance 2 (.handshake (.ok (some .bbr, none))),
        .advance 2 (.openBi (.ok ())), .advance 2 (.wrote 1 (.ok ())), .advance 2 (.wrote 64 (.ok ())),
        .lock 1 (.ok ()), .advance 1 (.openBi (.ok ()))]
    ∃ state, Transition.run (step (clientProtocol config)) State.initial actions = some state ∧
      state.entries.map (·.closed) = [true, false] ∧ state.cached = some 1 ∧
      ∀ found ∈ state.entries, found.value.proxied ≠ [] →
        found.value.presented = sqAuthenticate :: List.replicate 64 7 := by
  intro config request actions
  have traced : (Transition.run (step (clientProtocol config)) State.initial actions).map
      (fun state => (state.entries.map (·.closed), state.cached)) = some ([true, false], some 1) := by
    decide
  obtain ⟨state, execution, seen⟩ := Option.map_eq_some_iff.mp traced
  obtain ⟨closed, cached⟩ := Prod.mk.inj seen
  refine ⟨state, execution, closed, cached, fun found member used => ?_⟩
  exact (((client_shares_connection execution).2.2.1 found member used).sunny _ rfl).1

end SingQuic.ShadowQuic
