import SingQuic.Hysteria2.Client
import SingQuic.Lib.SingleFlight

/-! The connection a Hysteria2 client keeps. The first call that finds none open makes
one and authenticates on it, while the others wait; only then are streams opened. -/
namespace SingQuic.Hysteria2
open Wire SingleFlight

/-- The fields of the client that a connection depends on. -/
structure ClientOptions where
  password : String
  bandwidth : ClientBandwidth
  usizeBits : Nat

/-- A connection with its authentication exchange, the kind reported for it, and the
destinations that streams were opened for, in order. -/
structure ClientConnection where
  controller : Option CongestionKind
  asked : Option Request
  answered : Option Response
  congestion : Option CongestionKind
  proxied : List Address

/-- The awaits of `connection` and `authenticate`. -/
inductive ConnectStage where
  | handshaking
  | starting
  | sending (request : Request)
  | finishing
  | answering
  | draining (response : Response)

/-- What one of the awaits yields. What the request builder returns, which is not
awaited, comes with the await before it; on success it has drawn its padding. -/
inductive ConnectEvent where
  | handshake (result : Except String (Option CongestionKind))
  | start (result : Except String Unit) (built : Except String String)
  | send (result : Except String Unit)
  | finish (result : Except String Unit)
  | response (result : Except String Response)
  | data (result : Except String Bool)
  | openBi (result : Except String Unit) (padding : String)
  | wrote (count : Nat)
  | writeFails (text : String)
  | arrive (bytes : Bytes)
  | readFails (text : String)

/-- The awaits of `connect` once there is a connection. A call that succeeds leaves what
has arrived after the response to the application. -/
inductive RequestStage where
  | opening (destination : Address)
  | writing (left : Bytes)
  | reading (unread : Bytes)
  | returned (result : Result Bytes)

namespace ClientConnection

/-- A connection that `endpoint.connect` has begun. -/
def connecting : ClientConnection := ⟨none, none, none, none, []⟩

/-- `connection` and `authenticate`, from the handshake on. -/
def setup (options : ClientOptions) (value : ClientConnection) :
    ConnectStage → ConnectEvent → Option (ClientConnection × SingleFlight.Progress ConnectStage Error)
  | .handshaking, .handshake (.error text) => some (value, .failed (.connection text))
  | .handshaking, .handshake (.ok controller) => some ({ value with controller }, .more .starting)
  | .starting, .start (.error text) _ => some (value, .failed (.http3 text))
  | .starting, .start (.ok ()) (.error text) => some (value, .failed (.protocol text))
  | .starting, .start (.ok ()) (.ok padding) =>
    some (value, .more (.sending (Client.request options.password options.bandwidth padding)))
  | .sending _, .send (.error text) => some (value, .failed (.http3 text))
  | .sending request, .send (.ok ()) => some ({ value with asked := some request }, .more .finishing)
  | .finishing, .finish (.error text) => some (value, .failed (.http3 text))
  | .finishing, .finish (.ok ()) => some (value, .more .answering)
  | .answering, .response (.error text) => some (value, .failed (.http3 text))
  | .answering, .response (.ok response) =>
    some ({ value with answered := some response }, .more (.draining response))
  | .draining _, .data (.error text) => some (value, .failed (.http3 text))
  | .draining response, .data (.ok true) => some (value, .more (.draining response))
  | .draining response, .data (.ok false) =>
    match Client.authenticate options.bandwidth response value.controller with
    | (controller, .error error) => some ({ value with controller }, .failed error)
    | (controller, .ok congestion) =>
      some ({ value with controller, congestion := some congestion }, .ready)
  | _, _ => none

/-- `connect`, from `open_bi` on. -/
def request (options : ClientOptions) (value : ClientConnection) :
    RequestStage → ConnectEvent → Option (ClientConnection × RequestStage)
  | .opening _, .openBi (.error text) _ => some (value, .returned (.error (.connection text)))
  | .opening destination, .openBi (.ok ()) padding =>
    let value := { value with proxied := value.proxied ++ [destination] }
    match writeTcpRequest destination padding with
    | .error error => some (value, .returned (.error error))
    | .ok bytes => some (value, .writing bytes)
  | .writing left, .wrote count =>
    if count = 0 ∨ left.length < count then none
    else
      match left.drop count with
      | [] => some (value, .reading [])
      | left => some (value, .writing left)
  | .writing _, .writeFails text => some (value, .returned (.error (.io text)))
  | .reading unread, .arrive bytes =>
    match readTcpResponse options.usizeBits (unread ++ bytes) with
    | .more => some (value, .reading (unread ++ bytes))
    | .failed error => some (value, .returned (.error error))
    | .done result rest => some (value, .returned (result.map fun _ => rest))
  | .reading _, .readFails text => some (value, .returned (.error (.io text)))
  | _, _ => none

end ClientConnection

/-- `connection`, `authenticate` and `connect` of one client. -/
def clientProtocol (options : ClientOptions) : Protocol Address (Except String Unit) ClientConnection
    ConnectStage RequestStage ConnectEvent Error where
  connect
    | .error text => .error (.connect text)
    | .ok () => .ok (.connecting, .handshaking)
  setup := ClientConnection.setup options
  start := .opening
  use := ClientConnection.request options

/-- The server answered the client's own authentication request with the status for
success, and the kind reported is what its answer led to. -/
def AdmittedClient (options : ClientOptions) (value : ClientConnection) : Prop :=
  ∃ padding response before kind,
    value.asked = some (Client.request options.password options.bandwidth padding) ∧
    value.answered = some response ∧ response.status = UInt16.ofNat statusAuthOk ∧
    Client.authenticate options.bandwidth response before = (value.controller, .ok kind) ∧
    value.congestion = some kind

/-- A connection on which no stream was opened for a request yet. -/
structure Connecting (options : ClientOptions) (value : ClientConnection) (stage : ConnectStage) : Prop where
  unused : value.proxied = []
  progress : match stage with
    | .handshaking | .starting => True
    | .sending request => ∃ padding, request = Client.request options.password options.bandwidth padding
    | .finishing | .answering =>
      ∃ padding, value.asked = some (Client.request options.password options.bandwidth padding)
    | .draining response => value.answered = some response ∧
      ∃ padding, value.asked = some (Client.request options.password options.bandwidth padding)

variable {options : ClientOptions}

theorem authenticate_status {bandwidth : ClientBandwidth} {response : Response}
    {before after : Option CongestionKind} {kind : CongestionKind}
    (admitted : Client.authenticate bandwidth response before = (after, .ok kind)) :
    response.status = UInt16.ofNat statusAuthOk := by
  by_contra refused
  rw [Client.authenticate, if_pos refused] at admitted
  cases admitted

/-- What the end of one await of `authenticate` leaves. -/
theorem Connecting.setup {value after : ClientConnection} {stage : ConnectStage} {event : ConnectEvent}
    {progress : SingleFlight.Progress ConnectStage Error} (connecting : Connecting options value stage)
    (stepped : ClientConnection.setup options value stage event = some (after, progress)) :
    (∃ later, progress = .more later ∧ Connecting options after later) ∨
      (progress = .ready ∧ AdmittedClient options after) ∨
      ∃ error, progress = .failed error ∧ after.proxied = [] := by
  obtain ⟨unused, reached⟩ := connecting
  -- an await that fails hands on nothing
  have failed : ∀ {connection : ClientConnection} {error : Error}, connection.proxied = [] →
      some (connection, SingleFlight.Progress.failed error) = some (after, progress) →
      ∃ error, progress = .failed error ∧ after.proxied = [] := by
    rintro connection error young same
    obtain ⟨rfl, rfl⟩ := Prod.mk.inj (Option.some.inj same)
    exact ⟨error, rfl, young⟩
  cases stage with
  | handshaking =>
    cases event with
    | handshake result =>
      cases result with
      | error text => exact Or.inr (Or.inr (failed unused stepped))
      | ok controller =>
        obtain ⟨rfl, rfl⟩ := Prod.mk.inj (Option.some.inj stepped)
        exact Or.inl ⟨_, rfl, unused, trivial⟩
    | _ => cases stepped
  | starting =>
    cases event with
    | start result built =>
      cases result with
      | error text => exact Or.inr (Or.inr (failed unused stepped))
      | ok =>
        cases built with
        | error text => exact Or.inr (Or.inr (failed unused stepped))
        | ok padding =>
          obtain ⟨rfl, rfl⟩ := Prod.mk.inj (Option.some.inj stepped)
          exact Or.inl ⟨_, rfl, unused, padding, rfl⟩
    | _ => cases stepped
  | sending request =>
    cases event with
    | send result =>
      cases result with
      | error text => exact Or.inr (Or.inr (failed unused stepped))
      | ok =>
        obtain ⟨rfl, rfl⟩ := Prod.mk.inj (Option.some.inj stepped)
        obtain ⟨padding, rfl⟩ := reached
        exact Or.inl ⟨_, rfl, unused, padding, rfl⟩
    | _ => cases stepped
  | finishing =>
    cases event with
    | finish result =>
      cases result with
      | error text => exact Or.inr (Or.inr (failed unused stepped))
      | ok =>
        obtain ⟨rfl, rfl⟩ := Prod.mk.inj (Option.some.inj stepped)
        exact Or.inl ⟨_, rfl, unused, reached⟩
    | _ => cases stepped
  | answering =>
    cases event with
    | response result =>
      cases result with
      | error text => exact Or.inr (Or.inr (failed unused stepped))
      | ok response =>
        obtain ⟨rfl, rfl⟩ := Prod.mk.inj (Option.some.inj stepped)
        exact Or.inl ⟨_, rfl, unused, rfl, reached⟩
    | _ => cases stepped
  | draining response =>
    cases event with
    | data result =>
      cases result with
      | error text => exact Or.inr (Or.inr (failed unused stepped))
      | ok more =>
        cases more with
        | true =>
          obtain ⟨rfl, rfl⟩ := Prod.mk.inj (Option.some.inj stepped)
          exact Or.inl ⟨_, rfl, unused, reached⟩
        | false =>
          obtain ⟨answered, padding, asked⟩ := reached
          dsimp only [ClientConnection.setup] at stepped
          split at stepped
          · rename_i controller error refused
            have young : { value with controller }.proxied = [] := unused
            exact Or.inr (Or.inr (failed young stepped))
          · rename_i controller kind admitted
            obtain ⟨rfl, rfl⟩ := Prod.mk.inj (Option.some.inj stepped)
            exact Or.inr (Or.inl ⟨rfl, padding, response, value.controller, kind, asked, answered,
              authenticate_status admitted, admitted, rfl⟩)
    | _ => cases stepped

/-- A request changes nothing but the record of the requests. -/
theorem AdmittedClient.request {value after : ClientConnection} {stage later : RequestStage}
    {event : ConnectEvent} (admitted : AdmittedClient options value)
    (stepped : ClientConnection.request options value stage event = some (after, later)) :
    AdmittedClient options after := by
  have same : after = value ∨
      ∃ destination, after = { value with proxied := value.proxied ++ [destination] } := by
    cases stage with
    | opening destination =>
      cases event with
      | openBi result padding =>
        cases result with
        | error text => exact Or.inl (Prod.mk.inj (Option.some.inj stepped)).1.symm
        | ok =>
          dsimp only [ClientConnection.request] at stepped
          split at stepped
          · exact Or.inr ⟨_, (Prod.mk.inj (Option.some.inj stepped)).1.symm⟩
          · exact Or.inr ⟨_, (Prod.mk.inj (Option.some.inj stepped)).1.symm⟩
      | _ => cases stepped
    | writing left =>
      cases event with
      | wrote count =>
        dsimp only [ClientConnection.request] at stepped
        split at stepped
        · contradiction
        · split at stepped
          · exact Or.inl (Prod.mk.inj (Option.some.inj stepped)).1.symm
          · exact Or.inl (Prod.mk.inj (Option.some.inj stepped)).1.symm
      | writeFails text => exact Or.inl (Prod.mk.inj (Option.some.inj stepped)).1.symm
      | _ => cases stepped
    | reading unread =>
      cases event with
      | arrive bytes =>
        dsimp only [ClientConnection.request] at stepped
        split at stepped
        all_goals exact Or.inl (Prod.mk.inj (Option.some.inj stepped)).1.symm
      | readFails text => exact Or.inl (Prod.mk.inj (Option.some.inj stepped)).1.symm
      | _ => cases stepped
    | returned result => cases stepped
  rcases same with rfl | ⟨destination, rfl⟩
  · exact admitted
  · exact admitted

theorem client_laws (options : ClientOptions) : Laws (clientProtocol options) (Connecting options)
    (fun value => value.proxied = []) (AdmittedClient options) where
  connect := by
    intro connected value stage begun
    cases connected with
    | error text => cases begun
    | ok =>
      cases begun
      exact ⟨rfl, trivial⟩
  more := by
    intro value stage event after later connecting stepped
    rcases connecting.setup stepped with ⟨_, same, young⟩ | ⟨impossible, _⟩ | ⟨_, impossible, _⟩
    · cases same
      exact young
    · cases impossible
    · cases impossible
  ready := by
    intro value stage event after connecting stepped
    rcases connecting.setup stepped with ⟨_, impossible, _⟩ | ⟨_, admitted⟩ | ⟨_, impossible, _⟩
    · cases impossible
    · exact admitted
    · cases impossible
  failed := by
    intro value stage event after error connecting stepped
    rcases connecting.setup stepped with ⟨_, impossible, _⟩ | ⟨impossible, _⟩ | ⟨_, _, unused⟩
    · cases impossible
    · cases impossible
    · exact unused
  unused := fun connecting => connecting.unused
  use := fun admitted stepped => admitted.request stepped

/-- All calls of a client, in any interleaving, whichever of them are dropped at whichever
await, and whenever connections are lost. At most one connection is open; on the cached
one, and on every one that a stream was opened on for a request, the server has admitted
the client before; at most one call is making a connection, and none while the cached one
is open. -/
theorem client_authenticates_first {actions : List (Action Address (Except String Unit) ConnectEvent)}
    {state : State Address ClientConnection ConnectStage RequestStage Error}
    (execution : Transition.run (step (clientProtocol options)) State.initial actions = some state) :
    (∀ (first second : Nat) (one two : Entry ClientConnection), state.entries[first]? = some one →
      state.entries[second]? = some two → one.closed = false → two.closed = false → first = second) ∧
    (∀ entry, state.cached = some entry →
      ∃ found, state.entries[entry]? = some found ∧ AdmittedClient options found.value) ∧
    (∀ found ∈ state.entries, found.value.proxied ≠ [] → AdmittedClient options found.value) ∧
    ∀ (task : Nat) (destination : Address) (entry : Nat) (stage : ConnectStage),
      state.tasks[task]? = some (.making destination entry stage) → state.current = none ∧
        ∀ (other : Nat) (found : Task Address ConnectStage RequestStage Error),
          state.tasks[other]? = some found → found.making?.isSome → other = task :=
  (SingleFlight.run_sound (client_laws options) execution).shares

/-- A call that is refused, one that is admitted, and one that shares its connection. -/
theorem client_authenticates_first_refused :
    let options : ClientOptions := ⟨"secret", ⟨0, 0⟩, 64⟩
    let actions : List (Action Address (Except String Unit) ConnectEvent) :=
      [.call ⟨"u", 1, by decide⟩, .lock 0 (.ok ()), .advance 0 (.handshake (.ok (some .bbr))),
        .advance 0 (.start (.ok ()) (.ok "")), .advance 0 (.send (.ok ())), .advance 0 (.finish (.ok ())),
        .advance 0 (.response (.ok ⟨404, []⟩)), .call ⟨"u", 1, by decide⟩,
        .call ⟨"u", 1, by decide⟩, .advance 0 (.data (.ok false)), .lock 1 (.ok ()), .advance 1 (.handshake (.ok (some .bbr))),
        .advance 1 (.start (.ok ()) (.ok "")), .advance 1 (.send (.ok ())), .advance 1 (.finish (.ok ())),
        .advance 1 (.response (.ok ⟨233, []⟩)), .advance 1 (.data (.ok false)), .lock 2 (.ok ()),
        .advance 2 (.openBi (.ok ()) "")]
    ∃ state, Transition.run (step (clientProtocol options)) State.initial actions = some state ∧
      state.entries.map (fun found => (found.closed, found.value.proxied.length)) =
        [(true, 0), (false, 1)] ∧
      ∀ found ∈ state.entries, found.value.proxied ≠ [] → ∃ response,
        found.value.answered = some response ∧ response.status = 233 := by
  intro options actions
  have traced : (Transition.run (step (clientProtocol options)) State.initial actions).map
      (fun state => state.entries.map (fun found => (found.closed, found.value.proxied.length))) =
      some [(true, 0), (false, 1)] := by
    decide
  obtain ⟨state, execution, seen⟩ := Option.map_eq_some_iff.mp traced
  refine ⟨state, execution, seen, fun found member used => ?_⟩
  obtain ⟨_, response, _, _, _, answered, admitted, _⟩ :=
    (client_authenticates_first execution).2.2.1 found member used
  exact ⟨response, answered, admitted⟩

end SingQuic.Hysteria2
