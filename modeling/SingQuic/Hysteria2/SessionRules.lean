import SingQuic.Hysteria2.ServerRules

/-! What a step of a server connection means for its packet connections: which of
them are live, which message arrives, for whom it is, and what is fed to whom. -/
namespace SingQuic.Hysteria2
open Wire

/-- The packet connection the loop has a reference to, and the message for it. -/
def Stage.inHand : Stage → Option (Nat × UdpMessage)
  | .handing _ handle message | .feeding _ handle message => some (handle, message)
  | _ => none

/-- The message whose new connection is not yet announced. -/
def Stage.opening : Stage → Option UdpMessage
  | .handing _ _ message => some message
  | _ => none

/-- The destination announced with a new packet connection, and its session. -/
def Event.packet : Event → Option (UInt32 × Address)
  | .accepted (.packet sessionId destination _ _ _) => some (sessionId, destination)
  | _ => none

namespace ServerState

/-- Someone has a reference to the packet connection: the router or the loop. -/
def live (state : ServerState) (handle : Nat) : Bool :=
  (state.handles[handle]?).any (·.held) || state.stage.inHand.any (·.1 = handle)

/-- The live connection of a session, however it is registered. -/
def liveOf (state : ServerState) (sessionId : UInt32) : Option Nat :=
  (List.range state.handles.length).find? fun handle =>
    state.live handle && (state.handles[handle]?).any (·.sessionId = sessionId)

def packets (state : ServerState) : List (UInt32 × Address) := state.log.filterMap Event.packet

/-- The message the loop decodes in a step. -/
def arrived (state : ServerState) : ServerAction → List UdpMessage
  | .datagram (.ok bytes) =>
    match state.stage, decodeMessage bytes with
    | .serving _, .ok message => [message]
    | _, _ => []
  | _ => []

/-- The message with the connection it is for: the live one of its session, or
else a new one. -/
def routed (state : ServerState) (action : ServerAction) : List (Nat × UdpMessage) :=
  (state.arrived action).map fun message =>
    ((state.liveOf message.sessionId).getD state.handles.length, message)

/-- The message, if no connection of its session is live. -/
def opened (state : ServerState) (action : ServerAction) : List UdpMessage :=
  (state.arrived action).filter fun message => state.liveOf message.sessionId = none

/-- The call of `feed` made in a step, with the connection it is made on. -/
def fed (state : ServerState) : ServerAction → List (Nat × Instant × UdpMessage)
  | .feed now =>
    match state.stage with
    | .feeding _ handle message => [(handle, now, message)]
    | _ => []
  | _ => []

end ServerState

/-- What a step means for the packet connections. -/
inductive SessionStep (config : Config) (state : ServerState) : ServerAction → ServerState → Prop where
  /-- The loop does something else, or a stream task does. -/
  | idle {action : ServerAction} {next : ServerState} (arrived : state.arrived action = [])
      (fed : state.fed action = []) (handles : next.handles = state.handles)
      (sessions : next.udpSessions = state.udpSessions) (packets : next.packets = state.packets)
      (stage : next.stage = state.stage ∨ state.stage.inHand = none ∧
        (∀ result, state.stage ≠ .ended result) ∧ next.stage.inHand = none ∧
        next.stage ≠ .panicked) :
      SessionStep config state action next
  /-- The router takes a packet off the queue, or lets go of the connection. -/
  | router {action : ServerAction} {handle : Nat} {target after : PacketHandle}
      (arrived : state.arrived action = []) (fed : state.fed action = [])
      (found : state.handles[handle]? = some target) (session : after.sessionId = target.sessionId)
      (held : after.held = true → target.held = true) (table : after.defragger = target.defragger) :
      SessionStep config state action { state with handles := state.handles.set handle after }
  | route {action : ServerAction} {admission : Admission} {handle : Nat} {message : UdpMessage}
      (here : state.stage = .serving admission) (arrived : state.arrived action = [message])
      (fed : state.fed action = []) (found : state.upgrade message.sessionId = some handle) :
      SessionStep config state action (state.enter (.feeding admission handle message))
  | create {action : ServerAction} {admission : Admission} {message : UdpMessage}
      (here : state.stage = .serving admission) (arrived : state.arrived action = [message])
      (fed : state.fed action = []) (missing : state.upgrade message.sessionId = none) :
      SessionStep config state action
        ({ state with handles := state.handles ++
            [(⟨message.sessionId, false, Defragger.default, []⟩ : PacketHandle)] }.enter
          (.handing admission state.handles.length message))
  | announce {admission : Admission} {handle : Nat} {message : UdpMessage}
      (here : state.stage = .handing admission handle message) :
      SessionStep config state (.hand true) (state.announce config admission handle message)
  | refuse {admission : Admission} {handle : Nat} {message : UdpMessage}
      (here : state.stage = .handing admission handle message) :
      SessionStep config state (.hand false) (state.fail .closed)
  | feed {admission : Admission} {handle : Nat} {message : UdpMessage} {now : Instant}
      {next : ServerState} (here : state.stage = .feeding admission handle message)
      (called : state.input admission handle now message = some next) :
      SessionStep config state (.feed now) next

variable {config : Config} {state next : ServerState}

theorem firstRequest_stage (config : Config) (state : ServerState) (request : Request) :
    (state.firstRequest config request).handles = state.handles ∧
      (state.firstRequest config request).udpSessions = state.udpSessions ∧
      (state.firstRequest config request).packets = state.packets ∧
      (state.firstRequest config request).stage.inHand = none ∧
      (state.firstRequest config request).stage ≠ .panicked := by
  have told : (state.log ++ [Event.masquerade request]).filterMap Event.packet = state.packets := by
    simp [ServerState.packets, Event.packet]
  unfold ServerState.firstRequest
  split
  · exact ⟨rfl, rfl, told, rfl, by simp [ServerState.enter]⟩
  · split
    · exact ⟨rfl, rfl, told, rfl, by simp [ServerState.enter]⟩
    · dsimp only
      split
      · exact ⟨rfl, rfl, rfl, rfl, by simp [ServerState.fail, ServerState.enter]⟩
      · exact ⟨rfl, rfl, rfl, rfl, by simp [ServerState.enter]⟩

/-- The loop moves between two stages in which it has no connection in hand. -/
theorem SessionStep.enter {action : ServerAction} {before after : Stage}
    (here : state.stage = before) (arrived : state.arrived action = []) (fed : state.fed action = [])
    (free : before.inHand = none) (running : ∀ result, before ≠ .ended result)
    (calm : after.inHand = none) (sound : after ≠ .panicked) :
    SessionStep config state action (state.enter after) :=
  .idle arrived fed rfl rfl rfl (Or.inr ⟨here ▸ free, here ▸ running, calm, sound⟩)

theorem taskStep_value {task after : StreamTask} {action : TaskAction} {value : Option Accepted}
    (stepped : taskStep config task action = some (after, value)) :
    (value.map Event.accepted).toList.filterMap Event.packet = [] := by
  rcases taskStep_cases stepped with ⟨_, rfl⟩ | ⟨user, congestion, destination, _, _, rfl⟩
  · rfl
  · rfl

/-- Where the loop stops of itself, it has no packet connection in hand. -/
theorem Stops.session {action : ServerAction} {before : Stage} {result : Result Unit}
    (here : state.stage = before) (stops : Stops before action result) :
    SessionStep config state action (state.enter (.ended result)) := by
  have arrived : state.arrived action = [] := by
    cases stops with
    | malformed admission bytes error refused => simp [ServerState.arrived, here, refused]
    | _ => rfl
  apply SessionStep.enter here arrived
  all_goals cases stops
  all_goals simp [ServerState.fed, Stage.inHand]

theorem serverStep_session {action : ServerAction} (stepped : serverStep config state action = some next) :
    SessionStep config state action next := by
  have decoded : ∀ {admission bytes message}, state.stage = .serving admission →
      decodeMessage bytes = .ok message → state.arrived (.datagram (.ok bytes)) = [message] := by
    intro admission bytes message here read
    simp [ServerState.arrived, here, read]
  cases serverStep_rule stepped with
  | stopped here stops => exact stops.session here
  | connected here => exact .enter here rfl rfl rfl (by simp) rfl (by simp)
  | accepted here => exact .enter here rfl rfl rfl (by simp) rfl (by simp)
  | acceptedAgain here => exact .enter here rfl rfl rfl (by simp) rfl (by simp)
  | first request here =>
    obtain ⟨handles, sessions, packets, calm⟩ := firstRequest_stage config state request
    exact .idle rfl rfl handles sessions packets
      (Or.inr ⟨by rw [here]; rfl, by simp [here], calm⟩)
  | masqueraded request here =>
    refine .idle rfl rfl rfl rfl ?_
      (Or.inr ⟨by rw [here]; rfl, by simp [here], rfl, by simp [ServerState.enter]⟩)
    simp [ServerState.packets, ServerState.emit, ServerState.enter, Event.packet]
  | responded admission here =>
    refine .idle rfl rfl rfl rfl ?_
      (Or.inr ⟨by rw [here]; rfl, by simp [here], rfl, by simp [ServerState.enter]⟩)
    simp [ServerState.packets, ServerState.emit, ServerState.enter, Event.packet]
  | unanswered admission text here =>
    refine .idle rfl rfl rfl rfl ?_
      (Or.inr ⟨by rw [here]; rfl, by simp [here], rfl, by simp [ServerState.fail, ServerState.enter]⟩)
    simp [ServerState.packets, ServerState.emit, ServerState.fail, ServerState.enter, Event.packet]
  | finished admission here => exact .enter here rfl rfl rfl (by simp) rfl (by simp)
  | controlled admission here => exact .idle rfl rfl rfl rfl rfl (Or.inl rfl)
  | spawned admission here => exact .idle rfl rfl rfl rfl rfl (Or.inl rfl)
  | routed admission bytes message handle here read found =>
    exact .route here (decoded here read) rfl found
  | created admission bytes message here read missing =>
    exact .create here (decoded here read) rfl missing
  | announced admission handle message here => exact .announce here
  | refused admission handle message here => exact .refuse here
  | fed admission handle message now next here called => exact .feed here called
  | task index action before after value found moved =>
    refine .idle rfl rfl rfl rfl ?_ (Or.inl rfl)
    rw [ServerState.packets, ServerState.advance, List.filterMap_append, taskStep_value moved,
      List.append_nil, ServerState.packets]
  | received handle target packet rest found held queued =>
    exact .router rfl rfl found rfl (fun _ => held) rfl
  | released handle target found held =>
    exact .router rfl rfl found rfl (fun held => absurd held (by simp)) rfl

end SingQuic.Hysteria2
