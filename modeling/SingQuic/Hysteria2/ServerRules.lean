import SingQuic.Hysteria2.Server

/-! What a server connection does in one step. The select loop, the stream tasks and
the router take their steps independently of each other; the loop itself leaves when
one of its awaits fails. -/
namespace SingQuic.Hysteria2
open Wire

/-- The awaits of the loop that end it before it has a packet connection in hand, and
what the connection returns then. -/
inductive Stops : Stage → ServerAction → Result Unit → Prop where
  | connect (text : String) : Stops .connecting (.connect (.error text)) (.error (.http3 text))
  | unauthenticated :
      Stops .accepting (.accept (.ok false)) (.error (.protocol "connection closed before authentication"))
  | accept (text : String) : Stops .accepting (.accept (.error text)) (.error (.http3 text))
  | resolve (text : String) : Stops .resolving (.resolve (.error text)) (.error (.http3 text))
  | closed : Stops (.masquerading false) (.accept (.ok false)) (.ok ())
  | acceptAgain (text : String) :
      Stops (.masquerading false) (.accept (.error text)) (.error (.http3 text))
  | resolveAgain (text : String) :
      Stops (.masquerading true) (.resolve (.error text)) (.error (.http3 text))
  | finish (admission : Admission) (text : String) :
      Stops (.finishing admission) (.finish (.error text)) (.error (.http3 text))
  | control (admission : Admission) (text : String) :
      Stops (.serving admission) (.control (.error text)) (.error (.http3 text))
  | acceptBi (admission : Admission) (text : String) :
      Stops (.serving admission) (.acceptBi (.error text)) (.error (.connection text))
  | datagram (admission : Admission) (text : String) :
      Stops (.serving admission) (.datagram (.error text)) (.error (.connection text))
  | malformed (admission : Admission) (bytes : Bytes) (error : Error)
      (refused : decodeMessage bytes = .error error) :
      Stops (.serving admission) (.datagram (.ok bytes)) (.error error)

/-- The rules of `serverStep`. -/
inductive ServerRule (config : Config) (state : ServerState) : ServerAction → ServerState → Prop where
  | stopped {action : ServerAction} {before : Stage} {result : Result Unit}
      (here : state.stage = before) (stops : Stops before action result) :
      ServerRule config state action (state.enter (.ended result))
  | connected (here : state.stage = .connecting) :
      ServerRule config state (.connect (.ok ())) (state.enter .accepting)
  | accepted (here : state.stage = .accepting) :
      ServerRule config state (.accept (.ok true)) (state.enter .resolving)
  | acceptedAgain (here : state.stage = .masquerading false) :
      ServerRule config state (.accept (.ok true)) (state.enter (.masquerading true))
  | first (request : Request) (here : state.stage = .resolving) :
      ServerRule config state (.resolve (.ok request)) (state.firstRequest config request)
  | masqueraded (request : Request) (here : state.stage = .masquerading true) :
      ServerRule config state (.resolve (.ok request))
        ((state.emit (.masquerade request)).enter (.masquerading false))
  | responded (admission : Admission) (here : state.stage = .responding admission) :
      ServerRule config state (.respond (.ok ())) ((state.emit (.authSuccess statusAuthOk "true"
        (congestionReceiveValue admission.advertised))).enter (.finishing admission))
  | unanswered (admission : Admission) (text : String) (here : state.stage = .responding admission) :
      ServerRule config state (.respond (.error text)) ((state.emit (.authSuccess statusAuthOk "true"
        (congestionReceiveValue admission.advertised))).fail (.http3 text))
  | finished (admission : Admission) (here : state.stage = .finishing admission) :
      ServerRule config state (.finish (.ok ())) (state.enter (.serving admission))
  | controlled (admission : Admission) (here : state.stage = .serving admission) :
      ServerRule config state (.control (.ok ())) state
  | spawned (admission : Admission) (here : state.stage = .serving admission) :
      ServerRule config state (.acceptBi (.ok ()))
        { state with tasks := state.tasks ++ [.reading admission.user admission.congestion []] }
  | routed (admission : Admission) (bytes : Bytes) (message : UdpMessage) (handle : Nat)
      (here : state.stage = .serving admission) (read : decodeMessage bytes = .ok message)
      (found : state.upgrade message.sessionId = some handle) :
      ServerRule config state (.datagram (.ok bytes)) (state.enter (.feeding admission handle message))
  | created (admission : Admission) (bytes : Bytes) (message : UdpMessage)
      (here : state.stage = .serving admission) (read : decodeMessage bytes = .ok message)
      (missing : state.upgrade message.sessionId = none) :
      ServerRule config state (.datagram (.ok bytes))
        ({ state with handles := state.handles ++
            [(⟨message.sessionId, false, Defragger.default, []⟩ : PacketHandle)] }.enter
          (.handing admission state.handles.length message))
  | announced (admission : Admission) (handle : Nat) (message : UdpMessage)
      (here : state.stage = .handing admission handle message) :
      ServerRule config state (.hand true) (state.announce config admission handle message)
  | refused (admission : Admission) (handle : Nat) (message : UdpMessage)
      (here : state.stage = .handing admission handle message) :
      ServerRule config state (.hand false) (state.fail .closed)
  | fed (admission : Admission) (handle : Nat) (message : UdpMessage) (now : Instant)
      (next : ServerState) (here : state.stage = .feeding admission handle message)
      (called : state.input admission handle now message = some next) :
      ServerRule config state (.feed now) next
  | task (index : Nat) (action : TaskAction) (before after : StreamTask) (value : Option Accepted)
      (found : state.tasks[index]? = some before)
      (moved : taskStep config before action = some (after, value)) :
      ServerRule config state (.task index action) (state.advance index after value)
  | received (handle : Nat) (target : PacketHandle) (packet : Hysteria2Packet)
      (rest : List Hysteria2Packet) (found : state.handles[handle]? = some target)
      (held : target.held = true) (queued : target.incoming = packet :: rest) :
      ServerRule config state (.receive handle)
        { state with handles := state.handles.set handle { target with incoming := rest } }
  | released (handle : Nat) (target : PacketHandle) (found : state.handles[handle]? = some target)
      (held : target.held = true) :
      ServerRule config state (.release handle)
        { state with handles := state.handles.set handle { target with held := false } }

variable {config : Config} {state next : ServerState}

theorem receiveDatagram_rule {admission : Admission} (bytes : Bytes)
    (here : state.stage = .serving admission) :
    ServerRule config state (.datagram (.ok bytes)) (state.receiveDatagram admission bytes) := by
  unfold ServerState.receiveDatagram
  split
  · rename_i error refused
    exact .stopped here (.malformed admission bytes error refused)
  · rename_i message read
    split
    · rename_i handle found
      exact .routed admission bytes message handle here read found
    · rename_i missing
      exact .created admission bytes message here read missing

theorem serverStep_rule {action : ServerAction} (stepped : serverStep config state action = some next) :
    ServerRule config state action next := by
  cases action with
  | connect result =>
    simp only [serverStep] at stepped
    split at stepped <;> cases stepped
    · apply ServerRule.connected
      assumption
    · exact .stopped (by assumption) (.connect _)
  | accept result =>
    simp only [serverStep] at stepped
    split at stepped <;> cases stepped
    · apply ServerRule.accepted
      assumption
    · exact .stopped (by assumption) .unauthenticated
    · exact .stopped (by assumption) (.accept _)
    · apply ServerRule.acceptedAgain
      assumption
    · exact .stopped (by assumption) .closed
    · exact .stopped (by assumption) (.acceptAgain _)
  | resolve result =>
    simp only [serverStep] at stepped
    split at stepped <;> cases stepped
    · apply ServerRule.first
      assumption
    · exact .stopped (by assumption) (.resolve _)
    · apply ServerRule.masqueraded
      assumption
    · exact .stopped (by assumption) (.resolveAgain _)
  | respond result =>
    simp only [serverStep] at stepped
    split at stepped
    · rename_i admission here
      split at stepped <;> cases stepped
      · exact .responded admission here
      · exact .unanswered admission _ here
    · contradiction
  | finish result =>
    simp only [serverStep] at stepped
    split at stepped <;> cases stepped
    · apply ServerRule.finished
      assumption
    · exact .stopped (by assumption) (.finish _ _)
  | control result =>
    simp only [serverStep] at stepped
    split at stepped <;> cases stepped
    · apply ServerRule.controlled
      assumption
    · exact .stopped (by assumption) (.control _ _)
  | acceptBi result =>
    simp only [serverStep] at stepped
    split at stepped <;> cases stepped
    · apply ServerRule.spawned
      assumption
    · exact .stopped (by assumption) (.acceptBi _ _)
  | datagram result =>
    simp only [serverStep] at stepped
    split at stepped <;> cases stepped
    · apply receiveDatagram_rule
      assumption
    · exact .stopped (by assumption) (.datagram _ _)
  | hand delivered =>
    simp only [serverStep] at stepped
    split at stepped
    · rename_i admission handle message here
      cases delivered with
      | true =>
        obtain rfl := Option.some.inj stepped
        exact .announced admission handle message here
      | false =>
        obtain rfl := Option.some.inj stepped
        exact .refused admission handle message here
    · contradiction
  | feed now =>
    simp only [serverStep] at stepped
    split at stepped
    · rename_i admission handle message here
      exact .fed admission handle message now next here stepped
    · contradiction
  | task index action =>
    obtain ⟨before, found, rest⟩ := Option.bind_eq_some_iff.mp stepped
    obtain ⟨⟨after, value⟩, moved, rfl⟩ := Option.map_eq_some_iff.mp rest
    exact .task index action before after value found moved
  | receive handle =>
    simp only [serverStep] at stepped
    split at stepped
    · rename_i target found
      split at stepped
      · rename_i packet rest held queued
        obtain rfl := Option.some.inj stepped
        exact .received handle target packet rest found held queued
      · contradiction
    · contradiction
  | release handle =>
    simp only [serverStep] at stepped
    split at stepped
    · rename_i target found
      split at stepped
      · rename_i held
        obtain rfl := Option.some.inj stepped
        exact .released handle target found held
      · contradiction
    · contradiction

/-- What `input` does: one call of `feed` on the table of one connection. -/
theorem input_cases {admission : Admission} {handle : Nat} {now : Instant} {message : UdpMessage}
    (called : state.input admission handle now message = some next) :
    ∃ target, state.handles[handle]? = some target ∧
      ((target.defragger.feed now message = none ∧ next = state.enter .panicked) ∨
        ∃ outcome after stage, target.defragger.feed now message = some (outcome, after.defragger) ∧
          after.sessionId = target.sessionId ∧ after.held = target.held ∧
          next = { state with handles := state.handles.set handle after }.enter stage ∧
          (stage = .serving admission ∨ ∃ error, stage = .ended (.error error))) := by
  unfold ServerState.input at called
  obtain ⟨target, found, rfl⟩ := Option.map_eq_some_iff.mp called
  refine ⟨target, found, ?_⟩
  split
  · rename_i panics
    exact Or.inl ⟨panics, rfl⟩
  · rename_i error defragger read
    exact Or.inr ⟨_, { target with defragger }, _, read, rfl, rfl, rfl, Or.inr ⟨error, rfl⟩⟩
  · rename_i packet defragger read
    exact Or.inr ⟨_, { target with defragger, incoming := _ }, _, read, rfl, rfl, rfl, Or.inl rfl⟩

/-- A handler keeps its user, and hands on a stream in that user's name or nothing. -/
theorem taskStep_cases {task after : StreamTask} {action : TaskAction} {value : Option Accepted}
    (stepped : taskStep config task action = some (after, value)) :
    (after.user = task.user ∧ value = none) ∨
      ∃ user congestion destination, task = .handing user congestion destination ∧
        after = .ended user (.ok ()) ∧
        value = some (.stream destination user config.source congestion) := by
  cases task with
  | reading user congestion unread =>
    cases action with
    | arrive bytes =>
      cases stepped
      exact Or.inl ⟨rfl, rfl⟩
    | readRequest =>
      dsimp only [taskStep] at stepped
      split at stepped
      · cases stepped
        exact Or.inl ⟨rfl, rfl⟩
      · cases stepped
        exact Or.inl ⟨rfl, rfl⟩
      · contradiction
    | readFails text =>
      cases stepped
      exact Or.inl ⟨rfl, rfl⟩
    | _ => cases stepped
  | responding user congestion destination =>
    cases action with
    | writeResponse result =>
      cases result with
      | ok =>
        cases stepped
        exact Or.inl ⟨rfl, rfl⟩
      | error text =>
        cases stepped
        exact Or.inl ⟨rfl, rfl⟩
    | _ => cases stepped
  | handing user congestion destination =>
    cases action with
    | hand delivered =>
      cases delivered with
      | true =>
        cases stepped
        exact Or.inr ⟨user, congestion, destination, rfl, rfl, rfl⟩
      | false =>
        cases stepped
        exact Or.inl ⟨rfl, rfl⟩
    | _ => cases stepped
  | ended user result => cases stepped

end SingQuic.Hysteria2
