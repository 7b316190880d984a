import SingQuic.ShadowQuic.ReceiveLoop
import SingQuic.ShadowQuic.Server

/-! The authentication gate of a SunnyQUIC connection. Every handler that has done
anything visible passed `wait_for_sunny_auth` before, at a moment when the watch held
a user whose credential had been presented. -/
namespace SingQuic.ShadowQuic
open Wire

/-- The handler behind a delivery. -/
def Origin.handler : Origin → Handler
  | .datagram source => .datagram source
  | .packet stream _ => .uni stream

/-- The UDP tasks work only for handlers that were let in. -/
structure Admitted (allowed : Handler → Prop) (receiver : Receiver) : Prop where
  owned : receiver.Owned
  controls : ∀ stream task, receiver.controls stream = some task → allowed (.bi stream)
  datagrams : ∀ source task, receiver.datagrams source = some task → allowed (.datagram source)
  streams : ∀ stream task, receiver.streams stream = some task → task.state ≠ .unaccepted →
    allowed (.uni stream)
  log : ∀ entry ∈ receiver.log, allowed entry.origin.handler

section Receiving
variable {allowed : Handler → Prop} {self next : Receiver} {action : ReceiveAction}

theorem Admitted.startDatagram (admitted : Admitted allowed self) {source : Nat} (bytes : Bytes)
    (entered : allowed (.datagram source)) :
    Admitted allowed (self.startDatagram .spawned source bytes) := by
  have datagrams : ∀ (later : DatagramTask) other task,
      (self.setDatagram source later).datagrams other = some task → allowed (.datagram other) := by
    intro later other task here
    by_cases same : other = source
    · exact same ▸ entered
    · exact admitted.datagrams other task ((self.setDatagram_ne same later).symm.trans here)
  unfold Receiver.startDatagram
  split
  · exact { admitted with datagrams := datagrams _ }
  · exact { admitted with datagrams := datagrams _ }

theorem Admitted.controls_step {dispatch : Dispatch} (admitted : Admitted allowed self)
    (associates : ∀ stream, action = .associate stream → allowed (.bi stream))
    (stepped : receiveStep dispatch self action = some next) (stream : Nat) (task : ControlTask)
    (here : next.controls stream = some task) : allowed (.bi stream) := by
  cases old : self.controls stream with
  | some earlier => exact admitted.controls stream earlier old
  | none =>
    -- a task that moves on was there before
    have known : ∀ {other : Nat} {earlier later : ControlTask}, self.controls other = some earlier →
        (self.setControl other later).controls stream = some task → False := by
      intro other earlier later there here
      have different : stream ≠ other := by
        rintro rfl
        cases old.symm.trans there
      cases old.symm.trans ((self.setControl_ne different later).symm.trans here)
    cases receiveStep_control stepped with
    | quiet _ _ _ born => exact associates stream (born stream task old here).1
    | registered other earlier name id rest _ _ there _ _ same =>
      subst next
      exact (known there here).elim
    | ended other earlier _ there same =>
      subst next
      exact (known there here).elim

theorem Admitted.datagrams_step {dispatch : Dispatch} (admitted : Admitted allowed self)
    (unread : action ≠ .readDatagram) (stepped : receiveStep dispatch self action = some next) :
    (∀ source task, next.datagrams source = some task → allowed (.datagram source)) ∧
      ∀ entry ∈ next.log, allowed entry.origin.handler := by
  have changed : ∀ {target : Nat} {earlier : DatagramTask}, self.datagrams target = some earlier →
      ∀ (later : DatagramTask) source task,
        (self.setDatagram target later).datagrams source = some task → allowed (.datagram source) := by
    intro target earlier known later source task here
    by_cases same : source = target
    · exact same ▸ admitted.datagrams target earlier known
    · exact admitted.datagrams source task ((self.setDatagram_ne same later).symm.trans here)
  cases (receiveStep_loop stepped).1 with
  | quiet _ datagrams _ _ log =>
    refine ⟨datagrams ▸ admitted.datagrams, fun entry member => ?_⟩
    rcases log entry member with old | ⟨stream, index, task, packet, here, accepted⟩
    · exact admitted.log entry old
    · rw [packet]
      exact admitted.streams stream task here accepted
  | arrived source bytes _ _ same =>
    subst next
    exact ⟨admitted.datagrams, admitted.log⟩
  | read source bytes rest asked => exact absurd asked unread
  | routed source task route here _ _ same =>
    subst next
    exact ⟨changed here _, admitted.log⟩
  | quit source task here _ _ same =>
    subst next
    exact ⟨changed here _, admitted.log⟩
  | refused source task route here _ _ same =>
    subst next
    exact ⟨changed here _, admitted.log⟩
  | delivered source task route here _ same =>
    subst next
    refine ⟨changed here _, List.forall_mem_append.mpr ⟨admitted.log, ?_⟩⟩
    exact List.forall_mem_singleton.mpr (admitted.datagrams source task here)

theorem Admitted.streams_step {dispatch : Dispatch} (admitted : Admitted allowed self)
    (accepts : ∀ stream, action = .accept stream → allowed (.uni stream))
    (stepped : receiveStep dispatch self action = some next) (stream : Nat) (task : IncomingStream)
    (here : next.streams stream = some task) (past : task.state ≠ .unaccepted) :
    allowed (.uni stream) := by
  cases (receiveStep_loop stepped).2.past here with
  | same there => exact admitted.streams stream task there past
  | opened fresh =>
    subst task
    exact absurd rfl past
  | accepted earlier asked => exact accepts stream asked
  | moved earlier there kept => exact admitted.streams stream earlier there fun waiting => past (kept waiting)

/-- A step of the UDP tasks, given that whoever starts one was let in. -/
theorem receiveStep_admitted {dispatch : Dispatch} (admitted : Admitted allowed self)
    (unread : action ≠ .readDatagram)
    (associates : ∀ stream, action = .associate stream → allowed (.bi stream))
    (accepts : ∀ stream, action = .accept stream → allowed (.uni stream))
    (stepped : receiveStep dispatch self action = some next) : Admitted allowed next where
  owned := receiveStep_owned admitted.owned stepped
  controls := admitted.controls_step associates stepped
  datagrams := (admitted.datagrams_step unread stepped).1
  streams := admitted.streams_step accepts stepped
  log := (admitted.datagrams_step unread stepped).2

end Receiving

/-- In the course of the run the handler passed `wait_for_sunny_auth` while the watch
held this user, whose credential had been presented before. -/
def Passed (serving : Serving) (users : Credential → Option String) (actions : List ServerAction)
    (handler : Handler) (user : String) : Prop :=
  ∃ before rest state, actions = before ++ .pass handler :: rest ∧
    Transition.run (serverStep serving) .initial before = some state ∧
    state.watch = some (.ok user) ∧ ∃ entry ∈ state.presented, users entry.2 = some user

/-- What the stage of a bidirectional stream says about the gate. -/
def BiGated (passed : String → Prop) (stream : Nat) : BiState → Prop
  | .destination _ user => passed user
  | .offering value => value.origin = stream ∧ passed value.user
  | .extension | .control => ∃ user, passed user
  | .opcode | .credential | .waiting _ | .reset | .ended _ => True

/-- `passed` says which handlers have passed the gate, and with which user. -/
structure Gated (users : Credential → Option String) (passed : Handler → String → Prop)
    (server : Server) : Prop where
  watch : ∀ user, server.watch = some (.ok user) →
    ∃ entry ∈ server.presented, users entry.2 = some user
  streams : ∀ stream task, server.streams stream = some task →
    BiGated (passed (.bi stream)) stream task.state
  accepted : ∀ value ∈ server.accepted, passed (.bi value.origin) value.user
  replies : ∀ reply ∈ server.replies, ∃ user, passed (.bi reply.1) user
  receiver : Admitted (fun handler => ∃ user, passed handler user) server.receiver

section Steps
variable {users : Credential → Option String} {passed later : Handler → String → Prop}
  {self next : Server} {stream : Nat} {task : BiStream} {serving : Serving}

theorem BiGated.mono {one two : String → Prop} (weaker : ∀ user, one user → two user)
    {state : BiState} (gated : BiGated one stream state) : BiGated two stream state := by
  cases state with
  | destination request user => exact weaker user gated
  | offering value => exact ⟨gated.1, weaker _ gated.2⟩
  | extension => exact gated.imp weaker
  | control => exact gated.imp weaker
  | _ => trivial

theorem Gated.mono (weaker : ∀ handler user, passed handler user → later handler user)
    (gated : Gated users passed self) : Gated users later self where
  watch := gated.watch
  streams stream task here := (gated.streams stream task here).mono (weaker _)
  accepted value member := weaker _ _ (gated.accepted value member)
  replies reply member := (gated.replies reply member).imp fun _ => weaker _ _
  receiver :=
    { owned := gated.receiver.owned
      controls := fun stream task here => (gated.receiver.controls stream task here).imp fun _ => weaker _ _
      datagrams := fun source task here =>
        (gated.receiver.datagrams source task here).imp fun _ => weaker _ _
      streams := fun stream task here past =>
        (gated.receiver.streams stream task here past).imp fun _ => weaker _ _
      log := fun entry member => (gated.receiver.log entry member).imp fun _ => weaker _ _ }

theorem Gated.setStream (gated : Gated users passed self) (after : BiStream)
    (moved : BiGated (passed (.bi stream)) stream after.state) :
    Gated users passed (self.setStream stream after) := by
  refine { gated with streams := ?_ }
  intro other existing here
  by_cases same : other = stream
  · subst other
    cases (Function.update_self _ _ _).symm.trans here
    exact moved
  · exact gated.streams other existing ((Function.update_of_ne same _ _).symm.trans here)

/-- A presented credential is on record before its user is published. -/
theorem Gated.present (gated : Gated users passed self) (credential : Credential) (rest : Bytes) :
    Gated users passed (self.present users stream credential rest) := by
  have noted : Gated users passed { self with presented := self.presented ++ [(stream, credential)] } :=
    { gated with
      watch := fun user held => by
        obtain ⟨entry, member, known⟩ := gated.watch user held
        exact ⟨entry, List.mem_append_left _ member, known⟩ }
  unfold Server.present
  dsimp only
  split
  · rename_i username found
    refine { noted.setStream ⟨rest, .ended (.ok ())⟩ trivial with watch := ?_ }
    intro user held
    cases held
    exact ⟨(stream, credential), List.mem_append_right _ (List.mem_singleton_self _), found⟩
  · refine { noted.setStream ⟨rest, .ended (.error (.protocol
      "SunnyQUIC authentication failed"))⟩ trivial with watch := ?_ }
    intro user held
    cases held

theorem Gated.receive (gated : Gated users passed self) {receiver : Receiver} {action : ReceiveAction}
    (unread : action ≠ .readDatagram)
    (associates : ∀ stream, action = .associate stream → ∃ user, passed (.bi stream) user)
    (accepts : ∀ stream, action = .accept stream → ∃ user, passed (.uni stream) user)
    (stepped : receiveStep .spawned self.receiver action = some receiver) :
    Gated users passed { self with receiver } :=
  { gated with receiver := receiveStep_admitted gated.receiver unread associates accepts stepped }

theorem Gated.enter (gated : Gated users passed self) {user : String} {handler : Handler}
    (passes : passed handler user) (stepped : self.enter user handler = some next) :
    Gated users passed next := by
  cases handler with
  | bi stream =>
    obtain ⟨task, here, moved⟩ := Option.bind_eq_some_iff.mp stepped
    split at moved
    · obtain rfl := Option.some.inj moved
      exact gated.setStream _ passes
    · obtain rfl := Option.some.inj moved
      exact gated.setStream _ ⟨user, passes⟩
    · contradiction
  | uni stream =>
    simp only [Server.enter] at stepped
    split at stepped
    · obtain ⟨receiver, accepted, rfl⟩ := Option.map_eq_some_iff.mp stepped
      have moved := gated.receive (by simp) (by simp)
        (fun other same => by cases same; exact ⟨user, passes⟩) accepted
      exact { moved with }
    · contradiction
  | datagram source =>
    simp only [Server.enter] at stepped
    split at stepped
    · obtain rfl := Option.some.inj stepped
      exact { gated with receiver := gated.receiver.startDatagram _ ⟨user, passes⟩ }
    · contradiction

theorem Gated.leave (gated : Gated users passed self) {error : Error} {handler : Handler}
    (stepped : self.leave error handler = some next) : Gated users passed next := by
  cases handler with
  | bi stream =>
    obtain ⟨task, here, moved⟩ := Option.bind_eq_some_iff.mp stepped
    split at moved
    · obtain rfl := Option.some.inj moved
      exact gated.setStream _ trivial
    · contradiction
  | uni stream =>
    simp only [Server.leave] at stepped
    split at stepped
    · obtain rfl := Option.some.inj stepped
      exact { gated with }
    · contradiction
  | datagram source =>
    simp only [Server.leave] at stepped
    split at stepped
    · obtain rfl := Option.some.inj stepped
      exact { gated with }
    · contradiction

theorem Gated.hand (gated : Gated users passed self) {value : Accepted}
    (from' : value.origin = stream) (passes : passed (.bi stream) value.user)
    (stepped : self.hand stream task value = some next) : Gated users passed next := by
  have offered : Gated users passed { self with accepted := self.accepted ++ [value] } := by
    refine { gated with accepted := ?_ }
    refine List.forall_mem_append.mpr ⟨gated.accepted, List.forall_mem_singleton.mpr ?_⟩
    rw [from']
    exact passes
  unfold Server.hand at stepped
  dsimp only at stepped
  split at stepped
  · obtain rfl := Option.some.inj stepped
    exact offered.setStream _ trivial
  · obtain ⟨receiver, associated, rest⟩ := Option.bind_eq_some_iff.mp stepped
    obtain ⟨final, arrived, rfl⟩ := Option.map_eq_some_iff.mp rest
    have opened := offered.receive (by simp)
      (fun other same => by cases same; exact ⟨_, passes⟩) (by simp) associated
    have filled := opened.receive (by simp) (by simp) (by simp) arrived
    exact filled.setStream ⟨[], .control⟩ ⟨_, passes⟩

theorem Gated.answer (gated : Gated users passed self) {user : String} (passes : passed (.bi stream) user)
    (rest : Bytes) (extension : Nat) (opcode : UInt8) (stats : PathStats) :
    Gated users passed (self.answer stream rest extension opcode stats) := by
  unfold Server.answer
  split
  · exact gated.setStream _ trivial
  · refine { gated.setStream ⟨rest, .ended (.ok ())⟩ trivial with replies := ?_ }
    exact List.forall_mem_append.mpr ⟨gated.replies, List.forall_mem_singleton.mpr ⟨user, passes⟩⟩

/-- The user of an accepted value is the one that passed the gate: a SunnyQUIC
connection has no other user to fall back on. -/
theorem acceptedValue_user (noUser : serving.user = "") (stream : Nat) (destination : Address) (user : String)
    (request : ProxyRequest) :
    (acceptedValue serving stream destination user request).user = user ∧
      (acceptedValue serving stream destination user request).origin = stream := by
  cases request <;> by_cases empty : user = "" <;>
    simp [acceptedValue, Accepted.user, Accepted.origin, empty, noUser]

end Steps

theorem serverStep_gated {users : Credential → Option String} {passed : Handler → String → Prop}
    {serving : Serving} {self next : Server} {action : ServerAction}
    (sunny : serving.authentication = .sunny users) (noUser : serving.user = "")
    (gated : Gated users passed self)
    (passes : ∀ handler user, action = .pass handler → self.watch = some (.ok user) →
      passed handler user)
    (stepped : serverStep serving self action = some next) : Gated users passed next := by
  cases action with
  | accept stream =>
    simp only [serverStep] at stepped
    split at stepped
    · obtain rfl := Option.some.inj stepped
      exact gated.setStream _ trivial
    · contradiction
  | acceptUni stream =>
    simp only [serverStep] at stepped
    split at stepped
    · obtain rfl := Option.some.inj stepped
      exact { gated with }
    · contradiction
  | readDatagram =>
    simp only [serverStep] at stepped
    split at stepped
    · contradiction
    · split at stepped
      · obtain rfl := Option.some.inj stepped
        exact { gated with receiver := { gated.receiver with } }
      · contradiction
  | arrive stream bytes =>
    simp only [serverStep] at stepped
    split at stepped
    · contradiction
    · obtain ⟨task, here, moved⟩ := Option.bind_eq_some_iff.mp stepped
      split at moved
      · obtain ⟨receiver, arrived, rfl⟩ := Option.map_eq_some_iff.mp moved
        exact gated.receive (by simp) (by simp) (by simp) arrived
      · obtain rfl := Option.some.inj moved
        exact gated.setStream _ (gated.streams stream task here)
  | readOpcode stream =>
    obtain ⟨task, here, moved⟩ := Option.bind_eq_some_iff.mp stepped
    split at moved
    · rename_i opcode rest _ _
      obtain rfl := Option.some.inj moved
      refine gated.setStream _ ?_
      dsimp only
      split
      · rw [sunny]
        trivial
      · cases requestOf opcode <;> trivial
    · contradiction
  | authenticate stream =>
    obtain ⟨task, here, moved⟩ := Option.bind_eq_some_iff.mp stepped
    rw [sunny] at moved
    split at moved
    · rename_i known _ _ same _ _
      cases same
      obtain rfl := Option.some.inj moved
      exact gated.present _ _
    · contradiction
  | pass handler =>
    simp only [serverStep, sunny, waitForSunnyAuth] at stepped
    split at stepped
    · rename_i user waited
      obtain ⟨value, held, same⟩ := Option.map_eq_some_iff.mp waited
      cases value with
      | error text => cases same
      | ok name =>
        obtain rfl := Except.ok.inj same
        exact gated.enter (passes handler name rfl held) stepped
    · contradiction
  | refuse handler error =>
    simp only [serverStep] at stepped
    split at stepped
    · exact gated.leave stepped
    · contradiction
  | readDestination stream =>
    obtain ⟨task, here, moved⟩ := Option.bind_eq_some_iff.mp stepped
    have old := gated.streams stream task here
    split at moved
    · rename_i request user destination rest state _
      obtain rfl := Option.some.inj moved
      rw [state] at old
      obtain ⟨name, origin⟩ := acceptedValue_user noUser stream destination user request
      exact gated.setStream _ ⟨origin, name.symm ▸ old⟩
    · obtain rfl := Option.some.inj moved
      exact gated.setStream _ trivial
    · contradiction
  | offer stream =>
    obtain ⟨task, here, moved⟩ := Option.bind_eq_some_iff.mp stepped
    have old := gated.streams stream task here
    split at moved
    · rename_i value state
      rw [state] at old
      exact gated.hand old.1 old.2 moved
    · contradiction
  | abandon stream =>
    obtain ⟨task, here, moved⟩ := Option.bind_eq_some_iff.mp stepped
    split at moved
    · obtain rfl := Option.some.inj moved
      exact gated.setStream _ trivial
    · contradiction
  | readExtension stream stats =>
    obtain ⟨task, here, moved⟩ := Option.bind_eq_some_iff.mp stepped
    have old := gated.streams stream task here
    split at moved
    · rename_i state _
      rw [state] at old
      obtain ⟨user, passes⟩ := old
      obtain rfl := Option.some.inj moved
      exact gated.answer passes _ _ _ _
    · contradiction
  | fail stream text =>
    obtain ⟨task, here, moved⟩ := Option.bind_eq_some_iff.mp stepped
    split at moved
    all_goals first
      | contradiction
      | obtain rfl := Option.some.inj moved
        exact gated.setStream _ trivial
  | receive action =>
    simp only [serverStep] at stepped
    split at stepped
    · rename_i granted
      obtain ⟨receiver, received, rfl⟩ := Option.map_eq_some_iff.mp stepped
      refine gated.receive ?_ ?_ ?_ received
      · rintro rfl
        contradiction
      · rintro stream rfl
        contradiction
      · rintro stream rfl
        contradiction
    · contradiction
  | shut =>
    simp only [serverStep] at stepped
    split at stepped
    · obtain rfl := Option.some.inj stepped
      exact { gated with receiver := { gated.receiver with } }
    · contradiction

theorem Server.initial_gated (users : Credential → Option String) (passed : Handler → String → Prop) :
    Gated users passed Server.initial where
  watch _ held := absurd held (by simp [Server.initial])
  streams _ _ here := absurd here (by simp [Server.initial])
  accepted _ member := absurd member List.not_mem_nil
  replies _ member := absurd member List.not_mem_nil
  receiver :=
    { owned := Receiver.initial_owned
      controls := fun _ _ here => absurd here (by simp [Server.initial, Receiver.initial])
      datagrams := fun _ _ here => absurd here (by simp [Server.initial, Receiver.initial])
      streams := fun _ _ here => absurd here (by simp [Server.initial, Receiver.initial])
      log := fun _ member => absurd member List.not_mem_nil }

theorem Passed.concat {serving : Serving} {users : Credential → Option String}
    {actions : List ServerAction} {handler : Handler} {user : String}
    (passed : Passed serving users actions handler user) (action : ServerAction) :
    Passed serving users (actions ++ [action]) handler user := by
  obtain ⟨before, rest, state, split, reached⟩ := passed
  exact ⟨before, rest ++ [action], state, by simp [split], reached⟩

theorem run_gated {users : Credential → Option String} {serving : Serving}
    {actions : List ServerAction} {server : Server} (sunny : serving.authentication = .sunny users)
    (noUser : serving.user = "")
    (execution : Transition.run (serverStep serving) .initial actions = some server) :
    Gated users (Passed serving users actions) server := by
  refine Transition.run_induction (P := fun actions state =>
    Gated users (Passed serving users actions) state) (Server.initial_gated users _) ?_ execution
  intro actions middle action final reached gated stepped
  -- what had been passed before is still in the longer run
  have extended : Gated users (Passed serving users (actions ++ [action])) middle :=
    gated.mono fun _ _ passed => passed.concat action
  refine serverStep_gated sunny noUser extended ?_ stepped
  rintro handler user rfl held
  exact ⟨actions, [], middle, rfl, reached, held, gated.watch user held⟩

/-- Every visible effect of a connection came after its handler had passed the gate,
and an accepted value carries the user that the watch held at that moment. -/
structure Authenticated (serving : Serving) (users : Credential → Option String)
    (actions : List ServerAction) (server : Server) : Prop where
  accepted : ∀ value ∈ server.accepted,
    Passed serving users actions (.bi value.origin) value.user
  replies : ∀ reply ∈ server.replies, ∃ user, Passed serving users actions (.bi reply.1) user
  registered : ∀ stream task record, server.receiver.controls stream = some task →
    record ∈ task.records → ∃ user, Passed serving users actions (.bi stream) user
  routes : ∀ id route, server.receiver.routes id = some route →
    ∃ user, Passed serving users actions (.bi route.sender) user
  queued : ∀ entry ∈ server.receiver.log,
    ∃ user, Passed serving users actions entry.origin.handler user

/-- Along every run of a connection served with SunnyQUIC users. -/
theorem sunny_gate {users : Credential → Option String} {source : Net.SocketAddr}
    {handshake : Option HandshakeData} {congestion : Option CongestionKind} {serving : Serving}
    {actions : List ServerAction} {server : Server}
    (opened : serveConnection (.sunny users) source handshake congestion = .ok serving)
    (execution : Transition.run (serverStep serving) .initial actions = some server) :
    Authenticated serving users actions server := by
  obtain rfl : (⟨.sunny users, "", source⟩ : Serving) = serving := by
    unfold serveConnection at opened
    change (if congestion.isNone then _ else _) = _ at opened
    split at opened
    · contradiction
    · exact Except.ok.inj opened
  have gated := run_gated rfl rfl execution
  refine ⟨gated.accepted, gated.replies, fun stream task _ here _ => gated.receiver.controls stream task here,
    fun id route found => ?_, gated.receiver.log⟩
  obtain ⟨task, here, _⟩ := gated.receiver.owned id route found
  exact gated.receiver.controls route.sender task here

def aliceCredential : Credential := ⟨List.replicate 64 1, rfl⟩

def aliceOnly (credential : Credential) : Option String :=
  if credential = aliceCredential then some "alice" else none

def aliceServing : Serving := ⟨.sunny aliceOnly, "", ⟨.v4 ⟨[127, 0, 0, 1], rfl⟩, 4000⟩⟩

/-- An association that is opened before the credential comes, with one record and one
datagram, and a request for statistics. -/
def aliceRun : List ServerAction :=
  [.accept 1, .arrive 1 [3, 3, 1, 97, 0, 1, 3, 1, 98, 0, 1, 0, 5], .readOpcode 1, .accept 0,
    .arrive 0 (5 :: List.replicate 64 1), .readOpcode 0, .authenticate 0, .pass (.bi 1),
    .readDestination 1, .offer 1, .receive (.record 1), .receive (.arriveDatagram 0 [0, 5, 9]),
    .readDatagram, .pass (.datagram 0), .receive (.route 0), .receive (.deliver 0), .accept 2,
    .arrive 2 [255, 0, 0, 0, 0, 0, 0, 0, 1, 0], .readOpcode 2, .pass (.bi 2),
    .readExtension 2 ⟨0, 0, 0, 1200⟩]

theorem sunny_gate_alice :
    ∃ server, Transition.run (serverStep aliceServing) .initial aliceRun = some server ∧
      server.accepted.map Accepted.user = ["alice"] ∧ server.replies.map Prod.fst = [2] ∧
      server.receiver.log.map Delivery.association = [1] ∧
      Authenticated aliceServing aliceOnly aliceRun server := by
  have reached : (Transition.run (serverStep aliceServing) .initial aliceRun).map (fun server =>
      (server.accepted.map Accepted.user, server.replies.map Prod.fst,
        server.receiver.log.map Delivery.association)) = some (["alice"], [2], [1]) := by decide
  obtain ⟨server, execution, same⟩ := Option.map_eq_some_iff.mp reached
  obtain ⟨users, rest⟩ := Prod.mk.inj same
  obtain ⟨replies, queue⟩ := Prod.mk.inj rest
  have opened : serveConnection (.sunny aliceOnly) ⟨.v4 ⟨[127, 0, 0, 1], rfl⟩, 4000⟩ none (some .bbr) =
      .ok aliceServing := rfl
  exact ⟨server, execution, users, replies, queue, sunny_gate opened execution⟩

end SingQuic.ShadowQuic
