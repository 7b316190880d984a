import SingQuic.Lib.Table
import SingQuic.Hysteria2.ServerRules

/-! The authentication gate of a Hysteria2 connection. The first request decides
once and for all: the connection is admitted under one user, or it serves nothing
but masquerade requests for the rest of its life. -/
namespace SingQuic.Hysteria2
open Wire

/-- The password a request presents. -/
def Request.password (request : Request) : Option String :=
  (request.header headerAuth).bind headerText

/-- What a first request must look like to be admitted under a configured user. -/
structure Config.Grants (config : Config) (request : Request) (user : User) : Prop where
  configured : user ∈ config.users
  method : request.method = "POST"
  authority : request.authority = some "hysteria"
  path : request.path = "/auth"
  password : request.password = some user.password
  bandwidth : ¬ (0 < config.bandwidth.receiveBps ∧ config.bandwidth.ignoreClientBandwidth = true ∧
    ¬ ∃ rate, 0 < rate ∧ parseCongestionReceive (request.header headerCcRx) = .rate rate)

/-- The requests resolved in a run, in order. -/
def resolved (actions : List ServerAction) : List Request :=
  actions.filterMap fun
    | .resolve (.ok request) => some request
    | _ => none

/-- Every request so far went to the masquerade handler, and nothing else left
the connection. -/
structure Denied (config : Config) (requests : List Request) (state : ServerState) : Prop where
  ungranted : ∀ first, requests.head? = some first → ∀ user, ¬ config.Grants first user
  idle : state.tasks = []
  masqueraded : state.log = requests.map .masquerade

/-- The only request was granted to a user, in whose name everything happens. -/
structure Admitted (config : Config) (requests : List Request) (name : String) (state : ServerState) :
    Prop where
  granted : ∃ first user, requests = [first] ∧ config.Grants first user ∧ user.name = name
  tasks : ∀ task ∈ state.tasks, task.user = name
  log : ∀ event ∈ state.log, (∃ status udp receive, event = .authSuccess status udp receive) ∨
    ∃ value, event = .accepted value ∧ value.user = name

/-- The gate invariant, stage by stage. -/
def Gated (config : Config) (requests : List Request) (state : ServerState) : Prop :=
  match state.stage with
  | .connecting | .accepting | .resolving => requests = [] ∧ Denied config requests state
  | .masquerading _ => requests ≠ [] ∧ Denied config requests state
  | .responding admission | .finishing admission | .serving admission | .handing admission _ _
  | .feeding admission _ _ =>
    Admitted config requests admission.user state
  | .panicked | .ended _ =>
    Denied config requests state ∨ ∃ name, Admitted config requests name state

section
variable {config : Config} {requests : List Request} {name : String} {state next : ServerState}

theorem lookup_mem {password : String} (found : config.lookup password = some name) :
    ∃ user ∈ config.users, user.password = password ∧ user.name = name :=
  Table.of_collect User.password User.name found

/-- Passing both tests of the source grants admission to a configured user. -/
theorem grants_of_authenticate {request : Request} (passed : config.authenticate request = some name)
    (kept : config.diverts request = false) :
    ∃ user, config.Grants request user ∧ user.name = name := by
  unfold Config.authenticate at passed
  dsimp only at passed
  split at passed
  · rename_i form
    obtain ⟨password, presented, found⟩ := Option.bind_eq_some_iff.mp passed
    obtain ⟨user, member, same, named⟩ := lookup_mem found
    refine ⟨user, ⟨member, form.1, form.2.1, form.2.2, same ▸ presented, ?_⟩, named⟩
    rintro ⟨fixed, ignored, undeclared⟩
    simp only [Config.diverts, fixed, ignored, decide_true, Bool.and_self, Bool.true_and] at kept
    split at kept
    · rename_i rate declared
      exact undeclared ⟨rate, Nat.pos_of_ne_zero (by simpa using kept), declared⟩
    · contradiction
  · contradiction

theorem authenticate_of_grants {request : Request} {user : User}
    (grants : config.Grants request user) :
    (∃ name, config.authenticate request = some name) ∧ config.diverts request = false := by
  obtain ⟨last, _, _, found⟩ := Table.collect_of_mem User.password User.name grants.configured
  refine ⟨⟨last.name, ?_⟩, ?_⟩
  · have presented : (request.header headerAuth).bind headerText = some user.password :=
      grants.password
    rw [Config.authenticate, if_pos ⟨grants.method, grants.authority, grants.path⟩, presented,
      Option.bind_some]
    exact found
  · by_contra diverted
    have diverted : config.diverts request = true := by simpa using diverted
    simp only [Config.diverts, Bool.and_eq_true, decide_eq_true_eq] at diverted
    refine grants.bandwidth ⟨diverted.1.1, diverted.1.2, ?_⟩
    rintro ⟨rate, positive, declared⟩
    rw [declared] at diverted
    exact absurd (of_decide_eq_true diverted.2) (by omega)

/-- Both conclusions depend on the tasks and the log alone. -/
theorem Denied.congr (denied : Denied config requests state) (tasks : next.tasks = state.tasks)
    (log : next.log = state.log) : Denied config requests next :=
  ⟨denied.ungranted, tasks ▸ denied.idle, log ▸ denied.masqueraded⟩

theorem Admitted.congr (admitted : Admitted config requests name state)
    (tasks : next.tasks = state.tasks) (log : next.log = state.log) :
    Admitted config requests name next :=
  ⟨admitted.granted, tasks ▸ admitted.tasks, log ▸ admitted.log⟩

theorem Admitted.emit (admitted : Admitted config requests name state) (event : Event)
    (own : (∃ status udp receive, event = .authSuccess status udp receive) ∨
      ∃ value, event = .accepted value ∧ value.user = name) :
    Admitted config requests name (state.emit event) := by
  refine ⟨admitted.granted, admitted.tasks, ?_⟩
  exact List.forall_mem_append.mpr ⟨admitted.log, List.forall_mem_singleton.mpr own⟩

theorem taskStep_user {task after : StreamTask} {action : TaskAction} {value : Option Accepted}
    (stepped : taskStep config task action = some (after, value)) :
    after.user = task.user ∧ ∀ accepted, value = some accepted → accepted.user = task.user := by
  rcases taskStep_cases stepped with ⟨same, rfl⟩ | ⟨user, congestion, destination, rfl, rfl, rfl⟩
  · exact ⟨same, by simp⟩
  · exact ⟨rfl, by rintro accepted ⟨⟩; rfl⟩

/-- A stream task can only exist on an admitted connection, and what it does
in its own user's name keeps the gate. -/
theorem Gated.advance (gated : Gated config requests state) {index : Nat} {task after : StreamTask}
    {action : TaskAction} {value : Option Accepted} (found : state.tasks[index]? = some task)
    (stepped : taskStep config task action = some (after, value)) :
    Gated config requests (state.advance index after value) := by
  obtain ⟨same, handed⟩ := taskStep_user stepped
  have busy : state.tasks ≠ [] := by
    intro empty
    rw [empty] at found
    contradiction
  have keep : ∀ name, Admitted config requests name state →
      Admitted config requests name (state.advance index after value) := by
    intro name admitted
    have own := admitted.tasks task (List.mem_of_getElem? found)
    refine ⟨admitted.granted, fun other member => ?_, fun event member => ?_⟩
    · rcases List.mem_or_eq_of_mem_set member with kept | rfl
      · exact admitted.tasks other kept
      · rw [same, own]
    · rcases List.mem_append.mp member with earlier | last
      · exact admitted.log event earlier
      · obtain ⟨accepted, given, rfl⟩ := Option.map_eq_some_iff.mp (Option.mem_toList.mp last)
        exact Or.inr ⟨accepted, rfl, (handed accepted given).trans own⟩
  unfold Gated at gated ⊢
  rw [show (state.advance index after value).stage = state.stage from rfl]
  cases here : state.stage <;> rw [here] at gated <;> dsimp only at gated ⊢
  case connecting | accepting | resolving | masquerading => exact absurd gated.2.idle busy
  case responding | finishing | serving | handing | feeding => exact keep _ gated
  case panicked | ended =>
    rcases gated with denied | ⟨name, admitted⟩
    · exact absurd denied.idle busy
    · exact Or.inr ⟨name, keep name admitted⟩

theorem Admitted.input {admission : Admission} {handle : Nat} {now : Instant} {message : UdpMessage}
    (admitted : Admitted config requests admission.user state)
    (fed : state.input admission handle now message = some next) : Gated config requests next := by
  obtain ⟨target, _, ⟨_, rfl⟩ | ⟨_, _, stage, _, _, _, rfl, onward⟩⟩ := input_cases fed
  · exact Or.inr ⟨_, admitted.congr rfl rfl⟩
  · rcases onward with rfl | ⟨error, rfl⟩
    · exact admitted.congr rfl rfl
    · exact Or.inr ⟨_, admitted.congr rfl rfl⟩

theorem negotiate_user {request : Request} {controller : Option CongestionKind} {admission : Admission}
    (agreed : (config.negotiate request name controller).2 = .ok admission) :
    admission.user = name := by
  unfold Config.negotiate at agreed
  dsimp only at agreed
  split at agreed
  · contradiction
  · contradiction
  · rw [← Except.ok.inj agreed]

/-- The first request opens the gate or shuts it. -/
theorem gated_firstRequest {request : Request} (denied : Denied config [] state) :
    Gated config [request] (state.firstRequest config request) := by
  have quiet : state.log = [] := denied.masqueraded
  have shut : (∀ user, ¬ config.Grants request user) →
      Gated config [request] ((state.emit (.masquerade request)).enter (.masquerading false)) := by
    intro ungranted
    refine ⟨by simp, ?_, denied.idle, by simp [ServerState.emit, ServerState.enter, quiet]⟩
    rintro first ⟨⟩
    exact ungranted
  unfold ServerState.firstRequest
  cases passed : config.authenticate request with
  | none =>
    refine shut fun user grants => ?_
    obtain ⟨⟨name, found⟩, _⟩ := authenticate_of_grants grants
    rw [passed] at found
    contradiction
  | some name =>
    dsimp only
    by_cases diverted : config.diverts request = true
    · rw [if_pos diverted]
      refine shut fun user grants => ?_
      rw [(authenticate_of_grants grants).2] at diverted
      contradiction
    · rw [if_neg diverted]
      obtain ⟨user, grants, named⟩ := grants_of_authenticate passed (by simpa using diverted)
      have admitted : Admitted config [request] name state := by
        refine ⟨⟨request, user, rfl, grants, named⟩, fun task member => ?_, fun event member => ?_⟩
        · rw [denied.idle] at member
          contradiction
        · rw [quiet] at member
          contradiction
      split
      · exact Or.inr ⟨name, admitted.congr rfl rfl⟩
      · rename_i admission agreed
        show Admitted config [request] admission.user _
        rw [negotiate_user agreed]
        exact admitted.congr rfl rfl

/-- The request resolved by one action. -/
def ServerAction.request : ServerAction → List Request
  | .resolve (.ok request) => [request]
  | _ => []

theorem resolved_concat (actions : List ServerAction) (action : ServerAction) :
    resolved (actions ++ [action]) = resolved actions ++ action.request := by
  unfold resolved
  rw [List.filterMap_append]
  congr 1
  cases action with
  | resolve result => cases result <;> rfl
  | _ => rfl

/-- Leaving through an error, or the end of the masquerade loop, keeps the gate. -/
theorem Gated.ended (gated : Gated config requests state) (result : Result Unit) :
    Gated config requests (state.enter (.ended result)) := by
  show Denied _ _ _ ∨ ∃ name, Admitted _ _ name _
  unfold Gated at gated
  split at gated
  · exact Or.inl (gated.2.congr rfl rfl)
  · exact Or.inl (gated.2.congr rfl rfl)
  · exact Or.inl (gated.2.congr rfl rfl)
  · exact Or.inl (gated.2.congr rfl rfl)
  · exact Or.inr ⟨_, gated.congr rfl rfl⟩
  · exact Or.inr ⟨_, gated.congr rfl rfl⟩
  · exact Or.inr ⟨_, gated.congr rfl rfl⟩
  · exact Or.inr ⟨_, gated.congr rfl rfl⟩
  · exact Or.inr ⟨_, gated.congr rfl rfl⟩
  · exact gated.imp (·.congr rfl rfl) fun ⟨name, admitted⟩ => ⟨name, admitted.congr rfl rfl⟩
  · exact gated.imp (·.congr rfl rfl) fun ⟨name, admitted⟩ => ⟨name, admitted.congr rfl rfl⟩

/-- The packet connections play no part in it. -/
theorem Gated.handles (gated : Gated config requests state) (handles : List PacketHandle) :
    Gated config requests { state with handles } := by
  unfold Gated at gated ⊢
  dsimp only
  cases here : state.stage with
  | connecting | accepting | resolving | masquerading =>
    simp only [here] at gated ⊢
    exact ⟨gated.1, gated.2.congr rfl rfl⟩
  | responding | finishing | serving | handing | feeding =>
    simp only [here] at gated ⊢
    exact gated.congr rfl rfl
  | panicked | ended =>
    simp only [here] at gated ⊢
    exact gated.imp (·.congr rfl rfl) fun ⟨name, admitted⟩ => ⟨name, admitted.congr rfl rfl⟩

/-- The select loop only touches tasks in the admitted user's name. -/
theorem Admitted.spawn {admission : Admission}
    (admitted : Admitted config requests admission.user state) :
    Admitted config requests admission.user
      { state with tasks := state.tasks ++ [.reading admission.user admission.congestion []] } := by
  refine ⟨admitted.granted, ?_, admitted.log⟩
  exact List.forall_mem_append.mpr ⟨admitted.tasks, List.forall_mem_singleton.mpr rfl⟩

theorem Admitted.announce {admission : Admission} (handle : Nat) (message : UdpMessage)
    (admitted : Admitted config requests admission.user state) :
    Gated config requests (state.announce config admission handle message) := by
  have told := admitted.emit (.accepted (.packet message.sessionId message.destination
    admission.user config.source admission.congestion)) (Or.inr ⟨_, rfl, rfl⟩)
  exact told.congr rfl rfl

/-- The gate as it stands at a stage. -/
theorem Gated.here {before : Stage} (gated : Gated config requests state)
    (here : state.stage = before) : Gated config requests { state with stage := before } := by
  subst here
  exact gated

theorem resolve_gated {request : Request} (gated : Gated config requests state)
    (stepped : serverStep config state (.resolve (.ok request)) = some next) :
    Gated config (requests ++ [request]) next := by
  cases serverStep_rule stepped with
  | stopped here stops => cases stops
  | first request here =>
    obtain ⟨rfl, denied⟩ := gated.here here
    exact gated_firstRequest (denied.congr rfl rfl)
  | masqueraded request here =>
    obtain ⟨started, denied⟩ := gated.here here
    obtain ⟨first, rest, rfl⟩ := List.exists_cons_of_ne_nil started
    refine ⟨by simp, denied.ungranted, denied.idle, ?_⟩
    have log : state.log = (first :: rest).map .masquerade := denied.masqueraded
    simp [ServerState.emit, ServerState.enter, log]

/-- Every action that resolves no request keeps the gate as it is. -/
theorem serverStep_gated {action : ServerAction} (gated : Gated config requests state)
    (other : action.request = []) (stepped : serverStep config state action = some next) :
    Gated config requests next := by
  cases serverStep_rule stepped with
  | stopped here stops => exact gated.ended _
  | connected here =>
    obtain ⟨none', denied⟩ := gated.here here
    exact ⟨none', denied.congr rfl rfl⟩
  | accepted here =>
    obtain ⟨none', denied⟩ := gated.here here
    exact ⟨none', denied.congr rfl rfl⟩
  | acceptedAgain here =>
    obtain ⟨started, denied⟩ := gated.here here
    exact ⟨started, denied.congr rfl rfl⟩
  | first request here => contradiction
  | masqueraded request here => contradiction
  | responded admission here =>
    have admitted : Admitted config requests admission.user state := (gated.here here).congr rfl rfl
    exact (admitted.emit _ (Or.inl ⟨_, _, _, rfl⟩)).congr rfl rfl
  | unanswered admission text here =>
    have admitted : Admitted config requests admission.user state := (gated.here here).congr rfl rfl
    exact Or.inr ⟨_, (admitted.emit _ (Or.inl ⟨_, _, _, rfl⟩)).congr rfl rfl⟩
  | finished admission here =>
    exact (gated.here here).congr rfl rfl
  | controlled admission here => exact gated
  | spawned admission here =>
    have admitted : Admitted config requests admission.user state := (gated.here here).congr rfl rfl
    unfold Gated
    simp only [here]
    exact admitted.spawn.congr rfl rfl
  | routed admission bytes message handle here read found =>
    exact (gated.here here).congr rfl rfl
  | created admission bytes message here read missing =>
    exact (gated.here here).congr rfl rfl
  | announced admission handle message here =>
    exact Admitted.announce handle message ((gated.here here).congr rfl rfl)
  | refused admission handle message here => exact gated.ended _
  | fed admission handle message now next here called =>
    exact Admitted.input ((gated.here here).congr rfl rfl) called
  | task index action before after value found moved => exact gated.advance found moved
  | received handle target packet rest found held queued => exact gated.handles _
  | released handle target found held => exact gated.handles _

/-- The gate holds in every state of every run. -/
theorem run_gated {controller : Option CongestionKind} {actions : List ServerAction}
    (execution : Transition.run (serverStep config) (.initial controller) actions = some state) :
    Gated config (resolved actions) state := by
  have start : Gated config (resolved []) (.initial controller) :=
    ⟨rfl, by simp [resolved], rfl, rfl⟩
  refine Transition.run_induction (P := fun actions state => Gated config (resolved actions) state)
    start ?_ execution
  intro actions middle action final _ gated stepped
  rw [resolved_concat]
  by_cases other : action.request = []
  · rw [other, List.append_nil]
    exact serverStep_gated gated other stepped
  · obtain ⟨request, rfl⟩ : ∃ request, action = .resolve (.ok request) := by
      unfold ServerAction.request at other
      split at other
      · exact ⟨_, rfl⟩
      · contradiction
    exact resolve_gated gated stepped

theorem Gated.decided (gated : Gated config requests state) :
    Denied config requests state ∨ ∃ name, Admitted config requests name state := by
  unfold Gated at gated
  split at gated
  all_goals first
    | exact Or.inl gated.2
    | exact Or.inr ⟨_, gated⟩
    | exact gated

/-- Unless the first request resolved on a connection is granted to a configured
user, every request goes to the masquerade handler and nothing else leaves the
connection; if it is, everything that leaves in some user's name leaves in the
name of a user with the password presented. -/
theorem connection_gate {controller : Option CongestionKind} {actions : List ServerAction}
    (execution : Transition.run (serverStep config) (.initial controller) actions = some state) :
    ((∃ event ∈ state.log, (∃ status udp receive, event = .authSuccess status udp receive) ∨
        ∃ value, event = .accepted value) →
      ∃ first, (resolved actions).head? = some first ∧
        (∃ user, config.Grants first user) ∧
        ∀ value, .accepted value ∈ state.log → ∃ user, config.Grants first user ∧
          value.user = user.name) ∧
    ((∀ first, (resolved actions).head? = some first → ∀ user, ¬ config.Grants first user) →
      state.log = (resolved actions).map .masquerade) := by
  rcases (run_gated execution).decided with denied | ⟨name, admitted⟩
  · refine ⟨?_, fun _ => denied.masqueraded⟩
    rintro ⟨event, member, visible⟩
    rw [denied.masqueraded] at member
    obtain ⟨request, _, rfl⟩ := List.mem_map.mp member
    rcases visible with ⟨_, _, _, same⟩ | ⟨_, same⟩ <;> contradiction
  · obtain ⟨first, user, only, grants, named⟩ := admitted.granted
    have head : (resolved actions).head? = some first := by rw [only]; rfl
    refine ⟨fun _ => ⟨first, head, ⟨user, grants⟩, fun value member => ⟨user, grants, ?_⟩⟩, ?_⟩
    · rcases admitted.log _ member with ⟨_, _, _, same⟩ | ⟨other, same, own⟩
      · contradiction
      · obtain rfl := Event.accepted.inj same
        rw [own, named]
    · intro ungranted
      exact absurd grants (ungranted first head user)

/-- A granted request, the response, and one stream in the user's name. -/
theorem connection_gate_alice :
    let config : Config :=
      ⟨[⟨"alice", "secret"⟩], ⟨0, 0, false⟩, ⟨.v4 ⟨[127, 0, 0, 1], rfl⟩, 9⟩, 64⟩
    let request : Request := ⟨"POST", some "hysteria", "/auth", [("hysteria-auth", asBytes "secret")]⟩
    let actions : List ServerAction := [.connect (.ok ()), .accept (.ok true), .resolve (.ok request),
      .respond (.ok ()), .finish (.ok ()), .acceptBi (.ok ()),
      .task 0 (.arrive [0x44, 1, 3, 97, 58, 49, 0]), .task 0 .readRequest,
      .task 0 (.writeResponse (.ok ())), .task 0 (.hand true)]
    ∃ state, Transition.run (serverStep config) (.initial (some .bbr)) actions = some state ∧
      state.log = [.authSuccess 233 "true" "auto",
        .accepted (.stream ⟨"a", 1, by decide⟩ "alice" config.source .bbr)] ∧
      ∃ user, config.Grants request user ∧ user.name = "alice" := by
  intro config request actions
  have traced : (Transition.run (serverStep config) (.initial (some .bbr)) actions).map (·.log) =
      some [.authSuccess 233 "true" "auto",
        .accepted (.stream ⟨"a", 1, by decide⟩ "alice" config.source .bbr)] := by decide
  obtain ⟨state, execution, log⟩ := Option.map_eq_some_iff.mp traced
  refine ⟨state, execution, log, ?_⟩
  obtain ⟨first, head, _, named⟩ := (connection_gate execution).1
    ⟨.authSuccess 233 "true" "auto", by simp [log], Or.inl ⟨_, _, _, rfl⟩⟩
  obtain rfl : request = first := Option.some.inj head
  obtain ⟨user, grants, same⟩ :=
    named (.stream ⟨"a", 1, by decide⟩ "alice" config.source .bbr) (by simp [log])
  exact ⟨user, grants, same.symm⟩

end
end SingQuic.Hysteria2
