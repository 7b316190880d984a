import SingQuic.ShadowQuic.Arrivals
import SingQuic.ShadowQuic.Server

/-! Proxied streams of a SQuic server. A handler reads its opcode and its address and
not one byte more, so what it hands to the application is what was asked for on that
stream, and the rest of the stream is left to the application. -/
namespace SingQuic.ShadowQuic
open Wire Reader

def encodeConnect (destination : Address) : Result Bytes :=
  (encodeAddress destination).map (sqConnect :: ·)

/-- What `Client::associate` writes before its records. -/
def encodeAssociate (mode : UdpMode) (destination : Address) : Result Bytes :=
  (encodeAddress destination).map fun address =>
    match mode with
    | .datagram => sqAssociateOverDatagram :: address
    | .stream => sqAssociateOverStream :: address

/-- The request a client writes at the beginning of its stream. -/
def ProxyRequest.encode (destination : Address) : ProxyRequest → Result Bytes
  | .connect => encodeConnect destination
  | .associate mode => encodeAssociate mode destination

def Accepted.destination : Accepted → Address
  | .stream value => value.destination
  | .packet value => value.destination

def Accepted.request : Accepted → ProxyRequest
  | .stream _ => .connect
  | .packet value => .associate value.mode

/-- The bytes an action adds to a bidirectional stream. -/
def ServerAction.toBi (stream : Nat) : ServerAction → Bytes
  | .arrive other bytes => if other = stream then bytes else []
  | _ => []

/-- A read of the stream fails, its handler is refused at the gate, or the application does
not take what it offers. -/
def ServerAction.breaks (stream : Nat) : ServerAction → Bool
  | .fail other _ | .refuse (.bi other) _ | .abandon other => other = stream
  | _ => false

def arrivedBi (stream : Nat) (actions : List ServerAction) : Bytes :=
  actions.flatMap (·.toBi stream)

/-- The bytes begin with the request for this value and go on with the rest. -/
def Requested (value : Accepted) (arrived rest : Bytes) : Prop :=
  ∃ opcode address, requestOf opcode = some (.proxy value.request) ∧
    arrived = opcode :: (address ++ rest) ∧ decodeAddress address = .done value.destination []

/-- States in which a handler has still something to read or to hand over. -/
def BiState.busy : BiState → Bool
  | .opcode | .credential | .waiting _ | .destination _ _ | .offering _ | .extension => true
  | .control | .reset | .ended _ => false

/-- States of which nothing more is handed to the application. -/
def BiState.spent : BiState → Bool
  | .extension | .reset | .ended _ => true
  | _ => false

/-- The handler serves a request that names no destination. -/
def BiState.aside : BiState → Bool
  | .credential | .waiting .extension | .extension => true
  | _ => false

theorem requestOf_sqAuthenticate : requestOf sqAuthenticate = none := by decide

/-- The stream was not opened for a proxied connection. -/
def Unproxied (arrived : Bytes) : Prop :=
  ∃ opcode rest, arrived = opcode :: rest ∧ ∀ request, requestOf opcode ≠ some (.proxy request)

/-- The handler reads a destination that no later byte can mend. -/
def BiStream.Garbled (task : BiStream) : Prop :=
  ∃ request user error, task.state = .destination request user ∧
    decodeAddress task.unread = .failed error

/-- What a step does to one bidirectional stream. -/
inductive BiChange (serving : Serving) (self next : Server) (action : ServerAction) (stream : Nat) :
    Prop where
  | kept (silent : action.toBi stream = []) (same : next.streams stream = self.streams stream)
      (accepted : next.accepted = self.accepted ∨
        ∃ value, next.accepted = self.accepted ++ [value] ∧ value.origin ≠ stream)
      (controls : next.receiver.controls stream = self.receiver.controls stream ∨
        ∃ action', action'.toControl stream = [] ∧ action' ≠ .associate stream ∧
          receiveStep .spawned self.receiver action' = some next.receiver)
  | opened (silent : action.toBi stream = []) (fresh : self.streams stream = none)
      (there : next.streams stream = some ⟨[], .opcode⟩) (accepted : next.accepted = self.accepted)
      (receiver : next.receiver = self.receiver)
  | arrived (task : BiStream) (here : self.streams stream = some task)
      (there : next.streams stream = some { task with unread := task.unread ++ action.toBi stream })
      (plain : task.state ≠ .control) (accepted : next.accepted = self.accepted)
      (receiver : next.receiver = self.receiver)
  | arrivedControl (task : BiStream) (here : self.streams stream = some task)
      (control : task.state = .control) (there : next.streams stream = some task)
      (accepted : next.accepted = self.accepted)
      (receiver : receiveStep .spawned self.receiver
        (.arriveControl stream (action.toBi stream)) = some next.receiver)
  | dispatched (silent : action.toBi stream = []) (opcode : UInt8) (task : BiStream) (rest : Bytes)
      (state : BiState) (here : self.streams stream = some task) (before : task.state = .opcode)
      (read : task.unread = opcode :: rest) (there : next.streams stream = some ⟨rest, state⟩)
      (after : (state = .credential ∧ opcode = sqAuthenticate) ∨
        (state = .reset ∧ ∀ request, requestOf opcode ≠ some (.proxy request)) ∨
        ∃ request, requestOf opcode = some request ∧ state = .waiting request)
      (accepted : next.accepted = self.accepted) (receiver : next.receiver = self.receiver)
  | entered (silent : action.toBi stream = []) (task : BiStream) (request : ProxyRequest) (user : String)
      (here : self.streams stream = some task) (before : task.state = .waiting (.proxy request))
      (there : next.streams stream = some { task with state := .destination request user })
      (accepted : next.accepted = self.accepted) (receiver : next.receiver = self.receiver)
  | read (silent : action.toBi stream = []) (task : BiStream) (request : ProxyRequest) (user : String)
      (destination : Address) (rest : Bytes) (here : self.streams stream = some task)
      (before : task.state = .destination request user)
      (decoded : decodeAddress task.unread = .done destination rest)
      (there : next.streams stream =
        some ⟨rest, .offering (acceptedValue serving stream destination user request)⟩)
      (accepted : next.accepted = self.accepted) (receiver : next.receiver = self.receiver)
  | handed (silent : action.toBi stream = []) (task : BiStream) (value : AcceptedStream)
      (here : self.streams stream = some task) (before : task.state = .offering (.stream value))
      (there : next.streams stream = some { task with state := .ended (.ok ()) })
      (accepted : next.accepted = self.accepted ++ [.stream value])
      (receiver : next.receiver = self.receiver)
  | associated (silent : action.toBi stream = []) (task : BiStream) (value : AcceptedPacket)
      (middle : Receiver) (here : self.streams stream = some task)
      (before : task.state = .offering (.packet value))
      (there : next.streams stream = some ⟨[], .control⟩)
      (accepted : next.accepted = self.accepted ++ [.packet value])
      (opened : receiveStep .spawned self.receiver (.associate stream) = some middle)
      (filled : receiveStep .spawned middle (.arriveControl stream task.unread) = some next.receiver)
  | finished (silent : action.toBi stream = []) (task after : BiStream)
      (here : self.streams stream = some task) (busy : task.state.busy = true)
      (there : next.streams stream = some after) (done : after.state.spent = true)
      (cause : ((∃ error, after.state = .ended (.error error)) ∧
          (action.breaks stream = true ∨ task.Garbled)) ∨ task.state.aside = true)
      (accepted : next.accepted = self.accepted) (receiver : next.receiver = self.receiver)

section Steps
variable {serving : Serving} {self next : Server} {action : ServerAction} {stream other : Nat}
  {task after : BiStream}

@[simp] theorem Server.setStream_self : (self.setStream stream after).streams stream = some after :=
  Function.update_self _ _ _

theorem Server.setStream_ne (different : stream ≠ other) :
    (self.setStream other after).streams stream = self.streams stream :=
  Function.update_of_ne different _ _

/-- A step of another stream that hands nothing over. -/
theorem BiChange.elsewhere (different : stream ≠ other) (silent : action.toBi stream = [])
    (streams : next.streams = (self.setStream other after).streams)
    (accepted : next.accepted = self.accepted) (receiver : next.receiver = self.receiver) :
    BiChange serving self next action stream := by
  refine .kept silent ?_ (Or.inl accepted) (Or.inl (by rw [receiver]))
  rw [streams, Server.setStream_ne different]

theorem Server.enter_change {user : String} {handler : Handler}
    (stepped : self.enter user handler = some next) :
    BiChange serving self next (.pass handler) stream := by
  cases handler with
  | bi other =>
    obtain ⟨task, here, moved⟩ := Option.bind_eq_some_iff.mp stepped
    by_cases same : stream = other
    · subst same
      split at moved
      · rename_i request state
        obtain rfl := Option.some.inj moved
        exact .entered rfl task request user here state setStream_self rfl rfl
      · rename_i state
        obtain rfl := Option.some.inj moved
        exact .finished rfl task _ here (by rw [state]; rfl) setStream_self rfl
          (Or.inr (by rw [state]; rfl)) rfl rfl
      · contradiction
    · split at moved
      · obtain rfl := Option.some.inj moved
        exact .elsewhere same rfl rfl rfl rfl
      · obtain rfl := Option.some.inj moved
        exact .elsewhere same rfl rfl rfl rfl
      · contradiction
  | uni other =>
    simp only [Server.enter] at stepped
    split at stepped
    · obtain ⟨receiver, accepted, rfl⟩ := Option.map_eq_some_iff.mp stepped
      exact .kept rfl rfl (Or.inl rfl) (Or.inr ⟨.accept other, rfl, by simp, accepted⟩)
    · contradiction
  | datagram source =>
    simp only [Server.enter] at stepped
    split at stepped
    · rename_i bytes _
      obtain rfl := Option.some.inj stepped
      have controls := (startDatagram_parts self.receiver .spawned source bytes).1
      exact .kept rfl rfl (Or.inl rfl) (Or.inl (by rw [controls]))
    · contradiction

theorem Server.leave_change {error : Error} {handler : Handler}
    (stepped : self.leave error handler = some next) :
    BiChange serving self next (.refuse handler error) stream := by
  cases handler with
  | bi other =>
    obtain ⟨task, here, moved⟩ := Option.bind_eq_some_iff.mp stepped
    split at moved
    · rename_i request state
      obtain rfl := Option.some.inj moved
      by_cases same : stream = other
      · subst same
        exact .finished rfl task _ here (by rw [state]; rfl) setStream_self rfl
          (Or.inl ⟨⟨error, rfl⟩, Or.inl (decide_eq_true rfl)⟩) rfl rfl
      · exact .elsewhere same rfl rfl rfl rfl
    · contradiction
  | uni other =>
    simp only [Server.leave] at stepped
    split at stepped
    · obtain rfl := Option.some.inj stepped
      exact .kept rfl rfl (Or.inl rfl) (Or.inl rfl)
    · contradiction
  | datagram source =>
    simp only [Server.leave] at stepped
    split at stepped
    · obtain rfl := Option.some.inj stepped
      exact .kept rfl rfl (Or.inl rfl) (Or.inl rfl)
    · contradiction

/-- A new control stream leaves the other ones alone. -/
theorem controls_of_associate {receiver middle final : Receiver} {bytes : Bytes} (different : stream ≠ other)
    (opened : receiveStep .spawned receiver (.associate other) = some middle)
    (filled : receiveStep .spawned middle (.arriveControl other bytes) = some final) :
    final.controls stream = receiver.controls stream := by
  have first : middle.controls stream = receiver.controls stream := by
    cases receiveStep_rule opened with
    | associated _ absent => exact Receiver.setControl_ne _ different _
  have second : final.controls stream = middle.controls stream := by
    cases receiveStep_rule filled with
    | controlArrived _ _ task here => exact Receiver.setControl_ne _ different _
  rw [second, first]

theorem Server.hand_change {value : Accepted} (here : self.streams other = some task)
    (state : task.state = .offering value) (origin : value.origin = other)
    (stepped : self.hand other task value = some next) :
    BiChange serving self next (.offer other) stream := by
  unfold Server.hand at stepped
  dsimp only at stepped
  cases value with
  | stream value =>
    obtain rfl := Option.some.inj stepped
    by_cases same : stream = other
    · subst same
      exact .handed rfl task value here state setStream_self rfl rfl
    · refine .kept rfl (setStream_ne same) (Or.inr ⟨.stream value, rfl, ?_⟩) (Or.inl rfl)
      rw [origin]
      exact Ne.symm same
  | packet value =>
    obtain ⟨middle, opened, rest⟩ := Option.bind_eq_some_iff.mp stepped
    obtain ⟨final, filled, rfl⟩ := Option.map_eq_some_iff.mp rest
    by_cases same : stream = other
    · subst same
      exact .associated rfl task value middle here state setStream_self rfl opened filled
    · refine .kept rfl (setStream_ne same) (Or.inr ⟨.packet value, rfl, ?_⟩)
        (Or.inl (controls_of_associate same opened filled))
      rw [origin]
      exact Ne.symm same

/-- A handler offers only what was asked for on its own stream. -/
def Server.OffersOwn (self : Server) : Prop :=
  ∀ stream task value, self.streams stream = some task → task.state = .offering value →
    value.origin = stream

theorem serverStep_biChange (own : self.OffersOwn) (stepped : serverStep serving self action = some next)
    (stream : Nat) : BiChange serving self next action stream := by
  cases action with
  | accept other =>
    simp only [serverStep] at stepped
    split at stepped
    · rename_i fresh
      obtain rfl := Option.some.inj stepped
      by_cases same : stream = other
      · subst same
        exact .opened rfl (Option.isNone_iff_eq_none.mp fresh.2) Server.setStream_self rfl rfl
      · exact .elsewhere same rfl rfl rfl rfl
    · contradiction
  | acceptUni other =>
    simp only [serverStep] at stepped
    split at stepped
    · obtain rfl := Option.some.inj stepped
      exact .kept rfl rfl (Or.inl rfl) (Or.inl rfl)
    · contradiction
  | readDatagram =>
    simp only [serverStep] at stepped
    split at stepped
    · contradiction
    · split at stepped
      · obtain rfl := Option.some.inj stepped
        exact .kept rfl rfl (Or.inl rfl) (Or.inl rfl)
      · contradiction
  | arrive other bytes =>
    simp only [serverStep] at stepped
    split at stepped
    · contradiction
    · obtain ⟨task, here, moved⟩ := Option.bind_eq_some_iff.mp stepped
      by_cases same : stream = other
      · subst same
        have added : (ServerAction.arrive stream bytes).toBi stream = bytes := if_pos rfl
        split at moved
        · rename_i control
          obtain ⟨receiver, arrived, rfl⟩ := Option.map_eq_some_iff.mp moved
          exact .arrivedControl task here control here rfl (by rw [added]; exact arrived)
        · rename_i plain
          obtain rfl := Option.some.inj moved
          exact .arrived task here (by rw [added]; exact Server.setStream_self)
            (fun control => plain control) rfl rfl
      · have silent : (ServerAction.arrive other bytes).toBi stream = [] := if_neg (Ne.symm same)
        split at moved
        · obtain ⟨receiver, arrived, rfl⟩ := Option.map_eq_some_iff.mp moved
          refine .kept silent rfl (Or.inl rfl) (Or.inr ⟨_, ?_, by simp, arrived⟩)
          exact if_neg (Ne.symm same)
        · obtain rfl := Option.some.inj moved
          exact .elsewhere same silent rfl rfl rfl
  | readOpcode other =>
    obtain ⟨task, here, moved⟩ := Option.bind_eq_some_iff.mp stepped
    split at moved
    · rename_i opcode rest state read
      obtain rfl := Option.some.inj moved
      by_cases same : stream = other
      · subst same
        refine .dispatched rfl opcode task rest _ here state (readByte_eq_done_iff.mp read)
          Server.setStream_self ?_ rfl rfl
        split
        · rename_i authenticates
          cases serving.authentication with
          | jls => exact Or.inr (Or.inl ⟨rfl, by simp [authenticates, requestOf_sqAuthenticate]⟩)
          | sunny users => exact Or.inl ⟨rfl, authenticates⟩
        · cases asked : requestOf opcode with
          | none => exact Or.inr (Or.inl ⟨rfl, by simp⟩)
          | some request => exact Or.inr (Or.inr ⟨request, rfl, rfl⟩)
      · exact .elsewhere same rfl rfl rfl rfl
    · contradiction
  | authenticate other =>
    obtain ⟨task, here, moved⟩ := Option.bind_eq_some_iff.mp stepped
    split at moved
    · rename_i users credential rest _ state _
      obtain rfl := Option.some.inj moved
      have parts : (self.present users other credential rest).accepted = self.accepted ∧
          (self.present users other credential rest).receiver = self.receiver ∧
          ∃ result, (self.present users other credential rest).streams =
            (self.setStream other ⟨rest, .ended result⟩).streams := by
        unfold Server.present
        dsimp only
        split
        · exact ⟨rfl, rfl, _, rfl⟩
        · exact ⟨rfl, rfl, _, rfl⟩
      obtain ⟨accepted, receiver, result, streams⟩ := parts
      by_cases same : stream = other
      · subst same
        exact .finished rfl task ⟨rest, .ended result⟩ here (by rw [state]; rfl)
          (by rw [streams, Server.setStream_self]) rfl (Or.inr (by rw [state]; rfl)) accepted receiver
      · exact .elsewhere same rfl streams accepted receiver
    · contradiction
  | pass handler =>
    simp only [serverStep] at stepped
    split at stepped
    · exact Server.enter_change stepped
    · contradiction
  | refuse handler error =>
    simp only [serverStep] at stepped
    split at stepped
    · exact Server.leave_change stepped
    · contradiction
  | readDestination other =>
    obtain ⟨task, here, moved⟩ := Option.bind_eq_some_iff.mp stepped
    by_cases same : stream = other
    · subst same
      split at moved
      · rename_i request user destination rest state decoded
        obtain rfl := Option.some.inj moved
        exact .read rfl task request user destination rest here state decoded Server.setStream_self rfl rfl
      · rename_i request user error state failed
        obtain rfl := Option.some.inj moved
        exact .finished rfl task _ here (by rw [state]; rfl) Server.setStream_self rfl
          (Or.inl ⟨⟨error, rfl⟩, Or.inr ⟨request, user, error, state, failed⟩⟩) rfl rfl
      · contradiction
    · split at moved
      · obtain rfl := Option.some.inj moved
        exact .elsewhere same rfl rfl rfl rfl
      · obtain rfl := Option.some.inj moved
        exact .elsewhere same rfl rfl rfl rfl
      · contradiction
  | offer other =>
    obtain ⟨task, here, moved⟩ := Option.bind_eq_some_iff.mp stepped
    split at moved
    · rename_i value state
      exact Server.hand_change here state (own other task value here state) moved
    · contradiction
  | abandon other =>
    obtain ⟨task, here, moved⟩ := Option.bind_eq_some_iff.mp stepped
    split at moved
    · rename_i value state
      obtain rfl := Option.some.inj moved
      by_cases same : stream = other
      · subst same
        exact .finished rfl task _ here (by rw [state]; rfl) Server.setStream_self rfl
          (Or.inl ⟨⟨.closed, rfl⟩, Or.inl (decide_eq_true rfl)⟩) rfl rfl
      · exact .elsewhere same rfl rfl rfl rfl
    · contradiction
  | readExtension other stats =>
    obtain ⟨task, here, moved⟩ := Option.bind_eq_some_iff.mp stepped
    split at moved
    · rename_i extension opcode rest state _
      obtain rfl := Option.some.inj moved
      have parts : (self.answer other rest extension opcode stats).accepted = self.accepted ∧
          (self.answer other rest extension opcode stats).receiver = self.receiver ∧
          ∃ after : BiState, after.spent = true ∧
            (self.answer other rest extension opcode stats).streams =
              (self.setStream other ⟨rest, after⟩).streams := by
        unfold Server.answer
        split
        · exact ⟨rfl, rfl, .reset, rfl, rfl⟩
        · exact ⟨rfl, rfl, .ended (.ok ()), rfl, rfl⟩
      obtain ⟨accepted, receiver, after, done, streams⟩ := parts
      by_cases same : stream = other
      · subst same
        exact .finished rfl task ⟨rest, after⟩ here (by rw [state]; rfl)
          (by rw [streams, Server.setStream_self]) done (Or.inr (by rw [state]; rfl)) accepted receiver
      · exact .elsewhere same rfl streams accepted receiver
    · contradiction
  | fail other text =>
    obtain ⟨task, here, moved⟩ := Option.bind_eq_some_iff.mp stepped
    have failed : task.state.busy = true →
        next = self.setStream other { task with state := .ended (.error (.read text)) } →
        BiChange serving self next (.fail other text) stream := by
      rintro busy rfl
      by_cases same : stream = other
      · subst same
        exact .finished rfl task _ here busy Server.setStream_self rfl
          (Or.inl ⟨⟨_, rfl⟩, Or.inl (decide_eq_true rfl)⟩) rfl rfl
      · exact .elsewhere same rfl rfl rfl rfl
    split at moved
    · rename_i state
      exact failed (by rw [state]; rfl) (Option.some.inj moved).symm
    · rename_i state
      exact failed (by rw [state]; rfl) (Option.some.inj moved).symm
    · rename_i state
      exact failed (by rw [state]; rfl) (Option.some.inj moved).symm
    · rename_i state
      exact failed (by rw [state]; rfl) (Option.some.inj moved).symm
    · contradiction
  | receive action =>
    simp only [serverStep] at stepped
    split at stepped
    · rename_i granted
      obtain ⟨receiver, received, rfl⟩ := Option.map_eq_some_iff.mp stepped
      refine .kept rfl rfl (Or.inl rfl) (Or.inr ⟨action, ?_, ?_, received⟩)
      · cases action with
        | arriveControl association bytes => contradiction
        | _ => rfl
      · rintro rfl
        contradiction
    · contradiction
  | shut =>
    simp only [serverStep] at stepped
    split at stepped
    · obtain rfl := Option.some.inj stepped
      exact .kept rfl rfl (Or.inl rfl) (Or.inl rfl)
    · contradiction

/-- Control streams are opened for associations only. -/
theorem receiveStep_controls_isSome {dispatch : Dispatch} {receiver final : Receiver}
    {action : ReceiveAction} (other : action ≠ .associate stream)
    (stepped : receiveStep dispatch receiver action = some final) :
    (final.controls stream).isSome = (receiver.controls stream).isSome := by
  have moved : ∀ {target : Nat} {before after : ControlTask}, receiver.controls target = some before →
      final.controls = Function.update receiver.controls target (some after) →
      (final.controls stream).isSome = (receiver.controls stream).isSome := by
    intro target before after here changed
    rw [changed]
    by_cases same : stream = target
    · subst same
      rw [Function.update_self, here]
      rfl
    · rw [Function.update_of_ne same]
  cases receiveStep_rule stepped with
  | associated target absent =>
    have different : stream ≠ target := fun same => other (by rw [same])
    rw [Receiver.setControl_ne _ different]
  | controlArrived target bytes task here => exact moved here rfl
  | registered target task destination id rest here running read => exact moved here rfl
  | garbled target task error here => exact moved here rfl
  | stopped target task here => exact moved here rfl
  | datagramRead source bytes rest => rw [(startDatagram_parts _ dispatch source bytes).1]
  | _ => rfl

/-- What the handler of a stream has made of the bytes that arrived. -/
def BiRead (accepted : List Accepted) (stream : Nat) (arrived : Bytes) : Option BiStream → Prop
  | none => arrived = []
  | some task =>
    match task.state with
    | .opcode => arrived = task.unread
    | .credential | .waiting .extension | .extension => Unproxied arrived
    | .waiting (.proxy request) | .destination request _ =>
      ∃ opcode, requestOf opcode = some (.proxy request) ∧ arrived = opcode :: task.unread
    | .offering value => value.origin = stream ∧ Requested value arrived task.unread
    | .control => ∃ value ∈ accepted, value.origin = stream
    | .reset | .ended (.ok ()) => (∃ value ∈ accepted, value.origin = stream) ∨ Unproxied arrived
    | .ended (.error _) => True

/-- These bytes go to the application, or to the control stream of the association. -/
def Continues (server : Server) (value : Accepted) (rest : Bytes) : Prop :=
  ∃ task, server.streams value.origin = some task ∧
    match value with
    | .stream _ => task.state = .ended (.ok ()) ∧ task.unread = rest
    | .packet _ => task.state = .control ∧ ∃ control,
        server.receiver.controls value.origin = some control ∧
        Reads readRecord rest control.records control.unread

/-- The value is what was asked for on its stream, and what follows the request is left to
those it was handed to. -/
def Handed (arrived : Bytes) (server : Server) (value : Accepted) : Prop :=
  ∃ rest, Requested value arrived rest ∧ Continues server value rest

structure Framed (arrived : Nat → Bytes) (server : Server) : Prop where
  streams : ∀ stream, BiRead server.accepted stream (arrived stream) (server.streams stream)
  controls : ∀ stream, (server.receiver.controls stream).isSome = true →
    ∃ task, server.streams stream = some task ∧ task.state = .control
  accepted : ∀ value ∈ server.accepted, Handed (arrived value.origin) server value
  once : (server.accepted.map Accepted.origin).Nodup

theorem decodeAddress_exact : Exact decodeAddress := by
  have lift : ∀ {α : Type} (result : Result α), Exact (liftResult result) := by
    intro α result
    cases result with
    | ok value => exact Exact.pure value
    | error error => exact Exact.fail error
  have number : Exact readU16 :=
    Exact.bind (Stable.readExact 2) (Exact.readExact 2) fun _ => Exact.pure _
  have host : Exact decodeHost := by
    refine Exact.bind Stable.readByte Exact.readByte fun kind => ?_
    split
    · exact Exact.bind (Stable.readSized 4) (Exact.readSized 4) fun _ => Exact.pure _
    · split
      · exact Exact.bind (Stable.readSized 16) (Exact.readSized 16) fun _ => Exact.pure _
      · split
        · exact Exact.bind Stable.readByte Exact.readByte fun _ =>
            Exact.bind (Stable.readExact _) (Exact.readExact _) fun _ => lift _
        · exact Exact.fail _
  exact Exact.bind decodeHost_stable host fun _ => Exact.bind readU16_stable number fun _ => lift _

theorem Framed.offersOwn {arrived : Nat → Bytes} (framed : Framed arrived self) : self.OffersOwn := by
  intro stream task value here state
  have read := framed.streams stream
  rw [here, BiRead, state] at read
  exact read.1

theorem Unproxied.append {arrived : Bytes} (unproxied : Unproxied arrived) (later : Bytes) :
    Unproxied (arrived ++ later) := by
  obtain ⟨opcode, rest, rfl, plain⟩ := unproxied
  exact ⟨opcode, rest ++ later, rfl, plain⟩

theorem Requested.append {value : Accepted} {arrived rest : Bytes} (requested : Requested value arrived rest)
    (later : Bytes) : Requested value (arrived ++ later) (rest ++ later) := by
  obtain ⟨opcode, address, asked, rfl, decoded⟩ := requested
  exact ⟨opcode, address, asked, by simp, decoded⟩

/-- More values accepted and more bytes arrived: what was read so far stays true. -/
theorem BiRead.mono {accepted more : List Accepted} {arrived : Bytes}
    (weaker : accepted ⊆ more) (read : BiRead accepted stream arrived (some task)) (later : Bytes) :
    BiRead more stream (arrived ++ later) (some { task with unread := task.unread ++ later }) := by
  have found : (∃ value ∈ accepted, value.origin = stream) → ∃ value ∈ more, value.origin = stream :=
    fun ⟨value, member, origin⟩ => ⟨value, weaker member, origin⟩
  obtain ⟨unread, state⟩ := task
  unfold BiRead at read ⊢
  dsimp only at read ⊢
  cases state with
  | opcode =>
    dsimp only at read ⊢
    rw [read]
  | credential => exact Unproxied.append read later
  | waiting request =>
    cases request with
    | extension => exact Unproxied.append read later
    | proxy request =>
      obtain ⟨opcode, asked, same⟩ := read
      exact ⟨opcode, asked, by rw [same, List.cons_append]⟩
  | destination request user =>
    obtain ⟨opcode, asked, same⟩ := read
    exact ⟨opcode, asked, by rw [same, List.cons_append]⟩
  | offering value => exact ⟨read.1, read.2.append later⟩
  | extension => exact Unproxied.append read later
  | control => exact found read
  | reset => exact read.imp found fun plain => plain.append later
  | ended result =>
    cases result with
    | error error => trivial
    | ok value => exact read.imp found fun plain => plain.append later

theorem BiChange.accepted_cases (change : BiChange serving self next action stream) :
    next.accepted = self.accepted ∨ ∃ value, next.accepted = self.accepted ++ [value] := by
  cases change with
  | kept _ _ accepted _ => exact accepted.imp id fun ⟨value, same, _⟩ => ⟨value, same⟩
  | opened _ _ _ accepted => exact Or.inl accepted
  | arrived _ _ _ _ accepted => exact Or.inl accepted
  | arrivedControl _ _ _ _ accepted => exact Or.inl accepted
  | dispatched _ _ _ _ _ _ _ _ _ _ accepted => exact Or.inl accepted
  | entered _ _ _ _ _ _ _ accepted => exact Or.inl accepted
  | read _ _ _ _ _ _ _ _ _ _ accepted => exact Or.inl accepted
  | handed _ _ value _ _ _ accepted => exact Or.inr ⟨.stream value, accepted⟩
  | associated _ _ value _ _ _ _ accepted => exact Or.inr ⟨.packet value, accepted⟩
  | finished _ _ _ _ _ _ _ _ accepted => exact Or.inl accepted

theorem BiChange.accepted_subset (change : BiChange serving self next action stream) :
    self.accepted ⊆ next.accepted := by
  rcases change.accepted_cases with same | ⟨value, same⟩
  · rw [same]
    exact List.Subset.refl _
  · rw [same]
    exact List.subset_append_left _ _

/-- Nothing arrived and the task is still the same. -/
theorem BiRead.weaken {accepted more : List Accepted} {arrived : Bytes} (weaker : accepted ⊆ more)
    {before : Option BiStream} (read : BiRead accepted stream arrived before) :
    BiRead more stream (arrived ++ []) before := by
  cases before with
  | none => exact (List.append_nil arrived).trans read
  | some task => simpa using read.mono weaker []

/-- A handler that serves a request without a destination was asked for one. -/
theorem BiRead.unproxied {accepted : List Accepted} {arrived : Bytes}
    (read : BiRead accepted stream arrived (some task)) (aside : task.state.aside = true) :
    Unproxied arrived := by
  obtain ⟨unread, state⟩ := task
  cases state with
  | credential => exact read
  | extension => exact read
  | waiting request =>
    cases request with
    | extension => exact read
    | proxy request => contradiction
  | _ => contradiction

theorem BiChange.biRead {arrived : Bytes} (change : BiChange serving self next action stream)
    (read : BiRead self.accepted stream arrived (self.streams stream)) :
    BiRead next.accepted stream (arrived ++ action.toBi stream) (next.streams stream) := by
  have weaker := change.accepted_subset
  cases change with
  | kept silent same =>
    rw [silent, same]
    exact read.weaken weaker
  | opened silent fresh there =>
    rw [silent, there, List.append_nil]
    rw [fresh] at read
    exact read
  | arrived task here there =>
    rw [here] at read
    rw [there]
    exact read.mono weaker _
  | arrivedControl task here control there =>
    rw [here, BiRead, control] at read
    rw [there, BiRead, control]
    obtain ⟨value, member, origin⟩ := read
    exact ⟨value, weaker member, origin⟩
  | dispatched silent opcode task rest state here before unread there after =>
    rw [here, BiRead, before] at read
    rw [silent, there, List.append_nil]
    have whole : arrived = opcode :: rest := read.trans unread
    rcases after with ⟨rfl, authenticates⟩ | ⟨rfl, plain⟩ | ⟨request, asked, rfl⟩
    · exact ⟨opcode, rest, whole, by simp [authenticates, requestOf_sqAuthenticate]⟩
    · exact Or.inr ⟨opcode, rest, whole, plain⟩
    · cases request with
      | proxy request => exact ⟨opcode, asked, whole⟩
      | extension => exact ⟨opcode, rest, whole, by simp [asked]⟩
  | entered silent task request user here before there =>
    rw [here, BiRead, before] at read
    rw [silent, there, List.append_nil]
    exact read
  | read silent task request user destination rest here before decoded there =>
    rw [here, BiRead, before] at read
    rw [silent, there, List.append_nil]
    obtain ⟨opcode, asked, same⟩ := read
    obtain ⟨address, unread, exact'⟩ := decodeAddress_exact.consumes decoded
    have parts : (acceptedValue serving stream destination user request).origin = stream ∧
        (acceptedValue serving stream destination user request).request = request ∧
        (acceptedValue serving stream destination user request).destination = destination := by
      cases request <;> exact ⟨rfl, rfl, rfl⟩
    obtain ⟨origin, request', destination'⟩ := parts
    refine ⟨origin, opcode, address, ?_, ?_, ?_⟩
    · rw [request', asked]
    · rw [same, unread]
    · rw [destination', exact']
  | handed silent task value here before there accepted =>
    rw [here, BiRead, before] at read
    rw [there, accepted]
    exact Or.inl ⟨.stream value, by simp, read.1⟩
  | associated silent task value middle here before there accepted =>
    rw [here, BiRead, before] at read
    rw [there, accepted]
    exact ⟨.packet value, by simp, read.1⟩
  | finished silent task after here busy there done cause =>
    rw [here, BiRead] at read
    rw [silent, there, List.append_nil]
    obtain ⟨unread, state⟩ := after
    rcases cause with ⟨⟨error, failed⟩, _⟩ | aside
    · dsimp only at failed
      subst failed
      trivial
    · have plain : Unproxied arrived := BiRead.unproxied read aside
      cases state with
      | extension => exact plain
      | reset => exact Or.inr plain
      | ended result =>
        cases result with
        | error error => trivial
        | ok value => exact Or.inr plain
      | _ => contradiction

/-- The task and the control stream behind a value that was handed over. -/
theorem Handed.finished {arrived : Bytes} {value : Accepted} (handed : Handed arrived self value) :
    ∃ task, self.streams value.origin = some task ∧
      (task.state = .ended (.ok ()) ∨ task.state = .control) := by
  obtain ⟨rest, _, task, here, kind⟩ := handed
  cases value with
  | stream value => exact ⟨task, here, Or.inl kind.1⟩
  | packet value => exact ⟨task, here, Or.inr kind.1⟩

theorem Handed.not_busy {arrived : Bytes} {value : Accepted} (handed : Handed arrived self value)
    (here : self.streams value.origin = some task) : task.state.busy = false := by
  obtain ⟨other, there, done⟩ := handed.finished
  cases here.symm.trans there
  rcases done with state | state
  · rw [state]
    rfl
  · rw [state]
    rfl

/-- The reads of a control stream go on while it gets no bytes of its own. -/
theorem control_reads {receiver final : Receiver} {action : ReceiveAction} {control : ControlTask}
    {rest : Bytes} (here : receiver.controls stream = some control)
    (reads : Reads readRecord rest control.records control.unread)
    (other : action ≠ .associate stream)
    (stepped : receiveStep .spawned receiver action = some final) :
    ∃ later, final.controls stream = some later ∧
      Reads readRecord (rest ++ action.toControl stream) later.records later.unread := by
  have before : ControlReads rest (receiver.controls stream) := by
    rw [here]
    exact reads
  have after := receiveStep_controlReads before stepped
  have still := receiveStep_controls_isSome other stepped
  rw [here] at still
  obtain ⟨later, there⟩ := Option.isSome_iff_exists.mp still
  rw [there] at after
  exact ⟨later, there, after⟩

theorem Handed.step {arrived : Bytes} {value : Accepted} (handed : Handed arrived self value)
    (change : BiChange serving self next action value.origin) :
    Handed (arrived ++ action.toBi value.origin) next value := by
  have idle : ∀ {task : BiStream}, self.streams value.origin = some task → task.state.busy = true →
      False := by
    intro task here busy
    rw [handed.not_busy here] at busy
    contradiction
  obtain ⟨rest, requested, mine, here, kind⟩ := handed
  cases change with
  | kept silent same _ controls =>
    refine ⟨rest, ?_, mine, same.trans here, ?_⟩
    · rw [silent, List.append_nil]
      exact requested
    · cases value with
      | stream value => exact kind
      | packet value =>
        obtain ⟨state, control, found, reads⟩ := kind
        rcases controls with equal | ⟨action', quiet, other, stepped⟩
        · exact ⟨state, control, equal.trans found, reads⟩
        · obtain ⟨later, there, onward⟩ := control_reads found reads other stepped
          rw [quiet, List.append_nil] at onward
          exact ⟨state, later, there, onward⟩
  | opened _ fresh => cases fresh.symm.trans here
  | arrived task there after plain accepted receiver =>
    cases here.symm.trans there
    refine ⟨rest ++ action.toBi value.origin, requested.append _, _, after, ?_⟩
    cases value with
    | stream value => exact ⟨kind.1, by rw [kind.2]⟩
    | packet value => exact absurd kind.1 plain
  | arrivedControl task there control after accepted receiver =>
    cases here.symm.trans there
    refine ⟨rest ++ action.toBi value.origin, requested.append _, mine, after, ?_⟩
    cases value with
    | stream value => cases control.symm.trans kind.1
    | packet value =>
      obtain ⟨state, reading, found, reads⟩ := kind
      obtain ⟨later, there, onward⟩ := control_reads found reads (by simp) receiver
      rw [ReceiveAction.toControl, if_pos rfl] at onward
      exact ⟨state, later, there, onward⟩
  | dispatched _ _ task _ _ there before => exact (idle there (by rw [before]; rfl)).elim
  | entered _ task _ _ there before => exact (idle there (by rw [before]; rfl)).elim
  | read _ task _ _ _ _ there before => exact (idle there (by rw [before]; rfl)).elim
  | handed _ task _ there before => exact (idle there (by rw [before]; rfl)).elim
  | associated _ task _ _ there before => exact (idle there (by rw [before]; rfl)).elim
  | finished _ task _ there busy => exact (idle there busy).elim

/-- The value that a step hands over, seen from its own stream. -/
theorem BiChange.handed_new {value : Accepted} {arrived : Bytes}
    (change : BiChange serving self next action value.origin)
    (read : BiRead self.accepted value.origin arrived (self.streams value.origin))
    (grown : next.accepted = self.accepted ++ [value]) :
    Handed (arrived ++ action.toBi value.origin) next value ∧
      ∃ task, self.streams value.origin = some task ∧ task.state.busy = true := by
  have ungrown : next.accepted ≠ self.accepted := by
    rw [grown]
    simp
  cases change with
  | kept _ _ accepted =>
    rcases accepted with same | ⟨other, same, elsewhere⟩
    · exact absurd same ungrown
    · obtain rfl : other = value := by
        simpa using same.symm.trans grown
      exact absurd rfl elsewhere
  | handed silent task given here before there accepted receiver =>
    obtain rfl : Accepted.stream given = value := by
      simpa using accepted.symm.trans grown
    rw [here, BiRead, before] at read
    refine ⟨⟨task.unread, ?_, _, there, rfl, rfl⟩, task, here, by rw [before]; rfl⟩
    rw [silent, List.append_nil]
    exact read.2
  | associated silent task given middle here before there accepted opened filled =>
    obtain rfl : Accepted.packet given = value := by
      simpa using accepted.symm.trans grown
    rw [here, BiRead, before] at read
    have fresh : middle.controls given.connection = some ⟨[], [], true⟩ := by
      cases receiveStep_rule opened with
      | associated _ absent => exact Receiver.setControl_self _ _
    have bytes : receiveStep .spawned middle (.arriveControl given.connection task.unread) =
        some next.receiver := filled
    obtain ⟨later, control, reads⟩ := control_reads fresh .nil (by simp) bytes
    rw [ReceiveAction.toControl, if_pos rfl, List.nil_append] at reads
    refine ⟨⟨task.unread, ?_, _, there, rfl, later, control, reads⟩, task, here, by rw [before]; rfl⟩
    rw [silent, List.append_nil]
    exact read.2
  | opened _ _ _ accepted => exact absurd accepted ungrown
  | arrived _ _ _ _ accepted => exact absurd accepted ungrown
  | arrivedControl _ _ _ _ accepted => exact absurd accepted ungrown
  | dispatched _ _ _ _ _ _ _ _ _ _ accepted => exact absurd accepted ungrown
  | entered _ _ _ _ _ _ _ accepted => exact absurd accepted ungrown
  | read _ _ _ _ _ _ _ _ _ _ accepted => exact absurd accepted ungrown
  | finished _ _ _ _ _ _ _ _ accepted => exact absurd accepted ungrown

/-- A control stream belongs to a handler that has become one. -/
theorem BiChange.control (change : BiChange serving self next action stream)
    (owned : (self.receiver.controls stream).isSome = true →
      ∃ task, self.streams stream = some task ∧ task.state = .control)
    (found : (next.receiver.controls stream).isSome = true) :
    ∃ task, next.streams stream = some task ∧ task.state = .control := by
  -- a handler that is no control stream yet has none
  have none' : ∀ {task : BiStream}, self.streams stream = some task → task.state.busy = true →
      next.receiver = self.receiver → False := by
    intro task here busy receiver
    rw [receiver] at found
    obtain ⟨other, there, control⟩ := owned found
    cases here.symm.trans there
    rw [control] at busy
    contradiction
  cases change with
  | kept _ same _ controls =>
    rw [same]
    refine owned ?_
    rcases controls with equal | ⟨action', _, other, stepped⟩
    · rw [← equal]
      exact found
    · rw [← receiveStep_controls_isSome other stepped]
      exact found
  | opened _ fresh _ _ receiver =>
    rw [receiver] at found
    obtain ⟨task, here, _⟩ := owned found
    cases fresh.symm.trans here
  | arrived task here _ plain _ receiver =>
    rw [receiver] at found
    obtain ⟨other, there, control⟩ := owned found
    cases here.symm.trans there
    exact absurd control plain
  | arrivedControl task _ control there => exact ⟨task, there, control⟩
  | associated _ _ _ _ _ _ there => exact ⟨_, there, rfl⟩
  | dispatched _ _ _ _ _ here before _ _ _ _ receiver =>
    exact (none' here (by rw [before]; rfl) receiver).elim
  | entered _ _ _ _ here before _ _ receiver => exact (none' here (by rw [before]; rfl) receiver).elim
  | read _ _ _ _ _ _ here before _ _ _ receiver =>
    exact (none' here (by rw [before]; rfl) receiver).elim
  | handed _ _ _ here before _ _ receiver => exact (none' here (by rw [before]; rfl) receiver).elim
  | finished _ _ _ here busy _ _ _ _ receiver => exact (none' here busy receiver).elim

theorem serverStep_framed {arrived : Nat → Bytes} (framed : Framed arrived self)
    (stepped : serverStep serving self action = some next) :
    Framed (fun stream => arrived stream ++ action.toBi stream) next := by
  have change := serverStep_biChange framed.offersOwn stepped
  have old : ∀ value ∈ self.accepted, Handed (arrived value.origin ++ action.toBi value.origin) next value :=
    fun value member => (framed.accepted value member).step (change value.origin)
  refine ⟨fun stream => (change stream).biRead (framed.streams stream),
    fun stream => (change stream).control (framed.controls stream), ?_, ?_⟩
  · rcases (change 0).accepted_cases with same | ⟨value, grown⟩
    · rw [same]
      exact old
    · rw [grown]
      refine List.forall_mem_append.mpr ⟨old, List.forall_mem_singleton.mpr ?_⟩
      exact ((change value.origin).handed_new (framed.streams value.origin) grown).1
  · rcases (change 0).accepted_cases with same | ⟨value, grown⟩
    · rw [same]
      exact framed.once
    · rw [grown, List.map_append, List.map_singleton]
      refine List.nodup_append.mpr ⟨framed.once, List.nodup_singleton _, ?_⟩
      -- the handler of an earlier value of this stream would be at its end
      rintro origin before other last rfl
      obtain ⟨earlier, member, rfl⟩ := List.mem_map.mp before
      obtain same := List.mem_singleton.mp last
      obtain ⟨task, here, busy⟩ :=
        ((change value.origin).handed_new (framed.streams value.origin) grown).2
      rw [(framed.accepted earlier member).not_busy (same ▸ here)] at busy
      contradiction

theorem Server.initial_framed : Framed (fun _ => []) Server.initial where
  streams _ := rfl
  controls _ found := absurd found (by simp [Server.initial, Receiver.initial])
  accepted _ member := absurd member List.not_mem_nil
  once := List.nodup_nil

end Steps

theorem run_framed {serving : Serving} {actions : List ServerAction} {server : Server}
    (execution : Transition.run (serverStep serving) .initial actions = some server) :
    Framed (arrivedBi · actions) server := by
  refine Transition.run_induction (P := fun actions state => Framed (arrivedBi · actions) state)
    Server.initial_framed ?_ execution
  intro actions middle action final _ framed stepped
  have appended : (arrivedBi · (actions ++ [action])) =
      fun stream => arrivedBi stream actions ++ action.toBi stream := by
    funext stream
    rw [arrivedBi, arrivedBi, List.flatMap_append, List.flatMap_singleton]
  rw [appended]
  exact serverStep_framed framed stepped

/-- No stream is handed over twice, and every value handed over is what its stream asked
for; a peer that asks for something else is served something else. -/
theorem accepted_as_requested {serving : Serving} {actions : List ServerAction} {server : Server}
    (execution : Transition.run (serverStep serving) .initial actions = some server) :
    (server.accepted.map Accepted.origin).Nodup ∧
      ∀ value ∈ server.accepted, Handed (arrivedBi value.origin actions) server value :=
  ⟨(run_framed execution).once, (run_framed execution).accepted⟩

theorem ProxyRequest.encode_eq_ok {request : ProxyRequest} {destination : Address} {bytes : Bytes}
    (encoded : request.encode destination = .ok bytes) : ∃ opcode address,
      bytes = opcode :: address ∧ requestOf opcode = some (.proxy request) ∧
        encodeAddress destination = .ok address := by
  unfold ProxyRequest.encode at encoded
  cases coded : encodeAddress destination with
  | error error => cases request <;> simp [encodeConnect, encodeAssociate, coded, Except.map] at encoded
  | ok address =>
    cases request with
    | connect =>
      simp only [encodeConnect, coded, Except.map, Except.ok.injEq] at encoded
      exact ⟨sqConnect, address, encoded.symm, rfl, rfl⟩
    | associate mode =>
      simp only [encodeAssociate, coded, Except.map, Except.ok.injEq] at encoded
      cases mode with
      | datagram => exact ⟨sqAssociateOverDatagram, address, encoded.symm, rfl, rfl⟩
      | stream => exact ⟨sqAssociateOverStream, address, encoded.symm, rfl, rfl⟩

/-- What a client's bytes can have asked for. -/
theorem Requested.of_encode {value : Accepted} {request : ProxyRequest} {destination : Address}
    {bytes payload arrived rest : Bytes} (encoded : request.encode destination = .ok bytes)
    (part : arrived <+: bytes ++ payload) (requested : Requested value arrived rest) :
    value.request = request ∧ value.destination = canonical destination ∧ arrived = bytes ++ rest := by
  obtain ⟨opcode, address, rfl, asked, coded⟩ := ProxyRequest.encode_eq_ok encoded
  obtain ⟨opcode', address', asked', rfl, decoded⟩ := requested
  rw [List.cons_append, List.cons_prefix_cons] at part
  obtain ⟨rfl, part⟩ := part
  have same : value.request = request := by
    have := asked'.symm.trans asked
    cases this
    rfl
  have read := decodeAddress_stable.done decoded rest
  rw [List.nil_append] at read
  have whole := decodeAddress_encodeAddress coded
  rcases List.prefix_or_prefix_of_prefix part (List.prefix_append address payload) with
    ⟨missing, short⟩ | ⟨more, long⟩
  · -- the request has not arrived any further than it was read
    have again := decodeAddress_stable.done read missing
    rw [short] at again
    have alone := whole []
    rw [List.append_nil, again] at alone
    obtain ⟨target, nothing⟩ := Read.done.inj alone
    obtain ⟨rfl, rfl⟩ := List.append_eq_nil_iff.mp nothing
    rw [List.append_nil] at short
    exact ⟨same, target, by rw [short, List.append_nil]⟩
  · have again := whole more
    rw [long, read] at again
    obtain ⟨target, rfl⟩ := Read.done.inj again
    exact ⟨same, target, by rw [List.cons_append, long]⟩

/-- Bytes of a client's request are never those of a request without a destination. -/
theorem ProxyRequest.not_unproxied {request : ProxyRequest} {destination : Address}
    {bytes payload arrived : Bytes} (encoded : request.encode destination = .ok bytes)
    (part : arrived <+: bytes ++ payload) : ¬ Unproxied arrived := by
  obtain ⟨opcode, address, rfl, asked, _⟩ := ProxyRequest.encode_eq_ok encoded
  rintro ⟨other, later, rfl, plain⟩
  rw [List.cons_append, List.cons_prefix_cons] at part
  obtain ⟨rfl, _⟩ := part
  exact plain request asked

/-- A handler that reads a client's request reads a destination, or waits for more of it. -/
theorem BiRead.not_garbled {request : ProxyRequest} {destination : Address} {accepted : List Accepted}
    {bytes payload arrived : Bytes} {stream : Nat} {task : BiStream}
    (encoded : request.encode destination = .ok bytes) (part : arrived <+: bytes ++ payload)
    (read : BiRead accepted stream arrived (some task)) : ¬ task.Garbled := by
  rintro ⟨request', user, error, state, failed⟩
  obtain ⟨opcode, address, rfl, asked, coded⟩ := ProxyRequest.encode_eq_ok encoded
  rw [BiRead, state] at read
  obtain ⟨opcode', _, rfl⟩ := read
  rw [List.cons_append, List.cons_prefix_cons] at part
  obtain ⟨_, missing, whole⟩ := part
  have stuck := decodeAddress_stable.failed failed missing
  rw [whole, decodeAddress_encodeAddress coded payload] at stuck
  contradiction

/-- The handler of the stream has not ended in an error. -/
def Server.Sound (server : Server) (stream : Nat) : Prop :=
  ∀ task error, server.streams stream = some task → task.state ≠ .ended (.error error)

/-- Only what breaks the stream makes an error of a client's request. -/
theorem BiChange.sound {serving : Serving} {self next : Server} {action : ServerAction} {stream : Nat}
    {request : ProxyRequest} {destination : Address} {bytes payload arrived : Bytes}
    (change : BiChange serving self next action stream)
    (read : BiRead self.accepted stream arrived (self.streams stream))
    (encoded : request.encode destination = .ok bytes) (part : arrived <+: bytes ++ payload)
    (unbroken : action.breaks stream = false) (sound : self.Sound stream) : next.Sound stream := by
  intro task error there failed
  cases change with
  | kept _ same => exact sound task error (same.symm.trans there) failed
  | opened _ _ after =>
    cases after.symm.trans there
    contradiction
  | arrived before here after =>
    cases after.symm.trans there
    exact sound before error here failed
  | arrivedControl before here _ after =>
    cases after.symm.trans there
    exact sound task error here failed
  | dispatched _ opcode before rest state here _ _ after kind =>
    cases after.symm.trans there
    rcases kind with ⟨rfl, _⟩ | ⟨rfl, _⟩ | ⟨_, _, rfl⟩ <;> contradiction
  | entered _ _ _ _ _ _ after =>
    cases after.symm.trans there
    contradiction
  | read _ _ _ _ _ _ _ _ _ after =>
    cases after.symm.trans there
    contradiction
  | handed _ _ _ _ _ after =>
    cases after.symm.trans there
    cases failed
  | associated _ _ _ _ _ _ after =>
    cases after.symm.trans there
    contradiction
  | finished _ before _ here _ _ _ cause =>
    rw [here] at read
    rcases cause with ⟨_, breaks | garbled⟩ | aside
    · rw [unbroken] at breaks
      contradiction
    · exact read.not_garbled encoded part garbled
    · exact ProxyRequest.not_unproxied encoded part (read.unproxied aside)

/-- In a run that nothing breaks a client's stream in, its handler meets no error. -/
theorem run_unbroken {serving : Serving} {actions : List ServerAction} {server : Server} {stream : Nat}
    {request : ProxyRequest} {destination : Address} {bytes payload : Bytes}
    (execution : Transition.run (serverStep serving) .initial actions = some server)
    (encoded : request.encode destination = .ok bytes)
    (part : arrivedBi stream actions <+: bytes ++ payload)
    (unbroken : ∀ action ∈ actions, action.breaks stream = false) : server.Sound stream := by
  refine Transition.run_induction (P := fun actions state => arrivedBi stream actions <+: bytes ++ payload →
    (∀ action ∈ actions, action.breaks stream = false) → state.Sound stream) ?_ ?_ execution part unbroken
  · intro _ _ task error here
    contradiction
  · intro actions middle action final executed sound stepped part unbroken
    have framed := run_framed executed
    have earlier : arrivedBi stream actions <+: bytes ++ payload := by
      refine List.IsPrefix.trans ?_ part
      rw [arrivedBi, arrivedBi, List.flatMap_append]
      exact List.prefix_append _ _
    exact (serverStep_biChange framed.offersOwn stepped stream).sound (framed.streams stream) encoded
      earlier (unbroken action (by simp))
      (sound earlier fun action member => unbroken action (List.mem_append_left _ member))

/-- The handler of a stream has run until it blocks. -/
def Server.Blocked (serving : Serving) (self : Server) (stream : Nat) : Prop :=
  serverStep serving self (.readOpcode stream) = none ∧
    serverStep serving self (.pass (.bi stream)) = none ∧
    serverStep serving self (.readDestination stream) = none ∧
    serverStep serving self (.offer stream) = none

/-- A handler that has a whole request of a client, finds the gate open and has not
failed gets on until it has handed the request over. -/
theorem Framed.handed {serving : Serving} {server : Server} {arrived : Nat → Bytes} {stream : Nat}
    {request : ProxyRequest} {destination : Address} {bytes rest : Bytes} {user : String} {task : BiStream}
    (framed : Framed arrived server) (encoded : request.encode destination = .ok bytes)
    (whole : arrived stream = bytes ++ rest) (here : server.streams stream = some task)
    (gate : waitForSunnyAuth serving.authentication server.watch = some (.ok user))
    (running : ∀ error, task.state ≠ .ended (.error error)) (blocked : server.Blocked serving stream) :
    ∃ value ∈ server.accepted, value.origin = stream := by
  obtain ⟨opcode, address, rfl, asked, coded⟩ := ProxyRequest.encode_eq_ok encoded
  obtain ⟨noOpcode, noPass, noDestination, noOffer⟩ := blocked
  rw [List.cons_append] at whole
  have proxied : ¬ Unproxied (arrived stream) := by
    rintro ⟨other, later, same, plain⟩
    obtain ⟨rfl, _⟩ := List.cons.inj (whole.symm.trans same)
    exact plain request asked
  have read := framed.streams stream
  rw [here, BiRead] at read
  obtain ⟨unread, state⟩ := task
  cases state with
  | opcode =>
    have head : unread = opcode :: (address ++ rest) := (read : arrived stream = unread).symm.trans whole
    simp [serverStep, here, head, readByte] at noOpcode
  | credential => exact absurd read proxied
  | waiting request' =>
    simp [serverStep, gate, Server.enter, here] at noPass
    cases request' <;> simp at noPass
  | destination request' user' =>
    obtain ⟨other, _, same⟩ := read
    obtain ⟨rfl, rest'⟩ := List.cons.inj (whole.symm.trans same)
    have decoded := decodeAddress_encodeAddress coded rest
    rw [rest'] at decoded
    simp [serverStep, here, decoded] at noDestination
  | offering value =>
    have free : server.receiver.controls stream = none := by
      by_contra owned
      obtain ⟨other, there, control⟩ := framed.controls stream (Option.isSome_iff_ne_none.mpr owned)
      cases here.symm.trans there
      contradiction
    cases value <;> simp [serverStep, here, Server.hand, receiveStep, free] at noOffer
  | control => exact read
  | extension => exact absurd read proxied
  | reset => exact read.resolve_right proxied
  | ended result =>
    cases result with
    | error error => exact absurd rfl (running error)
    | ok value => exact read.resolve_right proxied

/-- A stream on which a client has written a request and then a payload: whatever else the
connection does, the stream is handed over at most as that request, with the bytes of the
payload that have arrived; and it is handed over once the gate is open and the handler has
run until it blocks, unless the stream was broken. -/
theorem request_tunnelled {serving : Serving} {actions : List ServerAction} {server : Server}
    {stream : Nat} {request : ProxyRequest} {destination : Address} {bytes payload : Bytes}
    (execution : Transition.run (serverStep serving) .initial actions = some server)
    (encoded : request.encode destination = .ok bytes)
    (part : arrivedBi stream actions <+: bytes ++ payload) :
    (∀ value ∈ server.accepted, value.origin = stream → value.request = request ∧
      value.destination = canonical destination ∧ ∃ rest, arrivedBi stream actions = bytes ++ rest ∧
        rest <+: payload ∧ Continues server value rest) ∧
    (∀ task user, bytes <+: arrivedBi stream actions → server.streams stream = some task →
      waitForSunnyAuth serving.authentication server.watch = some (.ok user) →
      (∀ action ∈ actions, action.breaks stream = false) → server.Blocked serving stream →
      ∃ value ∈ server.accepted, value.origin = stream) := by
  have framed := run_framed execution
  constructor
  · rintro value member rfl
    obtain ⟨rest, requested, continues⟩ := framed.accepted value member
    obtain ⟨same, target, whole⟩ := requested.of_encode encoded part
    refine ⟨same, target, rest, whole, ?_, continues⟩
    rw [whole, List.prefix_append_right_inj] at part
    exact part
  · rintro task user ⟨rest, whole⟩ here gate unbroken blocked
    have sound := run_unbroken execution encoded part unbroken
    exact framed.handed encoded whole.symm here gate (fun error => sound task error here) blocked

def bobServing : Serving := ⟨.jls, "bob", ⟨.v4 ⟨[127, 0, 0, 7], rfl⟩, 4001⟩⟩

/-- A request in two parts, with the first byte of the payload in the second. -/
def bobRun : List ServerAction :=
  [.accept 0, .arrive 0 [1, 3, 1], .readOpcode 0, .pass (.bi 0), .arrive 0 [119, 0, 80, 7],
    .readDestination 0, .offer 0, .arrive 0 [8]]

theorem accepted_as_requested_bob : ∃ server,
    Transition.run (serverStep bobServing) .initial bobRun = some server ∧
      server.accepted.map Accepted.user = ["bob"] ∧ (server.accepted.map Accepted.origin).Nodup ∧
      ∀ value ∈ server.accepted, Handed (arrivedBi value.origin bobRun) server value := by
  have execution : Transition.run (serverStep bobServing) .initial bobRun = some _ := rfl
  exact ⟨_, execution, rfl, accepted_as_requested execution⟩

theorem request_tunnelled_bob : ∃ server,
    Transition.run (serverStep bobServing) .initial bobRun = some server ∧
      arrivedBi 0 bobRun = [1, 3, 1, 119, 0, 80] ++ [7, 8] ∧
      ∃ value ∈ server.accepted, value.origin = 0 := by
  have execution : Transition.run (serverStep bobServing) .initial bobRun = some _ := rfl
  have encoded : ProxyRequest.connect.encode ⟨"w", 80, by decide⟩ = .ok [1, 3, 1, 119, 0, 80] := rfl
  have arrived : arrivedBi 0 bobRun = [1, 3, 1, 119, 0, 80] ++ [7, 8] := rfl
  have part : arrivedBi 0 bobRun <+: [1, 3, 1, 119, 0, 80] ++ [7, 8] := List.prefix_rfl
  refine ⟨_, execution, arrived, (request_tunnelled execution encoded part).2
    _ "" (List.prefix_append _ _) rfl rfl (by decide) ⟨rfl, rfl, rfl, rfl⟩⟩

end SingQuic.ShadowQuic
