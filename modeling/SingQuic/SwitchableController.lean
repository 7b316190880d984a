import SingQuic.Congestion
import SingQuic.Transport
import SingQuic.Lib.Shared

/-! The congestion controller that can be replaced while a connection runs. Its clones share
one state; what quinn's own controllers do is a parameter. -/
namespace SingQuic

/-- What the wrapper uses of quinn: the boxed controllers as arbitrary machines with the
methods of the `Controller` trait, and the two constructors it calls. -/
structure Quinn where
  Instant : Type
  RttEstimator : Type
  Pacing : Type
  ControllerMetrics : Type
  Controller : Type
  onSent : Controller → Instant → UInt64 → UInt64 → Controller
  onAck : Controller → Instant → Instant → UInt64 → Bool → RttEstimator → Controller
  onEndAcks : Controller → Instant → UInt64 → Bool → Option UInt64 → Controller
  onCongestionEvent : Controller → Instant → Instant → Bool → Bool → UInt64 → UInt64 → Controller
  onMtuUpdate : Controller → UInt16 → Controller
  window : Controller → UInt64
  pacing : Controller → UInt16 → Option Pacing
  metrics : Controller → ControllerMetrics
  initialWindow : Controller → UInt64
  /-- `BbrConfig::default()`, built. -/
  bbr : Instant → UInt16 → Controller
  /-- `BrutalConfig::new(rate)` with its loss compensation set, built with a round trip time. -/
  brutal : UInt64 → Bool → Instant → UInt16 → Transport.Duration → Controller

variable {q : Quinn}

inductive ControllerEvent (q : Quinn) where
  | sent (now : q.Instant) (bytes lastPacketNumber : UInt64)
  | ack (now sent : q.Instant) (bytes : UInt64) (appLimited : Bool) (rtt : q.RttEstimator)
  | endAcks (now : q.Instant) (inFlight : UInt64) (appLimited : Bool) (largestPacketNumAcked : Option UInt64)
  | congestion (now sent : q.Instant) (isPersistentCongestion isEcn : Bool) (lostBytes lostPackets : UInt64)
  | mtuUpdate (newMtu : UInt16)

/-- The controller on its own. -/
def Quinn.event (q : Quinn) (controller : q.Controller) : ControllerEvent q → q.Controller
  | .sent now bytes lastPacketNumber => q.onSent controller now bytes lastPacketNumber
  | .ack now sent bytes appLimited rtt => q.onAck controller now sent bytes appLimited rtt
  | .endAcks now inFlight appLimited largest => q.onEndAcks controller now inFlight appLimited largest
  | .congestion now sent persistent ecn lostBytes lostPackets =>
    q.onCongestionEvent controller now sent persistent ecn lostBytes lostPackets
  | .mtuUpdate newMtu => q.onMtuUpdate controller newMtu

structure SwitchState (q : Quinn) where
  controller : q.Controller
  kind : CongestionKind
  currentMtu : UInt16

namespace SwitchState

def setBbr (state : SwitchState q) (now : q.Instant) : SwitchState q :=
  { state with controller := q.bbr now state.currentMtu, kind := .bbr }

def setBrutal (state : SwitchState q) (bytesPerSecond : UInt64) (initialRtt : Transport.Duration)
    (disableLossCompensation : Bool) (now : q.Instant) : SwitchState q :=
  { state with
    controller := q.brutal bytesPerSecond (!disableLossCompensation) now state.currentMtu initialRtt
    kind := .brutal bytesPerSecond.toNat }

/-- The trait methods of the wrapper: all forward, one also keeps what it is told. -/
def onEvent (state : SwitchState q) : ControllerEvent q → SwitchState q
  | .sent now bytes lastPacketNumber =>
    { state with controller := q.onSent state.controller now bytes lastPacketNumber }
  | .ack now sent bytes appLimited rtt =>
    { state with controller := q.onAck state.controller now sent bytes appLimited rtt }
  | .endAcks now inFlight appLimited largest =>
    { state with controller := q.onEndAcks state.controller now inFlight appLimited largest }
  | .congestion now sent persistent ecn lostBytes lostPackets =>
    { state with
      controller := q.onCongestionEvent state.controller now sent persistent ecn lostBytes lostPackets }
  | .mtuUpdate newMtu =>
    { state with currentMtu := newMtu, controller := q.onMtuUpdate state.controller newMtu }

end SwitchState

/-- `SwitchableCongestionFactory::build`, up to the reference around it. -/
def buildSwitchable (now : q.Instant) (currentMtu : UInt16) : SwitchState q :=
  ⟨q.bbr now currentMtu, .bbr, currentMtu⟩

/-- A replacement of the controller. -/
inductive Switch (q : Quinn) where
  | bbr (now : q.Instant)
  | brutal (bytesPerSecond : UInt64) (initialRtt : Transport.Duration) (disableLossCompensation : Bool)
      (now : q.Instant)

inductive Operation (q : Quinn) where
  | event (event : ControllerEvent q)
  | switch (switch : Switch q)

def SwitchState.perform (state : SwitchState q) : Operation q → SwitchState q
  | .event event => state.onEvent event
  | .switch (.bbr now) => state.setBbr now
  | .switch (.brutal bytesPerSecond initialRtt disable now) =>
    state.setBrutal bytesPerSecond initialRtt disable now

/-- All switchable controllers of a process and the handles to them. -/
abbrev Controllers (q : Quinn) := Shared.Store (SwitchState q)

inductive ControllerAction (q : Quinn) where
  | build (now : q.Instant) (currentMtu : UInt16)
  | clone (handle : Nat)
  | cloneBox (handle : Nat)
  | perform (handle : Nat) (operation : Operation q)

def controllerStep (controllers : Controllers q) : ControllerAction q → Option (Controllers q)
  | .build now currentMtu => some (controllers.alloc (buildSwitchable now currentMtu))
  | .clone handle | .cloneBox handle => controllers.share handle
  | .perform handle operation => controllers.modify handle (·.perform operation)

namespace SwitchableController
variable (controllers : Controllers q) (handle : Nat)

def window : Option UInt64 := (controllers.read handle).map fun state => q.window state.controller

def pacing (currentMtu : UInt16) : Option (Option q.Pacing) :=
  (controllers.read handle).map fun state => q.pacing state.controller currentMtu

def metrics : Option q.ControllerMetrics :=
  (controllers.read handle).map fun state => q.metrics state.controller

def initialWindow : Option UInt64 :=
  (controllers.read handle).map fun state => q.initialWindow state.controller

def kind : Option CongestionKind := (controllers.read handle).map SwitchState.kind

end SwitchableController

/-- What the operation does to a controller on its own, built anew with an MTU. -/
def Switch.build : Switch q → UInt16 → q.Controller
  | .bbr now, mtu => q.bbr now mtu
  | .brutal bytesPerSecond initialRtt disable now, mtu => q.brutal bytesPerSecond (!disable) now mtu initialRtt

def Switch.kind : Switch q → CongestionKind
  | .bbr _ => .bbr
  | .brutal bytesPerSecond _ _ _ => .brutal bytesPerSecond.toNat

/-- The MTU as far as the operation reports one. -/
def Operation.reported (mtu : UInt16) : Operation q → UInt16
  | .event (.mtuUpdate newMtu) => newMtu
  | .event _ | .switch _ => mtu

/-- The last MTU among the operations, or the one from before. -/
def lastReported (mtu : UInt16) (operations : List (Operation q)) : UInt16 :=
  operations.foldl Operation.reported mtu

theorem perform_event (state : SwitchState q) (event : ControllerEvent q) :
    (state.perform (.event event)).controller = q.event state.controller event ∧
      (state.perform (.event event)).kind = state.kind := by
  cases event <;> exact ⟨rfl, rfl⟩

theorem perform_switch (state : SwitchState q) (switch : Switch q) :
    state.perform (.switch switch) = ⟨switch.build state.currentMtu, switch.kind, state.currentMtu⟩ := by
  cases switch <;> rfl

theorem perform_currentMtu (state : SwitchState q) (operation : Operation q) :
    (state.perform operation).currentMtu = operation.reported state.currentMtu := by
  cases operation with
  | event event => cases event <;> rfl
  | switch switch => cases switch <;> rfl

/-- The three fields stay in step: the MTU is the last one reported. -/
theorem foldl_currentMtu (state : SwitchState q) (operations : List (Operation q)) :
    (operations.foldl SwitchState.perform state).currentMtu =
      lastReported state.currentMtu operations := by
  induction operations generalizing state with
  | nil => rfl
  | cons operation operations ih =>
    rw [List.foldl_cons, ih, perform_currentMtu, lastReported, lastReported, List.foldl_cons]

/-- Between two switches the wrapper runs the controller it holds. -/
theorem foldl_events (state : SwitchState q) (events : List (ControllerEvent q)) :
    ((events.map Operation.event).foldl SwitchState.perform state).controller =
        events.foldl q.event state.controller ∧
      ((events.map Operation.event).foldl SwitchState.perform state).kind = state.kind := by
  induction events generalizing state with
  | nil => exact ⟨rfl, rfl⟩
  | cons event events ih =>
    obtain ⟨controller, kind⟩ := perform_event state event
    obtain ⟨forwarded, kept⟩ := ih (state.perform (.event event))
    rw [List.map_cons, List.foldl_cons, List.foldl_cons, forwarded, kept, controller, kind]
    exact ⟨rfl, rfl⟩

/-- A list of operations has a last switch, unless it has none. -/
theorem last_switch (operations : List (Operation q)) :
    (∃ events : List (ControllerEvent q), operations = events.map .event) ∨
      ∃ earlier switch, ∃ events : List (ControllerEvent q),
        operations = earlier ++ .switch switch :: events.map .event := by
  induction operations with
  | nil => exact Or.inl ⟨[], rfl⟩
  | cons operation operations ih =>
    rcases ih with ⟨events, rfl⟩ | ⟨earlier, switch, events, rfl⟩
    · cases operation with
      | event event => exact Or.inl ⟨event :: events, rfl⟩
      | switch switch => exact Or.inr ⟨[], switch, events, rfl⟩
    · exact Or.inr ⟨operation :: earlier, switch, events, rfl⟩

/-- The clones of one controller, the wrapper itself among them: both ways to clone hand on the
reference to the state. -/
def clones (family : Shared.Family) : ControllerAction q → Shared.Family
  | .build _ _ => family.alloc
  | .clone handle | .cloneBox handle => family.share handle
  | .perform _ _ => family

/-- What the action does through one of the clones. -/
def operationsThrough (family : Shared.Family) : ControllerAction q → List (Operation q)
  | .perform handle operation => if handle ∈ family.members then [operation] else []
  | .build _ _ | .clone _ | .cloneBox _ => []

/-- What the actions do through the clones there are by then, in order. -/
def performed (family : Shared.Family) : List (ControllerAction q) → List (Operation q)
  | [] => []
  | action :: actions => operationsThrough family action ++ performed (clones family action) actions

section Runs
open Transition
variable {controllers after final : Controllers q} {action : ControllerAction q}
  {actions : List (ControllerAction q)} {cell : Nat} {state : SwitchState q} {family : Shared.Family}

theorem cell_of_step (stepped : controllerStep controllers action = some after)
    (leads : family.Leads controllers cell) (here : controllers.cells[cell]? = some state) :
    (clones family action).Leads after cell ∧
      after.cells[cell]? = some ((operationsThrough family action).foldl SwitchState.perform state) := by
  cases action with
  | build now currentMtu =>
    cases Option.some.inj stepped
    exact ⟨leads.alloc _, Shared.Store.cells_alloc here⟩
  | clone handle =>
    refine ⟨leads.share stepped, ?_⟩
    rw [Shared.Store.cells_share stepped]
    exact here
  | cloneBox handle =>
    refine ⟨leads.share stepped, ?_⟩
    rw [Shared.Store.cells_share stepped]
    exact here
  | perform handle operation =>
    refine ⟨leads.modify stepped, ?_⟩
    rw [Shared.Store.cells_modify stepped here, operationsThrough]
    by_cases own : handle ∈ family.members
    · rw [if_pos ((leads.leads handle).mpr own), if_pos own]
      rfl
    · rw [if_neg (mt (leads.leads handle).mp own), if_neg own]
      rfl

/-- Every clone leads to the one state, and the state has gone through the operations on the
clones, whatever was done to other controllers in between. -/
theorem cell_of_run (execution : run controllerStep controllers actions = some final)
    (leads : family.Leads controllers cell) (here : controllers.cells[cell]? = some state) :
    (actions.foldl clones family).Leads final cell ∧
      final.cells[cell]? = some ((performed family actions).foldl SwitchState.perform state) := by
  induction actions generalizing controllers family state with
  | nil =>
    cases Option.some.inj execution
    exact ⟨leads, here⟩
  | cons action actions ih =>
    obtain ⟨middle, stepped, onward⟩ := run_cons.mp execution
    obtain ⟨kept, moved⟩ := cell_of_step stepped leads here
    rw [List.foldl_cons, performed, List.foldl_append]
    exact ih onward kept moved

/-- Through the handle a controller is seen, and the kind that goes with it. -/
structure Shows (controllers : Controllers q) (handle : Nat) (controller : q.Controller)
    (kind : CongestionKind) : Prop where
  window : SwitchableController.window controllers handle = some (q.window controller)
  pacing : ∀ currentMtu, SwitchableController.pacing controllers handle currentMtu =
    some (q.pacing controller currentMtu)
  metrics : SwitchableController.metrics controllers handle = some (q.metrics controller)
  initialWindow : SwitchableController.initialWindow controllers handle = some (q.initialWindow controller)
  kind : SwitchableController.kind controllers handle = some kind

/-- A state that has only seen events since shows the controller it had then, run on them. -/
theorem shows_events {handle : Nat} {events : List (ControllerEvent q)}
    (seen : controllers.read handle = some ((events.map .event).foldl SwitchState.perform state)) :
    Shows controllers handle (events.foldl q.event state.controller) state.kind := by
  obtain ⟨controller, kind⟩ := foldl_events state events
  rw [← controller, ← kind]
  constructor
  · rw [SwitchableController.window, seen, Option.map_some]
  · intro currentMtu
    rw [SwitchableController.pacing, seen, Option.map_some]
  · rw [SwitchableController.metrics, seen, Option.map_some]
  · rw [SwitchableController.initialWindow, seen, Option.map_some]
  · rw [SwitchableController.kind, seen, Option.map_some]

/-- The handle shows the controller of the last switch, built with the last MTU reported
before it, after exactly the events since; without a switch, the first controller. -/
def ShowsLast (controllers : Controllers q) (handle : Nat) (now : q.Instant) (mtu : UInt16)
    (operations : List (Operation q)) : Prop :=
  (∃ events : List (ControllerEvent q), operations = events.map .event ∧
    Shows controllers handle (events.foldl q.event (q.bbr now mtu)) .bbr) ∨
  ∃ earlier switch, ∃ events : List (ControllerEvent q),
    operations = earlier ++ .switch switch :: events.map .event ∧
    Shows controllers handle (events.foldl q.event (switch.build (lastReported mtu earlier))) switch.kind

/-- Whatever was built before and beside it, and through whichever clones the operations on it and
the look at it come, a switchable controller is the one it was last switched to. -/
theorem shows_last_switch (controllers : Controllers q) (now : q.Instant) (mtu : UInt16)
    (execution : run controllerStep (controllers.alloc (buildSwitchable now mtu)) actions = some final)
    {handle : Nat}
    (clone : handle ∈ (actions.foldl clones (.first controllers.handles.length)).members) :
    ShowsLast final handle now mtu (performed (.first controllers.handles.length) actions) := by
  obtain ⟨leads, cell⟩ := cell_of_run execution (Shared.Family.leads_first controllers _)
    (Shared.Store.cells_alloc_self controllers _)
  have seen := Shared.Store.read_eq ((leads.leads handle).mpr clone) cell
  rcases last_switch (performed (.first controllers.handles.length) actions) with
    ⟨events, all⟩ | ⟨earlier, switch, events, all⟩
  · rw [all] at seen
    exact Or.inl ⟨events, all, shows_events seen⟩
  · rw [all, List.foldl_append, List.foldl_cons, perform_switch, foldl_currentMtu] at seen
    exact Or.inr ⟨earlier, switch, events, all, shows_events seen⟩

/-- Two controllers that only count what they are told. -/
def tally : Quinn where
  Instant := Unit
  RttEstimator := Unit
  Pacing := UInt16
  ControllerMetrics := UInt64
  Controller := UInt64
  onSent counted _ bytes _ := counted + bytes
  onAck counted _ _ bytes _ _ := counted + bytes
  onEndAcks counted _ inFlight _ _ := counted + inFlight
  onCongestionEvent counted _ _ _ _ lostBytes _ := counted + lostBytes
  onMtuUpdate counted mtu := counted + mtu.toUInt64
  window counted := counted
  pacing _ mtu := some mtu
  metrics counted := counted
  initialWindow _ := 0
  bbr _ mtu := mtu.toUInt64
  brutal rate _ _ mtu _ := rate + mtu.toUInt64

/-- A switch through one clone and events through others. -/
def tallyActions : List (ControllerAction tally) :=
  [.clone 0, .perform 1 (.event (.mtuUpdate 1400)),
    .perform 0 (.switch (.brutal 5000 ⟨0, 1, by decide⟩ false ())), .cloneBox 1,
    .perform 2 (.event (.sent () 100 7))]

theorem shows_last_switch_tally : ∃ final : Controllers tally,
    run controllerStep (Shared.Store.empty.alloc (buildSwitchable () 1200)) tallyActions = some final ∧
    ShowsLast final 1 () 1200 [.event (.mtuUpdate 1400),
      .switch (.brutal 5000 ⟨0, 1, by decide⟩ false ()), .event (.sent () 100 7)] := by
  refine ⟨_, rfl, ?_⟩
  exact @shows_last_switch tally _ tallyActions Shared.Store.empty () 1200 rfl 1 (by decide)

/-- The handle `connection.congestion_state()` comes with, if it is one of ours; `none`
stands for the controller of a connection that was not built with the factory. -/
def switchConnection (controllers : Controllers q) (connection : Option Nat) (switch : Switch q) :
    Controllers q × Bool :=
  match connection.bind fun handle => run controllerStep controllers
      [.cloneBox handle, .perform controllers.handles.length (.switch switch)] with
  | none => (controllers, false)
  | some switched => (switched, true)

namespace SwitchableController

def configureConnectionBrutalWithOptions (controllers : Controllers q) (connection : Option Nat)
    (rtt : Transport.Duration) (now : q.Instant) (bytesPerSecond : UInt64)
    (disableLossCompensation : Bool) : Controllers q × Bool :=
  if bytesPerSecond = 0 then (controllers, false)
  else switchConnection controllers connection (.brutal bytesPerSecond rtt disableLossCompensation now)

def configureConnectionBrutal (controllers : Controllers q) (connection : Option Nat)
    (rtt : Transport.Duration) (now : q.Instant) (bytesPerSecond : UInt64) : Controllers q × Bool :=
  configureConnectionBrutalWithOptions controllers connection rtt now bytesPerSecond false

def configureConnectionBbr (controllers : Controllers q) (connection : Option Nat) (now : q.Instant) :
    Controllers q × Bool :=
  switchConnection controllers connection (.bbr now)

def connectionCongestionKind (controllers : Controllers q) (connection : Option Nat) :
    Option CongestionKind :=
  connection.bind (kind controllers)

end SwitchableController

/-- A switch through the temporary clone reaches the connection's own handle. -/
theorem switchConnection_some {handle : Nat} (controllers : Controllers q)
    (seen : controllers.read handle = some state) (switch : Switch q) :
    ∃ switched, switchConnection controllers (some handle) switch = (switched, true) ∧
      switched.read handle = some (state.perform (.switch switch)) := by
  obtain ⟨cell, leads, here⟩ := Option.bind_eq_some_iff.mp seen
  obtain ⟨shared, cloned, handles⟩ := Shared.Store.share_of_leads leads
  have inside : handle < controllers.handles.length := (List.getElem?_eq_some_iff.mp leads).1
  have fresh : shared.handles[controllers.handles.length]? = some cell := by
    rw [handles, List.getElem?_concat_length]
  have here' : shared.cells[cell]? = some state := by
    rw [Shared.Store.cells_share cloned]
    exact here
  obtain ⟨switched, modified⟩ : ∃ switched, shared.modify controllers.handles.length
      (·.perform (.switch switch)) = some switched := by
    rw [Shared.Store.modify, fresh]
    exact ⟨_, rfl⟩
  refine ⟨switched, ?_, ?_⟩
  · have execution : run controllerStep controllers
        [.cloneBox handle, .perform controllers.handles.length (.switch switch)] = some switched :=
      run_cons.mpr ⟨shared, cloned, run_cons.mpr ⟨switched, modified, rfl⟩⟩
    rw [switchConnection, Option.bind_some, execution]
  · have kept : switched.handles[handle]? = some cell := by
      rw [Shared.Store.handles_modify modified, handles, List.getElem?_append_left inside, leads]
    apply Shared.Store.read_eq kept
    rw [Shared.Store.cells_modify modified here', if_pos fresh]

/-- Seen from a connection, switching to Brutal is what it is for the kinds alone. -/
theorem configureConnectionBrutal_kind (controllers : Controllers q) {connection : Option Nat}
    (live : ∀ handle, connection = some handle → handle < controllers.handles.length)
    (rtt : Transport.Duration) (now : q.Instant) (bytesPerSecond : UInt64) :
    ∃ after switched, SwitchableController.configureConnectionBrutal controllers connection rtt now
        bytesPerSecond = (after, switched) ∧
      (SwitchableController.connectionCongestionKind after connection, switched) =
        SingQuic.configureConnectionBrutal
          (SwitchableController.connectionCongestionKind controllers connection) bytesPerSecond.toNat := by
  have zero : bytesPerSecond = 0 ↔ bytesPerSecond.toNat = 0 := by
    rw [← UInt64.toNat_inj]
    rfl
  unfold SwitchableController.configureConnectionBrutal
    SwitchableController.configureConnectionBrutalWithOptions SingQuic.configureConnectionBrutal
  by_cases idle : bytesPerSecond = 0
  · rw [if_pos idle, if_pos (zero.mp idle)]
    exact ⟨controllers, false, rfl, rfl⟩
  rw [if_neg idle, if_neg (mt zero.mpr idle)]
  cases connection with
  | none => exact ⟨controllers, false, rfl, rfl⟩
  | some handle =>
    obtain ⟨state, seen⟩ := Shared.Store.read_total (live handle rfl)
    obtain ⟨after, switched, reached⟩ := switchConnection_some controllers seen
      (.brutal bytesPerSecond rtt false now)
    refine ⟨after, true, switched, ?_⟩
    simp only [SwitchableController.connectionCongestionKind, SwitchableController.kind,
      Option.bind_some, seen, reached, Option.map_some, perform_switch, Switch.kind]

end Runs
end SingQuic
