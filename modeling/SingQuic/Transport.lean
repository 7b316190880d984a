import SingQuic.Lib.Saturating
import SingQuic.Lib.Transition
import Mathlib.Data.UInt

/-! Flow-control windows that follow the bandwidth-delay product of the path. The 128-bit
steps saturate, and the windows are compared with the same formula on unbounded numbers. -/
namespace SingQuic.Transport

/-- `std::time::Duration`: whole seconds, and nanoseconds below one second. -/
structure Duration where
  seconds : UInt64
  nanos : UInt32
  subsecond : nanos.toNat < 1000000000
  deriving DecidableEq

namespace Duration

/-- The derived order: seconds first. -/
instance : LE Duration :=
  ⟨fun left right => left.seconds < right.seconds ∨
    left.seconds = right.seconds ∧ left.nanos ≤ right.nanos⟩

def asNanos (duration : Duration) : BitVec 128 :=
  duration.seconds.toBitVec.setWidth 128 * 1000000000#128 + duration.nanos.toBitVec.setWidth 128

def nanoseconds (duration : Duration) : Nat :=
  duration.seconds.toNat * 1000000000 + duration.nanos.toNat

/-- Every duration fits: the sum stays below `2 ^ 94`. -/
theorem toNat_asNanos (duration : Duration) : duration.asNanos.toNat = duration.nanoseconds := by
  have seconds : (duration.seconds.toBitVec.setWidth 128).toNat = duration.seconds.toNat :=
    BitVec.toNat_setWidth_of_le (by decide)
  have nanos : (duration.nanos.toBitVec.setWidth 128).toNat = duration.nanos.toNat :=
    BitVec.toNat_setWidth_of_le (by decide)
  have second : (1000000000#128).toNat = 1000000000 := rfl
  have wide : 2 ^ 64 * 1000000000 + 2 ^ 32 ≤ 2 ^ 128 := by decide
  have early := duration.seconds.toNat_lt
  have late := duration.nanos.toNat_lt
  have product : (duration.seconds.toBitVec.setWidth 128 * 1000000000#128).toNat =
      duration.seconds.toNat * 1000000000 := by
    rw [BitVec.toNat_mul_of_lt (by rw [seconds, second]; omega), seconds, second]
  unfold asNanos nanoseconds
  rw [BitVec.toNat_add_of_lt (by rw [product, nanos]; omega), product, nanos]

theorem nanoseconds_le {left right : Duration} (ordered : left ≤ right) :
    left.nanoseconds ≤ right.nanoseconds := by
  have below := left.subsecond
  unfold nanoseconds
  rcases ordered with earlier | ⟨same, fraction⟩
  · rw [UInt64.lt_iff_toNat_lt] at earlier
    omega
  · rw [UInt32.le_iff_toNat_le] at fraction
    rw [same]
    omega

end Duration

def windowHeadroom : UInt64 := 2

def initialWindowPackets : UInt64 := 10

/-- `u64::saturating_mul`. -/
def saturatingMul (left right : UInt64) : UInt64 :=
  ⟨Saturating.mul left.toBitVec right.toBitVec⟩

theorem toNat_saturatingMul (left right : UInt64) :
    (saturatingMul left right).toNat = min (left.toNat * right.toNat) (2 ^ 64 - 1) :=
  Saturating.toNat_mul left.toBitVec right.toBitVec

def adaptiveWindow (bytesPerSecond : UInt64) (rtt : Duration) (minimum : UInt64) : UInt64 :=
  let bdp := Saturating.mul (bytesPerSecond.toBitVec.setWidth 128) rtt.asNanos / 1000000000#128
  let target : UInt64 := ⟨Saturating.narrow 64 (Saturating.mul bdp (windowHeadroom.toBitVec.setWidth 128))⟩
  max target minimum

/-- The window over unbounded numbers: twice the bytes in flight during a round trip,
within 64 bits and not below the minimum. -/
def exactWindow (bytesPerSecond nanoseconds minimum : Nat) : Nat :=
  max minimum (min (2 * (bytesPerSecond * nanoseconds / 10 ^ 9)) (2 ^ 64 - 1))

theorem exactWindow_le {rate rate' nanoseconds nanoseconds' minimum minimum' : Nat} (faster : rate ≤ rate')
    (longer : nanoseconds ≤ nanoseconds') (larger : minimum ≤ minimum') :
    exactWindow rate nanoseconds minimum ≤ exactWindow rate' nanoseconds' minimum' := by
  unfold exactWindow
  gcongr

/-- Where the product saturates, its share of a second is far above the last clamp. -/
theorem saturated_bdp_hidden (product : Nat) :
    min (min (min product (2 ^ 128 - 1) / 1000000000 * 2) (2 ^ 128 - 1)) (2 ^ 64 - 1) =
      min (2 * (product / 10 ^ 9)) (2 ^ 64 - 1) := by
  have monotone : Monotone fun bytes : Nat => bytes / 1000000000 * 2 :=
    fun _ _ less => Nat.mul_le_mul_right 2 (Nat.div_le_div_right less)
  calc
    min (min (min product (2 ^ 128 - 1) / 1000000000 * 2) (2 ^ 128 - 1)) (2 ^ 64 - 1) =
        min (min product (2 ^ 128 - 1) / 1000000000 * 2) (2 ^ 64 - 1) := by
      rw [min_assoc]
      rfl
    _ = min (product / 1000000000 * 2) (2 ^ 64 - 1) :=
      Saturating.min_map_min monotone (by decide) product
    _ = min (2 * (product / 10 ^ 9)) (2 ^ 64 - 1) := by
      rw [Nat.mul_comm]
      rfl

theorem toNat_adaptiveWindow (bytesPerSecond : UInt64) (rtt : Duration) (minimum : UInt64) :
    (adaptiveWindow bytesPerSecond rtt minimum).toNat =
      exactWindow bytesPerSecond.toNat rtt.nanoseconds minimum.toNat := by
  have rate : (bytesPerSecond.toBitVec.setWidth 128).toNat = bytesPerSecond.toNat :=
    BitVec.toNat_setWidth_of_le (by decide)
  have headroom : (windowHeadroom.toBitVec.setWidth 128).toNat = 2 := rfl
  have second : (1000000000#128).toNat = 1000000000 := rfl
  unfold adaptiveWindow exactWindow
  rw [UInt64.toNat_max, Nat.max_comm, ← saturated_bdp_hidden]
  congr 1
  rw [← UInt64.toNat_toBitVec, Saturating.toNat_narrow (by decide), Saturating.toNat_mul,
    BitVec.toNat_udiv, Saturating.toNat_mul, rate, headroom, second, rtt.toNat_asNanos]

/-- A QUIC integer; the code can build none from `2 ^ 62` on. -/
structure VarInt where
  value : UInt64
  bounded : value.toNat < 2 ^ 62

namespace VarInt

def max : VarInt := ⟨((1 : UInt64) <<< 62) - 1, by decide⟩

def tryFrom (value : UInt64) : Option VarInt :=
  if bounded : value.toNat < 2 ^ 62 then some ⟨value, bounded⟩ else none

theorem tryFrom_getD (value : UInt64) :
    ((tryFrom value).getD max).value.toNat = min value.toNat (2 ^ 62 - 1) := by
  unfold tryFrom
  split
  · rw [Option.getD_some, Nat.min_eq_left (by omega)]
  · rw [Option.getD_none, Nat.min_eq_right (by omega)]
    rfl

end VarInt

/-- What `update_connection_windows` reads of the statistics of the path. -/
structure PathStats where
  rtt : Duration
  cwnd : UInt64
  currentMtu : UInt16

/-- The arguments of the task: the rates of both directions and the least windows. -/
structure Tuning where
  sendBytesPerSecond : UInt64
  receiveBytesPerSecond : UInt64
  minimumSendWindow : UInt64
  minimumReceiveWindow : UInt64

structure Windows where
  send : UInt64
  receive : VarInt

def updateConnectionWindows (tuning : Tuning) (path : PathStats) : Windows :=
  let mtuWindow := saturatingMul path.currentMtu.toUInt64 initialWindowPackets
  let sendWindow := max (max (adaptiveWindow tuning.sendBytesPerSecond path.rtt tuning.minimumSendWindow)
    (saturatingMul path.cwnd windowHeadroom)) mtuWindow
  let receiveWindow := max (adaptiveWindow tuning.receiveBytesPerSecond path.rtt
    tuning.minimumReceiveWindow) mtuWindow
  { send := sendWindow, receive := (VarInt.tryFrom receiveWindow).getD VarInt.max }

/-- Ten packets of the largest size are far from the end of the type. -/
theorem toNat_mtuWindow (mtu : UInt16) :
    (saturatingMul mtu.toUInt64 initialWindowPackets).toNat = 10 * mtu.toNat := by
  have packets : initialWindowPackets.toNat = 10 := rfl
  have small := mtu.toNat_lt
  rw [toNat_saturatingMul, UInt16.toNat_toUInt64, packets]
  omega

theorem toNat_cwndWindow (cwnd : UInt64) :
    (saturatingMul cwnd windowHeadroom).toNat = min (2 * cwnd.toNat) (2 ^ 64 - 1) := by
  rw [toNat_saturatingMul, Nat.mul_comm]
  rfl

theorem send_window_eq (tuning : Tuning) (path : PathStats) :
    (updateConnectionWindows tuning path).send.toNat =
      max (max (exactWindow tuning.sendBytesPerSecond.toNat path.rtt.nanoseconds
          tuning.minimumSendWindow.toNat)
        (min (2 * path.cwnd.toNat) (2 ^ 64 - 1))) (10 * path.currentMtu.toNat) := by
  simp only [updateConnectionWindows, UInt64.toNat_max, toNat_adaptiveWindow, toNat_cwndWindow,
    toNat_mtuWindow]

theorem receive_window_eq (tuning : Tuning) (path : PathStats) :
    (updateConnectionWindows tuning path).receive.value.toNat =
      min (max (exactWindow tuning.receiveBytesPerSecond.toNat path.rtt.nanoseconds
        tuning.minimumReceiveWindow.toNat) (10 * path.currentMtu.toNat)) (2 ^ 62 - 1) := by
  simp only [updateConnectionWindows, VarInt.tryFrom_getD, UInt64.toNat_max, toNat_adaptiveWindow,
    toNat_mtuWindow]

/-- No step of the computation loses anything but what the last clamps take away. -/
theorem windows_exact :
    (∀ rate rtt minimum, (adaptiveWindow rate rtt minimum).toNat =
      max minimum.toNat (min (2 * (rate.toNat * rtt.nanoseconds / 10 ^ 9)) (2 ^ 64 - 1))) ∧
    (∀ rate rate' rtt minimum, rate ≤ rate' →
      adaptiveWindow rate rtt minimum ≤ adaptiveWindow rate' rtt minimum) ∧
    (∀ rate rtt rtt' minimum, rtt ≤ rtt' →
      adaptiveWindow rate rtt minimum ≤ adaptiveWindow rate rtt' minimum) ∧
    (∀ rate rtt minimum minimum', minimum ≤ minimum' →
      adaptiveWindow rate rtt minimum ≤ adaptiveWindow rate rtt minimum') ∧
    ∀ tuning path,
      (updateConnectionWindows tuning path).send.toNat =
        max (max (adaptiveWindow tuning.sendBytesPerSecond path.rtt tuning.minimumSendWindow).toNat
          (min (2 * path.cwnd.toNat) (2 ^ 64 - 1))) (10 * path.currentMtu.toNat) ∧
      (updateConnectionWindows tuning path).receive.value.toNat =
        min (max (adaptiveWindow tuning.receiveBytesPerSecond path.rtt
          tuning.minimumReceiveWindow).toNat (10 * path.currentMtu.toNat)) (2 ^ 62 - 1) := by
  refine ⟨toNat_adaptiveWindow, ?_, ?_, ?_, ?_⟩
  · intro rate rate' rtt minimum faster
    rw [UInt64.le_iff_toNat_le, toNat_adaptiveWindow, toNat_adaptiveWindow]
    exact exactWindow_le (UInt64.le_iff_toNat_le.mp faster) le_rfl le_rfl
  · intro rate rtt rtt' minimum longer
    rw [UInt64.le_iff_toNat_le, toNat_adaptiveWindow, toNat_adaptiveWindow]
    exact exactWindow_le le_rfl (Duration.nanoseconds_le longer) le_rfl
  · intro rate rtt minimum minimum' larger
    rw [UInt64.le_iff_toNat_le, toNat_adaptiveWindow, toNat_adaptiveWindow]
    exact exactWindow_le le_rfl le_rfl (UInt64.le_iff_toNat_le.mp larger)
  · intro tuning path
    rw [toNat_adaptiveWindow, toNat_adaptiveWindow]
    exact ⟨send_window_eq tuning path, receive_window_eq tuning path⟩

/-- One round of the task's timer, with what it reads of the connection, or the end of
the task when its handle is dropped. -/
inductive TaskAction where
  | tick (path : PathStats) (closed : Bool)
  | abort

structure AdaptiveWindowTask where
  running : Bool
  windows : Windows

namespace AdaptiveWindowTask

def spawn (tuning : Tuning) (path : PathStats) : AdaptiveWindowTask :=
  { running := true, windows := updateConnectionWindows tuning path }

def step (tuning : Tuning) (task : AdaptiveWindowTask) : TaskAction → Option AdaptiveWindowTask
  | .tick path closed =>
    if task.running then
      if closed then some { task with running := false }
      else some { task with windows := updateConnectionWindows tuning path }
    else none
  | .abort => some { task with running := false }

/-- The statistics of the last round that found the connection open. -/
def latest (path : PathStats) (actions : List TaskAction) : PathStats :=
  actions.foldl (fun seen action => match action with
    | .tick path false => path
    | .tick _ true | .abort => seen) path

theorem windows_follow {tuning : Tuning} {path : PathStats} {actions : List TaskAction}
    {task : AdaptiveWindowTask}
    (execution : Transition.run (step tuning) (spawn tuning path) actions = some task) :
    task.windows = updateConnectionWindows tuning (latest path actions) := by
  apply Transition.run_induction
    (P := fun actions task => task.windows = updateConnectionWindows tuning (latest path actions))
    rfl _ execution
  intro actions before action after _ follows stepped
  rw [latest, List.foldl_append, ← latest]
  cases action with
  | abort =>
    cases Option.some.inj stepped
    exact follows
  | tick path closed =>
    simp only [step, Option.ite_none_right_eq_some] at stepped
    obtain ⟨_, stepped⟩ := stepped
    cases closed with
    | true =>
      cases Option.some.inj stepped
      exact follows
    | false =>
      cases Option.some.inj stepped
      rfl

/-- The windows never fall below the configured ones, whatever the path reports. -/
theorem windows_floor {tuning : Tuning} {path : PathStats} {actions : List TaskAction}
    {task : AdaptiveWindowTask}
    (execution : Transition.run (step tuning) (spawn tuning path) actions = some task) :
    tuning.minimumSendWindow.toNat ≤ task.windows.send.toNat ∧
      min tuning.minimumReceiveWindow.toNat (2 ^ 62 - 1) ≤ task.windows.receive.value.toNat := by
  rw [windows_follow execution, send_window_eq, receive_window_eq]
  constructor
  · exact ((le_max_left _ _).trans (le_max_left _ _)).trans (le_max_left _ _)
  · exact min_le_min_right _ ((le_max_left _ _).trans (le_max_left _ _))

end AdaptiveWindowTask
end SingQuic.Transport
