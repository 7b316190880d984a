import Mathlib.Data.UInt

/-! Which congestion controller a connection runs. Only connections built with
the switchable factory report one; `none` stands for any other controller. -/
namespace SingQuic

inductive CongestionKind where
  | bbr
  | brutal (bytesPerSecond : Nat)
  deriving DecidableEq, Repr

/-- The controller state after the call, and whether the switch was made. What the options
say about losses shows in no kind. -/
def configureConnectionBrutal (controller : Option CongestionKind) (bytesPerSecond : Nat) :
    Option CongestionKind × Bool :=
  if bytesPerSecond = 0 then (controller, false)
  else
    match controller with
    | none => (none, false)
    | some _ => (some (.brutal bytesPerSecond), true)

end SingQuic
