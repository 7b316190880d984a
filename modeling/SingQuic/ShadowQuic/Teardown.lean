import SingQuic.ShadowQuic.ReceiveRules

/-! The end of a control stream. Each task remembers the ids it registered, but the
registry does not remember who registered an id last, so a task removes its ids even
where another stream has taken them over. -/
namespace SingQuic.ShadowQuic
open Wire

namespace Receiver

/-- The control stream that an action brings to its end. -/
def ending (self : Receiver) : ReceiveAction → Option Nat
  | .stop association => (self.controls association).bind fun task =>
      if task.running then some association else none
  | .record association => (self.controls association).bind fun task =>
      match readRecord task.unread with
      | .failed _ => if task.running then some association else none
      | _ => none
  | _ => none

/-- Every route belongs to a control stream that is still open and has registered
it. -/
def Owned (self : Receiver) : Prop :=
  ∀ id route, self.routes id = some route →
    ∃ task, self.controls route.sender = some task ∧ task.running = true ∧
      (route.destination, id) ∈ task.records

/-- At the end of a control stream exactly the routes it owns disappear. -/
def ExactTeardown (self : Receiver) (action : ReceiveAction) (next : Receiver) : Prop :=
  ∀ association, self.ending action = some association → ∀ id,
    next.routes id = (self.routes id).filter (·.sender ≠ association)

/-- Nothing that an ending control stream has registered is owned by another
stream by then. -/
def Undisputed (self : Receiver) (action : ReceiveAction) : Prop :=
  ∀ association task, self.ending action = some association →
    self.controls association = some task →
    ∀ id ∈ task.ids, ∀ route, self.routes id = some route → route.sender = association

variable {self next : Receiver} {association : Nat} {task : ControlTask}

theorem initial_owned : initial.Owned := fun _ _ found => absurd found (by simp [initial])

/-- Whatever keeps routes and records keeps the ownership. -/
theorem Owned.of_controls (owned : self.Owned) (routes : next.routes = self.routes)
    (controls : ∀ other task, self.controls other = some task →
      ∃ later, next.controls other = some later ∧ later.running = task.running ∧
        later.records = task.records) : next.Owned := by
  intro id route found
  rw [routes] at found
  obtain ⟨task, here, running, member⟩ := owned id route found
  obtain ⟨later, there, running', records⟩ := controls _ _ here
  exact ⟨later, there, running'.trans running, records ▸ member⟩

theorem teardown_owned (owned : self.Owned) (here : self.controls association = some task) :
    (self.teardown association task).Owned := by
  intro id route found
  simp only [teardown] at found
  split at found
  · contradiction
  · rename_i foreign
    obtain ⟨owner, there, running, member⟩ := owned id route found
    have different : route.sender ≠ association := by
      intro same
      rw [same] at there
      obtain rfl := Option.some.inj (here.symm.trans there)
      exact foreign (List.mem_map_of_mem member)
    refine ⟨owner, ?_, running, member⟩
    exact (Function.update_of_ne different _ _).trans there

theorem register_owned (owned : self.Owned) (here : self.controls association = some task)
    (running : task.running = true) (destination : Address) (id : UInt16) (rest : Bytes) :
    (self.register association task destination id rest).Owned := by
  intro other route found
  rcases Table.of_update found with ⟨rfl, rfl⟩ | ⟨_, before⟩
  · exact ⟨_, Function.update_self _ _ _, running, by simp⟩
  · obtain ⟨owner, there, open', member⟩ := owned other route before
    by_cases own : route.sender = association
    · rw [own] at there
      obtain rfl := Option.some.inj (here.symm.trans there)
      refine ⟨{ task with unread := rest, records := task.records ++ [(destination, id)] }, ?_, running,
        List.mem_append_left _ member⟩
      rw [own]
      exact Function.update_self _ _ _
    · exact ⟨owner, (Function.update_of_ne own _ _).trans there, open', member⟩

/-- What a step can do to the registry and the control streams. -/
inductive ControlChange (self next : Receiver) (action : ReceiveAction) : Prop where
  | quiet (goes : self.ending action = none) (routes : next.routes = self.routes)
      (controls : ∀ other task, self.controls other = some task →
        ∃ later, next.controls other = some later ∧ later.running = task.running ∧
          later.records = task.records)
      (born : ∀ other task, self.controls other = none → next.controls other = some task →
        action = .associate other ∧ task.records = [])
  | registered (association : Nat) (task : ControlTask) (destination : Address) (id : UInt16)
      (rest : Bytes) (goes : self.ending action = none) (asked : action = .record association)
      (here : self.controls association = some task) (running : task.running = true)
      (read : readRecord task.unread = .done (destination, id) rest)
      (same : next = self.register association task destination id rest)
  | ended (association : Nat) (task : ControlTask) (ends : self.ending action = some association)
      (here : self.controls association = some task)
      (same : next = self.teardown association task)

theorem startDatagram_frame (dispatch : Dispatch) (source : Nat) (bytes : Bytes) :
    (self.startDatagram dispatch source bytes).routes = self.routes ∧
      (self.startDatagram dispatch source bytes).controls = self.controls := by
  unfold startDatagram
  split <;> exact ⟨rfl, rfl⟩

theorem setControl_keeps (here : self.controls association = some task) {later : ControlTask}
    (running : later.running = task.running) (records : later.records = task.records) (other : Nat)
    (existing : ControlTask) (there : self.controls other = some existing) :
    ∃ after, (self.setControl association later).controls other = some after ∧
      after.running = existing.running ∧ after.records = existing.records := by
  by_cases same : other = association
  · subst other
    obtain rfl := Option.some.inj (here.symm.trans there)
    exact ⟨later, Function.update_self _ _ _, running, records⟩
  · exact ⟨existing, (Function.update_of_ne same _ _).trans there, rfl, rfl⟩

end Receiver

theorem receiveStep_control {dispatch : Dispatch} {self next : Receiver} {action : ReceiveAction}
    (stepped : receiveStep dispatch self action = some next) :
    Receiver.ControlChange self next action := by
  -- most steps touch neither
  have quiet : self.ending action = none → next.routes = self.routes ∧
      next.controls = self.controls → Receiver.ControlChange self next action := by
    rintro goes ⟨routes, controls⟩
    refine .quiet goes routes (fun _ task here => ⟨task, by rw [controls, here], rfl, rfl⟩) ?_
    intro other task absent here
    rw [controls, absent] at here
    contradiction
  cases receiveStep_rule stepped with
  | associated association absent =>
    refine .quiet rfl rfl (fun other task here => ⟨task, ?_, rfl, rfl⟩) fun other task absent here => ?_
    · have different : other ≠ association := by
        rintro rfl
        rw [absent] at here
        contradiction
      exact (Function.update_of_ne different _ _).trans here
    · by_cases same : other = association
      · subst other
        cases (self.setControl_self _).symm.trans here
        exact ⟨rfl, rfl⟩
      · rw [self.setControl_ne same, absent] at here
        contradiction
  | controlArrived association bytes task here =>
    refine .quiet rfl rfl (Receiver.setControl_keeps here rfl rfl) fun other existing absent there => ?_
    have different : other ≠ association := by
      rintro rfl
      rw [absent] at here
      contradiction
    rw [self.setControl_ne different, absent] at there
    contradiction
  | registered association task destination id rest here running read =>
    exact .registered association task destination id rest (by simp [Receiver.ending, here, read]) rfl
      here running read rfl
  | garbled association task error here running read =>
    exact .ended association task (by simp [Receiver.ending, here, read, running]) here rfl
  | stopped association task here running =>
    exact .ended association task (by simp [Receiver.ending, here, running]) here rfl
  | datagramRead source bytes rest => exact quiet rfl (Receiver.startDatagram_frame _ _ _)
  | _ => exact quiet rfl ⟨rfl, rfl⟩

theorem receiveStep_owned {dispatch : Dispatch} {self next : Receiver} {action : ReceiveAction}
    (owned : self.Owned) (stepped : receiveStep dispatch self action = some next) : next.Owned := by
  cases receiveStep_control stepped with
  | quiet _ routes controls => exact owned.of_controls routes controls
  | registered association task destination id rest _ _ here running _ same =>
    rw [same]
    exact Receiver.register_owned owned here running destination id rest
  | ended association task _ here same =>
    rw [same]
    exact Receiver.teardown_owned owned here

/-- The end of one stream is exact precisely when none of its ids is disputed. -/
theorem receiveStep_exact_iff {dispatch : Dispatch} {self next : Receiver} {action : ReceiveAction}
    (owned : self.Owned) (stepped : receiveStep dispatch self action = some next) :
    self.ExactTeardown action next ↔ self.Undisputed action := by
  have silent : self.ending action = none →
      (self.ExactTeardown action next ↔ self.Undisputed action) := by
    intro goes
    constructor
    · intro _ association task ends
      rw [goes] at ends
      contradiction
    · intro _ association ends
      rw [goes] at ends
      contradiction
  cases receiveStep_control stepped with
  | quiet goes => exact silent goes
  | registered association task destination id rest goes => exact silent goes
  | ended association task ends here same =>
    constructor
    · intro exact' other existing ends' there id member route found
      obtain rfl : association = other := Option.some.inj (ends.symm.trans ends')
      obtain rfl := Option.some.inj (here.symm.trans there)
      have gone : next.routes id = none := by
        rw [same]
        exact if_pos member
      rw [exact' association ends id, found] at gone
      simpa [Option.filter] using gone
    · intro undisputed other ends' id
      obtain rfl : association = other := Option.some.inj (ends.symm.trans ends')
      rw [same]
      show (if id ∈ task.ids then none else self.routes id) = _
      cases found : self.routes id with
      | none => simp
      | some route =>
        by_cases member : id ∈ task.ids
        · have own := undisputed association task ends here id member route found
          simp [member, Option.filter, own]
        · have foreign : route.sender ≠ association := by
            intro own
            obtain ⟨owner, there, _, known⟩ := owned id route found
            rw [own] at there
            obtain rfl := Option.some.inj (here.symm.trans there)
            exact member (List.mem_map_of_mem known)
          simp [member, Option.filter, foreign]

/-- In every run, every route belongs to an open control stream at every moment,
and every stream that ends removes exactly its own routes, if and only if no stream
ends while an id it has registered is owned by another. -/
theorem teardown_exact_iff {dispatch : Dispatch} {actions : List ReceiveAction} {final : Receiver}
    (execution : Transition.run (receiveStep dispatch) .initial actions = some final) :
    (Transition.Always (receiveStep dispatch) Receiver.Owned .initial actions ∧
      Transition.Steps (receiveStep dispatch) Receiver.ExactTeardown .initial actions) ↔
      Transition.Meets (receiveStep dispatch) Receiver.Undisputed .initial actions := by
  have always : Transition.Always (receiveStep dispatch) Receiver.Owned .initial actions :=
    Transition.always_of_invariant receiveStep_owned Receiver.initial_owned
  rw [← Transition.steps_iff_meets (Q := Receiver.Owned) receiveStep_owned receiveStep_exact_iff
    execution Receiver.initial_owned]
  exact and_iff_right always

/-- One stream that registers one id and ends. -/
theorem teardown_exact_iff_single :
    ∃ final, Transition.run (receiveStep .spawned) .initial [.associate 0,
        .arriveControl 0 [3, 1, 97, 0, 1, 0, 5], .record 0, .stop 0] = some final ∧
      final.routes 5 = none ∧
      Transition.Steps (receiveStep .spawned) Receiver.ExactTeardown .initial [.associate 0,
        .arriveControl 0 [3, 1, 97, 0, 1, 0, 5], .record 0, .stop 0] := by
  refine ⟨_, rfl, rfl, ((teardown_exact_iff rfl).mpr ?_).2⟩
  refine ⟨fun _ _ ends => by contradiction, fun _ opened => ?_⟩
  cases opened
  refine ⟨fun _ _ ends => by contradiction, fun _ arrived => ?_⟩
  cases arrived
  refine ⟨fun _ _ (ends : none = some _) => by contradiction, fun _ registered => ?_⟩
  cases registered
  refine ⟨fun _ _ ends here id _ route found => ?_, fun _ _ => trivial⟩
  cases ends
  simp only [Receiver.register, Receiver.initial, Function.update_apply] at found
  split at found
  · cases found
    rfl
  · contradiction

/-- Two streams register the same id; when the first ends, the route of the second
goes with it, although the second is still open. -/
theorem teardown_removes_foreign_route :
    ∃ state next, Transition.run (receiveStep .spawned) .initial [.associate 0, .associate 1,
        .arriveControl 0 [3, 1, 97, 0, 1, 0, 5], .record 0,
        .arriveControl 1 [3, 1, 98, 0, 1, 0, 5], .record 1] = some state ∧
      state.routes 5 = some ⟨1, ⟨"b", 1, by decide⟩⟩ ∧
      receiveStep .spawned state (.stop 0) = some next ∧
      (∃ task, next.controls 1 = some task ∧ task.running = true) ∧ next.routes 5 = none ∧
      ¬ state.ExactTeardown (.stop 0) next := by
  refine ⟨_, _, rfl, rfl, rfl, ⟨_, rfl, rfl⟩, rfl, fun exact' => ?_⟩
  exact absurd (exact' 0 rfl 5) (by decide)

end SingQuic.ShadowQuic
