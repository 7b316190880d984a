import SingQuic.Address
import SingQuic.Lib.Transition

/-! The registry of incoming UDP routes, at the granularity of its individual
steps. A `Notified` future remembers how many `notify_waiters` calls preceded its
creation and is completed by the first later one, polled or not. -/
namespace SingQuic.ShadowQuic

/-- A route names the association whose queue it feeds and the destination its
packets are labelled with. -/
structure IncomingUdpRoute where
  sender : Nat
  destination : Address
  deriving DecidableEq, Repr

/-- Where a call on the registry stands. -/
inductive Call where
  | waitCreate (id : UInt16)
  | waitLookup (id : UInt16) (created : Nat)
  | waitLoad (id : UInt16) (created : Nat)
  | waitAwait (id : UInt16) (created : Nat)
  | waitDone (id : UInt16) (result : Result IncomingUdpRoute)
  | registerInsert (id : UInt16) (route : IncomingUdpRoute)
  | registerNotify
  | registerDone
  | removeAll (ids : List UInt16)
  | removeDone
  | closeStore
  | closeNotify
  | closeDone
  deriving DecidableEq, Repr

/-- The entry points: `wait`, `register`, `remove` and `close`. -/
def Call.entry : Call → Bool
  | .waitCreate _ | .registerInsert _ _ | .removeAll _ | .closeStore => true
  | _ => false

/-- Between its update and its `notify_waiters`. -/
def Call.notifies : Call → Bool
  | .registerNotify | .closeNotify => true
  | _ => false

def Call.waiting : Call → Option UInt16
  | .waitCreate id | .waitLookup id _ | .waitLoad id _ | .waitAwait id _ => some id
  | _ => none

structure IncomingUdpRegistry where
  routes : UInt16 → Option IncomingUdpRoute
  closed : Bool
  notified : Nat
  calls : List Call

inductive RegistryAction where
  | start (call : Call)
  | step (index : Nat)

namespace IncomingUdpRegistry

def default : IncomingUdpRegistry := ⟨fun _ => none, false, 0, []⟩

def insert (self : IncomingUdpRegistry) (id : UInt16) (route : IncomingUdpRoute) : IncomingUdpRegistry :=
  { self with routes := Function.update self.routes id (some route) }

def removeIds (self : IncomingUdpRegistry) (ids : List UInt16) : IncomingUdpRegistry :=
  { self with routes := fun id => if id ∈ ids then none else self.routes id }

def notifyWaiters (self : IncomingUdpRegistry) : IncomingUdpRegistry :=
  { self with notified := self.notified + 1 }

def store (self : IncomingUdpRegistry) : IncomingUdpRegistry := { self with closed := true }

/-- One step of one call: the registry afterwards and where the call stands then. -/
def advance (self : IncomingUdpRegistry) : Call → Option (IncomingUdpRegistry × Call)
  | .waitCreate id => some (self, .waitLookup id self.notified)
  | .waitLookup id created =>
    match self.routes id with
    | some route => some (self, .waitDone id (.ok route))
    | none => some (self, .waitLoad id created)
  | .waitLoad id created =>
    if self.closed then some (self, .waitDone id (.error .closed))
    else some (self, .waitAwait id created)
  | .waitAwait id created =>
    if created < self.notified then some (self, .waitCreate id) else none
  | .registerInsert id route => some (self.insert id route, .registerNotify)
  | .registerNotify => some (self.notifyWaiters, .registerDone)
  | .removeAll ids => some (self.removeIds ids, .removeDone)
  | .closeStore => some (self.store, .closeNotify)
  | .closeNotify => some (self.notifyWaiters, .closeDone)
  | .waitDone _ _ | .registerDone | .removeDone | .closeDone => none

def step (self : IncomingUdpRegistry) : RegistryAction → Option IncomingUdpRegistry
  | .start call => if call.entry then some { self with calls := self.calls ++ [call] } else none
  | .step index =>
    (self.calls[index]?).bind fun call =>
      (self.advance call).map fun (next, after) => { next with calls := self.calls.set index after }

/-- Some register or close call is between its update and its notification. -/
def Notifying (self : IncomingUdpRegistry) : Prop := ∃ call ∈ self.calls, call.notifies = true

/-- What a waiting call may rely on: having found no route, a route that is there
now has been announced since, or is about to be; and likewise for the flag. -/
def Heard (self : IncomingUdpRegistry) : Call → Prop
  | .waitLookup _ created => created ≤ self.notified
  | .waitLoad id created => created ≤ self.notified ∧
      ((self.routes id).isSome → created < self.notified ∨ self.Notifying)
  | .waitAwait id created => created ≤ self.notified ∧
      ((self.routes id).isSome ∨ self.closed = true → created < self.notified ∨ self.Notifying)
  | _ => True

structure Sound (registry : IncomingUdpRegistry) : Prop where
  heard : ∀ call ∈ registry.calls, registry.Heard call
  closing : registry.closed = true → .closeNotify ∈ registry.calls ∨ .closeDone ∈ registry.calls

variable {self next : IncomingUdpRegistry} {call after : Call} {index : Nat}

theorem default_sound : default.Sound :=
  ⟨fun _ member => absurd member List.not_mem_nil, fun closed => absurd closed Bool.false_ne_true⟩

theorem mem_set_of_ne {calls : List Call} {other : Call} (found : calls[index]? = some call)
    (member : other ∈ calls) (different : other ≠ call) : other ∈ calls.set index after := by
  obtain ⟨place, here⟩ := List.mem_iff_getElem?.mp member
  have apart : index ≠ place := by
    rintro rfl
    rw [found] at here
    exact different (Option.some.inj here).symm
  exact List.mem_iff_getElem?.mpr ⟨place, by rw [List.getElem?_set_ne apart, here]⟩

theorem Notifying.set (notifying : self.Notifying) (found : self.calls[index]? = some call)
    (silent : call.notifies = false) (calls : next.calls = self.calls.set index after) :
    next.Notifying := by
  obtain ⟨other, member, busy⟩ := notifying
  have different : other ≠ call := by
    rintro rfl
    rw [busy] at silent
    contradiction
  exact ⟨other, calls ▸ mem_set_of_ne found member different, busy⟩

/-- What changes for the bystanders of a step: anything new is announced by a
notification that has just happened or is still owed. -/
theorem Heard.transport (heard : self.Heard call) (grows : self.notified ≤ next.notified)
    (routes : ∀ id, (next.routes id).isSome →
      (self.routes id).isSome ∨ self.notified < next.notified ∨ next.Notifying)
    (closed : next.closed = true →
      self.closed = true ∨ self.notified < next.notified ∨ next.Notifying)
    (owed : self.Notifying → self.notified < next.notified ∨ next.Notifying) : next.Heard call := by
  have settle : ∀ created, created ≤ self.notified →
      (created < self.notified ∨ self.Notifying) ∨ self.notified < next.notified ∨ next.Notifying →
      created < next.notified ∨ next.Notifying := by
    intro created old
    rintro ((fresh | notifying) | later | notifying)
    · exact Or.inl (fresh.trans_le grows)
    · exact (owed notifying).imp_left old.trans_lt
    · exact Or.inl (old.trans_lt later)
    · exact Or.inr notifying
  cases call with
  | waitLookup id created => exact le_trans heard grows
  | waitLoad id created =>
    refine ⟨heard.1.trans grows, fun present => settle created heard.1 ?_⟩
    exact (routes id present).imp_left heard.2
  | waitAwait id created =>
    refine ⟨heard.1.trans grows, fun present => settle created heard.1 ?_⟩
    rcases present with present | shut
    · exact (routes id present).imp_left fun before => heard.2 (Or.inl before)
    · exact (closed shut).imp_left fun before => heard.2 (Or.inr before)
  | _ => trivial

/-- One step of one call: what the others hear stays right. -/
theorem advance_bystander {other : Call} (heard : self.Heard other)
    (found : self.calls[index]? = some call) (advanced : self.advance call = some (next, after)) :
    { next with calls := self.calls.set index after }.Heard other := by
  have known : index < self.calls.length := (List.getElem?_eq_some_iff.mp found).1
  have present : after ∈ self.calls.set index after := List.mem_set known after
  have keep : call.notifies = false → next.notified = self.notified → next.routes = self.routes →
      next.closed = self.closed →
      { next with calls := self.calls.set index after }.Heard other := by
    intro silent notified routes closed
    refine heard.transport notified.ge ?_ ?_ ?_
    · exact fun id some => Or.inl (routes ▸ some)
    · exact fun shut => Or.inl (closed ▸ shut)
    · exact fun notifying => Or.inr (notifying.set found silent rfl)
  cases call with
  | waitCreate id =>
    obtain ⟨rfl, rfl⟩ := Prod.mk.inj (Option.some.inj advanced)
    exact keep rfl rfl rfl rfl
  | waitLookup id created =>
    simp only [advance] at advanced
    split at advanced <;> obtain ⟨rfl, rfl⟩ := Prod.mk.inj (Option.some.inj advanced) <;>
      exact keep rfl rfl rfl rfl
  | waitLoad id created =>
    simp only [advance] at advanced
    split at advanced <;> obtain ⟨rfl, rfl⟩ := Prod.mk.inj (Option.some.inj advanced) <;>
      exact keep rfl rfl rfl rfl
  | waitAwait id created =>
    simp only [advance] at advanced
    split at advanced
    · obtain ⟨rfl, rfl⟩ := Prod.mk.inj (Option.some.inj advanced)
      exact keep rfl rfl rfl rfl
    · contradiction
  | registerInsert id route =>
    obtain ⟨rfl, rfl⟩ := Prod.mk.inj (Option.some.inj advanced)
    have owing : { self.insert id route with
        calls := self.calls.set index .registerNotify }.Notifying := ⟨_, present, rfl⟩
    exact heard.transport le_rfl (fun _ _ => Or.inr (Or.inr owing)) Or.inl (fun _ => Or.inr owing)
  | registerNotify =>
    obtain ⟨rfl, rfl⟩ := Prod.mk.inj (Option.some.inj advanced)
    have later : self.notified < self.notified + 1 := Nat.lt_succ_self _
    exact heard.transport later.le (fun _ => Or.inl) Or.inl (fun _ => Or.inl later)
  | removeAll ids =>
    obtain ⟨rfl, rfl⟩ := Prod.mk.inj (Option.some.inj advanced)
    refine heard.transport le_rfl (fun id some => Or.inl ?_) Or.inl
      (fun notifying => Or.inr (notifying.set found rfl rfl))
    simp only [removeIds] at some
    split at some
    · contradiction
    · exact some
  | closeStore =>
    obtain ⟨rfl, rfl⟩ := Prod.mk.inj (Option.some.inj advanced)
    have owing : { self.store with calls := self.calls.set index .closeNotify }.Notifying :=
      ⟨_, present, rfl⟩
    exact heard.transport le_rfl (fun _ => Or.inl) (fun _ => Or.inr (Or.inr owing))
      (fun _ => Or.inr owing)
  | closeNotify =>
    obtain ⟨rfl, rfl⟩ := Prod.mk.inj (Option.some.inj advanced)
    have later : self.notified < self.notified + 1 := Nat.lt_succ_self _
    exact heard.transport later.le (fun _ => Or.inl) Or.inl (fun _ => Or.inl later)
  | _ => contradiction

/-- The stepping call itself: it looks only after it has subscribed. -/
theorem advance_self (heard : self.Heard call) (found : self.calls[index]? = some call)
    (advanced : self.advance call = some (next, after)) :
    { next with calls := self.calls.set index after }.Heard after := by
  cases call with
  | waitCreate id =>
    obtain ⟨rfl, rfl⟩ := Prod.mk.inj (Option.some.inj advanced)
    exact le_rfl
  | waitLookup id created =>
    simp only [advance] at advanced
    split at advanced
    · obtain ⟨rfl, rfl⟩ := Prod.mk.inj (Option.some.inj advanced)
      trivial
    · rename_i absent
      obtain ⟨rfl, rfl⟩ := Prod.mk.inj (Option.some.inj advanced)
      exact ⟨heard, fun present => by simp [absent] at present⟩
  | waitLoad id created =>
    simp only [advance] at advanced
    split at advanced
    · obtain ⟨rfl, rfl⟩ := Prod.mk.inj (Option.some.inj advanced)
      trivial
    · rename_i opened
      obtain ⟨rfl, rfl⟩ := Prod.mk.inj (Option.some.inj advanced)
      refine ⟨heard.1, ?_⟩
      rintro (present | shut)
      · exact (heard.2 present).imp_right fun notifying => notifying.set found rfl rfl
      · exact absurd shut opened
  | waitAwait id created =>
    simp only [advance] at advanced
    split at advanced
    · obtain ⟨rfl, rfl⟩ := Prod.mk.inj (Option.some.inj advanced)
      trivial
    · contradiction
  | _ =>
    first
    | contradiction
    | obtain ⟨rfl, rfl⟩ := Prod.mk.inj (Option.some.inj advanced)
      trivial

theorem advance_closed (advanced : self.advance call = some (next, after))
    (other : call ≠ .closeStore) : next.closed = self.closed := by
  cases call with
  | closeStore => exact absurd rfl other
  | waitLookup id created =>
    simp only [advance] at advanced
    split at advanced <;> obtain ⟨rfl, _⟩ := Prod.mk.inj (Option.some.inj advanced) <;> rfl
  | waitLoad id created =>
    simp only [advance] at advanced
    split at advanced <;> obtain ⟨rfl, _⟩ := Prod.mk.inj (Option.some.inj advanced) <;> rfl
  | waitAwait id created =>
    simp only [advance] at advanced
    split at advanced
    · obtain ⟨rfl, _⟩ := Prod.mk.inj (Option.some.inj advanced)
      rfl
    · contradiction
  | _ =>
    first
    | contradiction
    | obtain ⟨rfl, _⟩ := Prod.mk.inj (Option.some.inj advanced)
      rfl

/-- The flag is set only by a `close` call, which is then past its store. -/
theorem advance_closing (closing : self.closed = true → .closeNotify ∈ self.calls ∨ .closeDone ∈ self.calls)
    (found : self.calls[index]? = some call) (advanced : self.advance call = some (next, after))
    (closed : next.closed = true) :
    .closeNotify ∈ self.calls.set index after ∨ .closeDone ∈ self.calls.set index after := by
  have known : index < self.calls.length := (List.getElem?_eq_some_iff.mp found).1
  have present : after ∈ self.calls.set index after := List.mem_set known after
  by_cases storing : call = .closeStore
  · subst call
    obtain ⟨rfl, rfl⟩ := Prod.mk.inj (Option.some.inj advanced)
    exact Or.inl present
  by_cases notifying : call = .closeNotify
  · subst call
    obtain ⟨rfl, rfl⟩ := Prod.mk.inj (Option.some.inj advanced)
    exact Or.inr present
  have before : self.closed = true := advance_closed advanced storing ▸ closed
  have unfinished : call ≠ .closeDone := by
    rintro rfl
    contradiction
  exact (closing before).imp (mem_set_of_ne found · (Ne.symm notifying))
    (mem_set_of_ne found · (Ne.symm unfinished))

theorem step_sound {action : RegistryAction} (sound : self.Sound)
    (stepped : self.step action = some next) : next.Sound := by
  cases action with
  | start call =>
    simp only [step] at stepped
    split at stepped
    · rename_i entry
      obtain rfl := Option.some.inj stepped
      refine ⟨fun other member => ?_, fun closed => ?_⟩
      · rcases List.mem_append.mp member with earlier | last
        · refine (sound.heard other earlier).transport le_rfl (fun _ => Or.inl) Or.inl ?_
          rintro ⟨notifier, known, busy⟩
          exact Or.inr ⟨notifier, List.mem_append_left _ known, busy⟩
        · rw [List.mem_singleton.mp last]
          cases call <;> trivial
      · exact (sound.closing closed).imp (List.mem_append_left _) (List.mem_append_left _)
    · contradiction
  | step index =>
    obtain ⟨call, found, moved⟩ := Option.bind_eq_some_iff.mp stepped
    obtain ⟨⟨middle, after⟩, advanced, rfl⟩ := Option.map_eq_some_iff.mp moved
    refine ⟨fun other member => ?_, fun closed => advance_closing sound.closing found advanced closed⟩
    rcases List.mem_or_eq_of_mem_set member with kept | rfl
    · exact advance_bystander (sound.heard other kept) found advanced
    · exact advance_self (sound.heard call (List.mem_of_getElem? found)) found advanced

theorem run_sound {actions : List RegistryAction}
    (execution : Transition.run step default actions = some self) : self.Sound :=
  Transition.run_invariant (P := Sound) step_sound execution default_sound

/-- Left to itself, a waiting call ends with the route registered for its id, or
with `Closed` if the flag is set. -/
def Ends (self : IncomingUdpRegistry) (index : Nat) (id : UInt16) : Prop :=
  ∃ count final result, Transition.run step self (List.replicate count (.step index)) = some final ∧
    final.calls[index]? = some (.waitDone id result) ∧
    ((∃ route, result = .ok route ∧ self.routes id = some route) ∨
      result = .error .closed ∧ self.closed = true)

theorem Ends.preceded {id : UInt16} (after : Call) (found : self.calls[index]? = some call)
    (advanced : self.advance call = some (self, after))
    (ends : Ends { self with calls := self.calls.set index after } index id) : self.Ends index id := by
  obtain ⟨count, final, result, rest, done, value⟩ := ends
  refine ⟨count + 1, final, result, ?_, done, value⟩
  rw [List.replicate_succ, Transition.run_cons]
  exact ⟨_, by simp [step, found, advanced], rest⟩

theorem Ends.done {id : UInt16} {result : Result IncomingUdpRoute}
    (found : self.calls[index]? = some (.waitDone id result))
    (value : (∃ route, result = .ok route ∧ self.routes id = some route) ∨
      result = .error .closed ∧ self.closed = true) : self.Ends index id :=
  ⟨0, self, result, rfl, found, value⟩

theorem set_here (found : self.calls[index]? = some call) (after : Call) :
    (self.calls.set index after)[index]? = some after := by
  rw [List.getElem?_set_self (List.getElem?_eq_some_iff.mp found).1]

theorem ends_of_closed_load {id : UInt16} {created : Nat}
    (found : self.calls[index]? = some (.waitLoad id created)) (closed : self.closed = true) :
    self.Ends index id := by
  refine Ends.preceded (.waitDone id (.error .closed)) found (by simp [advance, closed]) ?_
  exact Ends.done (set_here found _) (Or.inr ⟨rfl, closed⟩)

theorem ends_of_lookup {id : UInt16} {created : Nat}
    (found : self.calls[index]? = some (.waitLookup id created))
    (outcome : (self.routes id).isSome ∨ self.closed = true) : self.Ends index id := by
  cases registered : self.routes id with
  | some route =>
    refine Ends.preceded (.waitDone id (.ok route)) found (by simp [advance, registered]) ?_
    exact Ends.done (set_here found _) (Or.inl ⟨route, rfl, registered⟩)
  | none =>
    have closed : self.closed = true := by simpa [registered] using outcome
    refine Ends.preceded (.waitLoad id created) found (by simp [advance, registered]) ?_
    exact ends_of_closed_load (set_here found _) closed

theorem ends_of_create {id : UInt16} (found : self.calls[index]? = some (.waitCreate id))
    (outcome : (self.routes id).isSome ∨ self.closed = true) : self.Ends index id :=
  Ends.preceded _ found rfl (ends_of_lookup (set_here found _) outcome)

theorem ends_of_await {id : UInt16} {created : Nat}
    (found : self.calls[index]? = some (.waitAwait id created)) (pending : created < self.notified)
    (outcome : (self.routes id).isSome ∨ self.closed = true) : self.Ends index id := by
  refine Ends.preceded (.waitCreate id) found (by simp [advance, pending]) ?_
  exact ends_of_create (set_here found _) outcome

/-- When no notification is owed, every waiting call with something to return
can run, and ends. -/
theorem Sound.ends {id : UInt16} (sound : self.Sound) (quiet : ¬ self.Notifying)
    (found : self.calls[index]? = some call) (waiting : call.waiting = some id)
    (outcome : (self.routes id).isSome ∨ self.closed = true) :
    (self.step (.step index)).isSome ∧ self.Ends index id := by
  have heard := sound.heard call (List.mem_of_getElem? found)
  cases call with
  | waitCreate other =>
    obtain rfl := Option.some.inj waiting
    exact ⟨by simp [step, found, advance], ends_of_create found outcome⟩
  | waitLookup other created =>
    obtain rfl := Option.some.inj waiting
    refine ⟨?_, ends_of_lookup found outcome⟩
    simp only [step, found, advance, Option.bind_some, Option.isSome_map]
    split <;> rfl
  | waitLoad other created =>
    obtain rfl := Option.some.inj waiting
    refine ⟨?_, ?_⟩
    · simp only [step, found, advance, Option.bind_some, Option.isSome_map]
      split <;> rfl
    · by_cases closed : self.closed = true
      · exact ends_of_closed_load found closed
      · have present : (self.routes other).isSome := outcome.resolve_right closed
        have pending : created < self.notified := (heard.2 present).resolve_right quiet
        refine Ends.preceded (.waitAwait other created) found (by simp [advance, closed]) ?_
        exact ends_of_await (set_here found _) pending outcome
  | waitAwait other created =>
    obtain rfl := Option.some.inj waiting
    have pending : created < self.notified := (heard.2 outcome).resolve_right quiet
    exact ⟨by simp [step, found, advance, pending], ends_of_await found pending outcome⟩
  | _ => contradiction

/-- The moment a wait returns. -/
theorem advance_returns {id : UInt16} {result : Result IncomingUdpRoute}
    (advanced : self.advance call = some (next, .waitDone id result)) :
    (∃ route, result = .ok route ∧ self.routes id = some route) ∨
      result = .error .closed ∧ self.closed = true := by
  cases call with
  | waitLookup other created =>
    simp only [advance] at advanced
    split at advanced
    · rename_i route registered
      obtain ⟨rfl, rfl⟩ := Call.waitDone.inj (Prod.mk.inj (Option.some.inj advanced)).2
      exact Or.inl ⟨route, rfl, registered⟩
    · cases advanced
  | waitLoad other created =>
    simp only [advance] at advanced
    split at advanced
    · rename_i closed
      obtain ⟨rfl, rfl⟩ := Call.waitDone.inj (Prod.mk.inj (Option.some.inj advanced)).2
      exact Or.inr ⟨rfl, closed⟩
    · cases advanced
  | waitAwait other created =>
    simp only [advance] at advanced
    split at advanced <;> cases advanced
  | _ => cases advanced

/-- No wake-up is lost. In every reachable state a waiter parked on an id that is
registered, or on a closed registry, has a notification pending unless a register
or close call still owes one. Hence when none does, such a waiter can run, and left
to itself it returns. Whenever a wait returns, it returns the route registered for
its id at that moment, or `Closed` after a `close` call has set the flag. -/
theorem no_lost_wakeup {actions : List RegistryAction}
    (execution : Transition.run step default actions = some self) :
    (∀ id created, .waitAwait id created ∈ self.calls →
      (self.routes id).isSome ∨ self.closed = true → created < self.notified ∨ self.Notifying) ∧
    (¬ self.Notifying → ∀ index call id, self.calls[index]? = some call → call.waiting = some id →
      (self.routes id).isSome ∨ self.closed = true →
      (self.step (.step index)).isSome ∧ self.Ends index id) ∧
    ∀ index next id result, self.step (.step index) = some next →
      next.calls[index]? = some (.waitDone id result) →
      (∃ route, result = .ok route ∧ self.routes id = some route) ∨
        result = .error .closed ∧ self.closed = true ∧
          (.closeNotify ∈ self.calls ∨ .closeDone ∈ self.calls) := by
  have sound := run_sound execution
  refine ⟨fun id created parked outcome => (sound.heard _ parked).2 outcome, ?_, ?_⟩
  · intro quiet index call id found waiting outcome
    exact sound.ends quiet found waiting outcome
  · intro index next id result stepped returned
    obtain ⟨call, found, moved⟩ := Option.bind_eq_some_iff.mp stepped
    obtain ⟨⟨middle, after⟩, advanced, rfl⟩ := Option.map_eq_some_iff.mp moved
    obtain rfl : after = _ := Option.some.inj ((set_here found after).symm.trans returned)
    exact (advance_returns advanced).imp_right fun ⟨same, closed⟩ => ⟨same, closed, sound.closing closed⟩

/-- A registration that slips in between the look-up and the parking. -/
theorem no_lost_wakeup_race :
    ∃ self, Transition.run step default
        [.start (.waitCreate 7), .step 0, .step 0, .start (.registerInsert 7 ⟨0, ⟨"a", 1, by decide⟩⟩),
          .step 1, .step 1, .step 0] = some self ∧
      self.calls[0]? = some (.waitAwait 7 0) ∧ self.Ends 0 7 := by
  have execution : Transition.run step default
      [.start (.waitCreate 7), .step 0, .step 0, .start (.registerInsert 7 ⟨0, ⟨"a", 1, by decide⟩⟩),
        .step 1, .step 1, .step 0] = some _ := rfl
  refine ⟨_, execution, rfl, ?_⟩
  refine ((no_lost_wakeup execution).2.1 ?_ 0 (.waitAwait 7 0) 7 rfl rfl (Or.inl rfl)).2
  unfold Notifying
  decide

end IncomingUdpRegistry
end SingQuic.ShadowQuic
