import Mathlib.Data.List.Induction

/-! Runs of a partial step function. Nondeterminism lives in the action labels,
so a schedule is a list of actions and every state of every interleaving is the
end of some list. Nothing here mentions a particular machine. -/
namespace Transition
variable {σ α : Type}

/-- Execute the actions in order; an action that is not enabled ends the run. -/
def run (step : σ → α → Option σ) : σ → List α → Option σ
  | state, [] => some state
  | state, action :: rest => (step state action).bind fun next => run step next rest

variable {step : σ → α → Option σ} {start middle final : σ} {actions more : List α} {action : α}

theorem run_append (actions more : List α) :
    run step start (actions ++ more) = (run step start actions).bind (run step · more) := by
  induction actions generalizing start with
  | nil => rfl
  | cons action rest ih =>
    simp only [List.cons_append, run, ih, Option.bind_assoc]

theorem run_cons : run step start (action :: more) = some final ↔
    ∃ middle, step start action = some middle ∧ run step middle more = some final := by
  simp only [run, Option.bind_eq_some_iff]

theorem run_concat : run step start (actions ++ [action]) = some final ↔
    ∃ middle, run step start actions = some middle ∧ step middle action = some final := by
  simp only [run_append, run, Option.bind_eq_some_iff, Option.some.injEq, exists_eq_right]

theorem run_trans (first : run step start actions = some middle)
    (second : run step middle more = some final) :
    run step start (actions ++ more) = some final := by
  rw [run_append, first, Option.bind_some, second]

/-- Induction from the last action of a run. The statement may speak about the
whole schedule, so histories need no variable of their own in the state. -/
theorem run_induction {P : List α → σ → Prop} (initial : P [] start)
    (next : ∀ {actions middle action final}, run step start actions = some middle →
      P actions middle → step middle action = some final → P (actions ++ [action]) final)
    (execution : run step start actions = some final) : P actions final := by
  induction actions using List.reverseRecOn generalizing final with
  | nil =>
    cases Option.some.inj execution
    exact initial
  | append_singleton actions action ih =>
    obtain ⟨middle, earlier, last⟩ := run_concat.mp execution
    exact next earlier (ih earlier) last

theorem run_invariant {P : σ → Prop}
    (preserves : ∀ {before action after}, P before → step before action = some after → P after)
    (execution : run step start actions = some final) (initial : P start) : P final :=
  run_induction (P := fun _ state => P state) initial
    (fun _ holds stepped => preserves holds stepped) execution

/-- Every step of the schedule meets a condition on the state before it. -/
def Meets (step : σ → α → Option σ) (ok : σ → α → Prop) : σ → List α → Prop
  | _, [] => True
  | state, action :: rest =>
      ok state action ∧ ∀ next, step state action = some next → Meets step ok next rest

theorem meets_cons {ok : σ → α → Prop} (stepped : step start action = some middle) :
    Meets step ok start (action :: more) ↔ ok start action ∧ Meets step ok middle more := by
  simp only [Meets, stepped, Option.some.injEq, forall_eq']

theorem meets_concat {ok : σ → α → Prop} (execution : run step start actions = some middle) :
    Meets step ok start (actions ++ [action]) ↔ Meets step ok start actions ∧ ok middle action := by
  induction actions generalizing start with
  | nil =>
    cases Option.some.inj execution
    simp only [List.nil_append, Meets, implies_true, and_true, true_and]
  | cons first rest ih =>
    obtain ⟨next, stepped, tail⟩ := run_cons.mp execution
    rw [List.cons_append, meets_cons stepped, meets_cons stepped, ih tail, and_assoc]

/-- The invariant rule for runs whose steps all meet a condition. -/
theorem meets_invariant {ok : σ → α → Prop} {P : σ → Prop}
    (preserves : ∀ {before action after}, P before → ok before action →
      step before action = some after → P after)
    (execution : run step start actions = some final) (meets : Meets step ok start actions)
    (initial : P start) : P final := by
  refine run_induction (P := fun actions state => Meets step ok start actions → P state)
    (fun _ => initial) ?_ execution meets
  intro actions middle action final earlier holds stepped meets
  obtain ⟨before, last⟩ := (meets_concat earlier).mp meets
  exact preserves (holds before) last stepped

/-- A machine whose states are all images of abstract ones, and which steps as the abstract
machine does where a condition is met, runs as it does. -/
theorem run_refines {τ : Type} {abstract : τ → α → Option τ} {ok : σ → α → Prop} (image : τ → σ)
    (refines : ∀ {state action}, ok (image state) action →
      step (image state) action = (abstract state action).map image)
    (start : τ) (meets : Meets step ok (image start) actions) :
    run step (image start) actions = (run abstract start actions).map image := by
  induction actions generalizing start with
  | nil => rfl
  | cons action rest ih =>
    obtain ⟨met, later⟩ := meets
    have stepped := refines met
    rw [run, run, stepped]
    cases next : abstract start action with
    | none => rfl
    | some state =>
      rw [next, Option.map_some] at stepped
      exact ih state (later _ stepped)

/-- What the steps of a schedule put out, in order. -/
def outputs (step : σ → α → Option σ) (out : σ → α → List β) : σ → List α → List β
  | _, [] => []
  | state, action :: rest =>
    match step state action with
    | none => []
    | some next => out state action ++ outputs step out next rest

theorem outputs_concat {out : σ → α → List β} (execution : run step start actions = some middle)
    (stepped : step middle action = some final) :
    outputs step out start (actions ++ [action]) =
      outputs step out start actions ++ out middle action := by
  induction actions generalizing start with
  | nil =>
    cases Option.some.inj execution
    simp [outputs, stepped]
  | cons first rest ih =>
    obtain ⟨next, here, tail⟩ := run_cons.mp execution
    simp only [List.cons_append, outputs, here, ih tail, List.append_assoc]

/-- Whatever was put out came from one of the actions. -/
theorem exists_of_mem_outputs {out : σ → α → List β} {value : β}
    (member : value ∈ outputs step out start actions) :
    ∃ action ∈ actions, ∃ state, value ∈ out state action := by
  induction actions generalizing start with
  | nil => contradiction
  | cons action rest ih =>
    rw [outputs] at member
    split at member
    · contradiction
    · rcases List.mem_append.mp member with here | later
      · exact ⟨action, List.mem_cons_self, start, here⟩
      · obtain ⟨other, inside, state, found⟩ := ih later
        exact ⟨other, List.mem_cons_of_mem _ inside, state, found⟩

/-- Less put out in each step is less put out by the run. -/
theorem outputs_sublist {less out : σ → α → List β}
    (fewer : ∀ state action, (less state action).Sublist (out state action)) (start : σ) (actions : List α) :
    (outputs step less start actions).Sublist (outputs step out start actions) := by
  induction actions generalizing start with
  | nil => exact List.Sublist.refl _
  | cons action rest ih =>
    rw [outputs, outputs]
    split
    · exact List.Sublist.refl _
    · exact (fewer start action).append (ih _)

/-- Every state on the way, the first and the last included, has the property. -/
def Always (step : σ → α → Option σ) (P : σ → Prop) (start : σ) (actions : List α) : Prop :=
  ∀ before rest state, actions = before ++ rest → run step start before = some state → P state

theorem always_cons {P : σ → Prop} (stepped : step start action = some middle) :
    Always step P start (action :: more) ↔ P start ∧ Always step P middle more := by
  constructor
  · intro always
    refine ⟨always [] _ start rfl rfl, ?_⟩
    rintro before rest state rfl execution
    exact always (action :: before) rest state rfl (run_cons.mpr ⟨middle, stepped, execution⟩)
  · rintro ⟨first, later⟩ before rest state same execution
    cases before with
    | nil =>
      cases Option.some.inj execution
      exact first
    | cons head tail =>
      obtain ⟨rfl, rfl⟩ := List.cons.inj same
      obtain ⟨next, here, onward⟩ := run_cons.mp execution
      rw [stepped] at here
      cases Option.some.inj here
      exact later tail rest state rfl onward

/-- If a step keeps a property exactly when it meets a condition, then a run keeps
it throughout exactly when all its steps meet the condition. -/
theorem always_iff_meets {ok : σ → α → Prop} {P Q : σ → Prop}
    (preserves : ∀ {before action after}, Q before → step before action = some after → Q after)
    (exact' : ∀ {before action after}, Q before → P before → step before action = some after →
      (P after ↔ ok before action))
    (execution : run step start actions = some final) (invariant : Q start) (initial : P start) :
    Always step P start actions ↔ Meets step ok start actions := by
  induction actions generalizing start with
  | nil =>
    refine ⟨fun _ => trivial, ?_⟩
    rintro _ before rest state same reached
    obtain ⟨rfl, rfl⟩ := List.append_eq_nil_iff.mp same.symm
    cases Option.some.inj reached
    exact initial
  | cons action rest ih =>
    obtain ⟨middle, stepped, onward⟩ := run_cons.mp execution
    rw [always_cons stepped, meets_cons stepped]
    constructor
    · rintro ⟨_, always⟩
      have kept : P middle := always [] rest middle rfl rfl
      exact ⟨(exact' invariant initial stepped).mp kept,
        (ih onward (preserves invariant stepped) kept).mp always⟩
    · rintro ⟨met, later⟩
      have kept : P middle := (exact' invariant initial stepped).mpr met
      exact ⟨initial, (ih onward (preserves invariant stepped) kept).mpr later⟩

/-- Every step of the run is related to the state before and the state after it. -/
def Steps (step : σ → α → Option σ) (R : σ → α → σ → Prop) (start : σ) (actions : List α) : Prop :=
  ∀ before action rest state next, actions = before ++ action :: rest →
    run step start before = some state → step state action = some next → R state action next

theorem steps_cons {R : σ → α → σ → Prop} (stepped : step start action = some middle) :
    Steps step R start (action :: more) ↔ R start action middle ∧ Steps step R middle more := by
  constructor
  · intro steps
    refine ⟨steps [] action more start middle rfl rfl stepped, ?_⟩
    rintro before next rest state after rfl reached onward
    exact steps (action :: before) next rest state after rfl
      (run_cons.mpr ⟨middle, stepped, reached⟩) onward
  · rintro ⟨first, later⟩ before next rest state after same reached onward
    cases before with
    | nil =>
      cases Option.some.inj reached
      obtain ⟨rfl, rfl⟩ := List.cons.inj same
      rw [stepped] at onward
      cases Option.some.inj onward
      exact first
    | cons head tail =>
      obtain ⟨rfl, rfl⟩ := List.cons.inj same
      obtain ⟨between, here, further⟩ := run_cons.mp reached
      rw [stepped] at here
      cases Option.some.inj here
      exact later tail next rest state after rfl further onward

/-- If the relation holds of a step exactly when the step meets a condition, it
holds of all steps of a run exactly when they all meet it. -/
theorem steps_iff_meets {ok : σ → α → Prop} {R : σ → α → σ → Prop} {Q : σ → Prop}
    (preserves : ∀ {before action after}, Q before → step before action = some after → Q after)
    (exact' : ∀ {before action after}, Q before → step before action = some after →
      (R before action after ↔ ok before action))
    (execution : run step start actions = some final) (invariant : Q start) :
    Steps step R start actions ↔ Meets step ok start actions := by
  induction actions generalizing start with
  | nil =>
    refine ⟨fun _ => trivial, ?_⟩
    rintro _ before action rest state next same
    exact absurd same.symm (by simp)
  | cons action rest ih =>
    obtain ⟨middle, stepped, onward⟩ := run_cons.mp execution
    rw [steps_cons stepped, meets_cons stepped, exact' invariant stepped,
      ih onward (preserves invariant stepped)]

/-- The relation holds of all steps of a run that all meet a condition, if together
with an invariant the condition is enough for it. -/
theorem steps_of_meets {ok : σ → α → Prop} {R : σ → α → σ → Prop} {Q : σ → Prop}
    (preserves : ∀ {before action after}, Q before → ok before action →
      step before action = some after → Q after)
    (relates : ∀ {before action after}, Q before → ok before action →
      step before action = some after → R before action after)
    (meets : Meets step ok start actions) (invariant : Q start) : Steps step R start actions := by
  induction actions generalizing start with
  | nil =>
    rintro before action rest state next same
    exact absurd same.symm (by simp)
  | cons action rest ih =>
    obtain ⟨met, later⟩ := meets
    cases stepped : step start action with
    | none =>
      rintro before other more state next same reached onward
      cases before with
      | nil =>
        cases Option.some.inj reached
        obtain ⟨rfl, _⟩ := List.cons.inj same
        rw [stepped] at onward
        contradiction
      | cons head tail =>
        obtain ⟨rfl, _⟩ := List.cons.inj same
        obtain ⟨middle, here, _⟩ := run_cons.mp reached
        rw [stepped] at here
        contradiction
    | some middle =>
      rw [steps_cons stepped]
      exact ⟨relates invariant met stepped,
        ih (later middle stepped) (preserves invariant met stepped)⟩

/-- An invariant holds along the way, not only at the end. -/
theorem always_of_invariant {P : σ → Prop}
    (preserves : ∀ {before action after}, P before → step before action = some after → P after)
    (initial : P start) : Always step P start actions :=
  fun _ _ _ _ reached => run_invariant preserves reached initial

/-- Two properties that agree on every reachable state hold along the same runs. -/
theorem always_congr {P Q : σ → Prop}
    (same : ∀ {actions state}, run step start actions = some state → (P state ↔ Q state)) :
    Always step P start actions ↔ Always step Q start actions :=
  ⟨fun always before rest state split reached => (same reached).mp (always before rest state split reached),
    fun always before rest state split reached => (same reached).mpr (always before rest state split reached)⟩

/-- Some continuation leads there and each of its steps meets the condition. -/
def Can (step : σ → α → Option σ) (ok : σ → α → Prop) (start final : σ) : Prop :=
  ∃ actions, run step start actions = some final ∧ Meets step ok start actions

section Continuation
variable {ok : σ → α → Prop}

theorem Can.refl : Can step ok start start := ⟨[], rfl, trivial⟩

theorem Can.head (met : ok start action) (stepped : step start action = some middle)
    (rest : Can step ok middle final) : Can step ok start final := by
  obtain ⟨actions, execution, meets⟩ := rest
  exact ⟨action :: actions, run_cons.mpr ⟨middle, stepped, execution⟩,
    (meets_cons stepped).mpr ⟨met, meets⟩⟩

theorem Can.trans (first : Can step ok start middle) (second : Can step ok middle final) :
    Can step ok start final := by
  obtain ⟨actions, execution, meets⟩ := first
  induction actions generalizing start with
  | nil =>
    cases Option.some.inj execution
    exact second
  | cons action rest ih =>
    obtain ⟨next, stepped, onward⟩ := run_cons.mp execution
    exact Can.head meets.1 stepped (ih onward (meets.2 next stepped))

theorem Can.invariant {P : σ → Prop}
    (preserves : ∀ {before action after}, P before → ok before action →
      step before action = some after → P after)
    (can : Can step ok start final) (initial : P start) : P final := by
  obtain ⟨actions, execution, meets⟩ := can
  exact meets_invariant preserves execution meets initial

end Continuation
end Transition
