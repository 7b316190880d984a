import SingQuic.Lib.Table
import SingQuic.Lib.Transition

/-! A value made on demand behind a lock and shared by all who ask for it. Whoever gets
the lock takes the cached value while it is open, and else makes a new one, which takes
many steps, may fail, and may be dropped between any two of them. Nothing here mentions
a particular kind of value. -/
namespace SingleFlight

/-- What one step of the making leads to. -/
inductive Progress (S F : Type) where
  | more (setup : S)
  | ready
  | failed (error : F)

/-- How a value is made and what is done with it afterwards. -/
structure Protocol (Q C R S U E F : Type) where
  connect : C → Except F (R × S)
  setup : R → S → E → Option (R × Progress S F)
  start : Q → U
  use : R → U → E → Option (R × U)

structure Entry (R : Type) where
  value : R
  closed : Bool

/-- One call: for the lock, with the lock, or with a value. -/
inductive Task (Q S U F : Type) where
  | waiting (request : Q)
  | making (request : Q) (entry : Nat) (setup : S)
  | serving (entry : Nat) (use : U)
  | failed (error : F)
  | dropped

structure State (Q R S U F : Type) where
  entries : List (Entry R)
  cached : Option Nat
  tasks : List (Task Q S U F)

inductive Action (Q C E : Type) where
  | call (request : Q)
  | lock (task : Nat) (connected : C)
  | advance (task : Nat) (event : E)
  | drop (task : Nat)
  | close (entry : Nat)

variable {Q C R S U E F : Type}

def Task.making? : Task Q S U F → Option (Nat × S)
  | .making _ entry setup => some (entry, setup)
  | _ => none

namespace State

def initial : State Q R S U F := ⟨[], none, []⟩

def locked (state : State Q R S U F) : Bool := state.tasks.any fun task => task.making?.isSome

/-- The cached value, unless it is closed. -/
def current (state : State Q R S U F) : Option Nat :=
  state.cached.filter fun entry => (state.entries[entry]?).any fun found => !found.closed

def addEntry (state : State Q R S U F) (value : R) : State Q R S U F :=
  { state with entries := state.entries ++ [⟨value, false⟩] }

def setTask (state : State Q R S U F) (task : Nat) (after : Task Q S U F) : State Q R S U F :=
  { state with tasks := state.tasks.set task after }

def setEntry (state : State Q R S U F) (entry : Nat) (after : Entry R) : State Q R S U F :=
  { state with entries := state.entries.set entry after }

end State

/-- The lock is let go when the making ends, whichever way; a value that nobody keeps is closed. -/
def step (protocol : Protocol Q C R S U E F) (state : State Q R S U F) :
    Action Q C E → Option (State Q R S U F)
  | .call request => some { state with tasks := state.tasks ++ [.waiting request] }
  | .lock task connected =>
    match state.tasks[task]? with
    | some (.waiting request) =>
      if state.locked then none
      else
        match state.current with
        | some entry => some (state.setTask task (.serving entry (protocol.start request)))
        | none =>
          match protocol.connect connected with
          | .error error => some (state.setTask task (.failed error))
          | .ok (value, setup) =>
            some ((state.addEntry value).setTask task (.making request state.entries.length setup))
    | _ => none
  | .advance task event =>
    match state.tasks[task]? with
    | some (.making request entry setup) =>
      (state.entries[entry]?).bind fun found =>
        (protocol.setup found.value setup event).map fun (value, progress) =>
          match progress with
          | .more setup =>
            (state.setEntry entry { found with value }).setTask task (.making request entry setup)
          | .ready =>
            { (state.setEntry entry { found with value }).setTask task
                (.serving entry (protocol.start request)) with cached := some entry }
          | .failed error => (state.setEntry entry ⟨value, true⟩).setTask task (.failed error)
    | some (.serving entry use) =>
      (state.entries[entry]?).bind fun found =>
        (protocol.use found.value use event).map fun (value, use) =>
          (state.setEntry entry { found with value }).setTask task (.serving entry use)
    | _ => none
  | .drop task =>
    match state.tasks[task]? with
    | some (.making _ entry _) =>
      (state.entries[entry]?).map fun found =>
        (state.setEntry entry { found with closed := true }).setTask task .dropped
    | some (.waiting _) | some (.serving _ _) => some (state.setTask task .dropped)
    | _ => none
  | .close entry =>
    (state.entries[entry]?).map fun found => state.setEntry entry { found with closed := true }

/-- What the steps of the making establish, and what use keeps. `Fresh` is about a value
while it is made, `Unused` about one that was given up. -/
structure Laws (protocol : Protocol Q C R S U E F) (Fresh : R → S → Prop) (Unused Good : R → Prop) :
    Prop where
  connect : ∀ {connected value setup}, protocol.connect connected = .ok (value, setup) →
    Fresh value setup
  more : ∀ {value setup event after later}, Fresh value setup →
    protocol.setup value setup event = some (after, .more later) → Fresh after later
  ready : ∀ {value setup event after}, Fresh value setup →
    protocol.setup value setup event = some (after, .ready) → Good after
  failed : ∀ {value setup event after error}, Fresh value setup →
    protocol.setup value setup event = some (after, .failed error) → Unused after
  unused : ∀ {value setup}, Fresh value setup → Unused value
  use : ∀ {value use event after later}, Good value →
    protocol.use value use event = some (after, later) → Good after

/-- The invariant of the lock, the cache and the values. -/
structure Sound (Fresh : R → S → Prop) (Unused Good : R → Prop) (state : State Q R S U F) : Prop where
  alone : ∀ {first second : Nat} {one two : Task Q S U F}, state.tasks[first]? = some one →
    state.tasks[second]? = some two → one.making?.isSome → two.making?.isSome → first = second
  making : ∀ {task : Nat} {request : Q} {entry : Nat} {setup : S},
    state.tasks[task]? = some (.making request entry setup) →
    (∃ found, state.entries[entry]? = some found ∧ Fresh found.value setup) ∧
      state.current = none ∧ state.cached ≠ some entry ∧
      ∀ (other : Nat) (use : U), state.tasks[other]? ≠ some (.serving entry use)
  cached : ∀ {entry : Nat}, state.cached = some entry →
    ∃ found, state.entries[entry]? = some found ∧ Good found.value
  serving : ∀ {task entry : Nat} {use : U}, state.tasks[task]? = some (.serving entry use) →
    ∃ found, state.entries[entry]? = some found ∧ Good found.value
  opened : ∀ {entry : Nat} {found : Entry R}, state.entries[entry]? = some found →
    found.closed = false → state.cached = some entry ∨ ∃ (task : Nat) (request : Q) (setup : S),
      state.tasks[task]? = some (.making request entry setup)
  settled : ∀ {entry : Nat} {found : Entry R}, state.entries[entry]? = some found →
    Unused found.value ∨ Good found.value

variable {protocol : Protocol Q C R S U E F} {Fresh : R → S → Prop} {Unused Good : R → Prop}
  {state next : State Q R S U F}

theorem current_eq_some {entry : Nat} : state.current = some entry ↔
    state.cached = some entry ∧ ∃ found, state.entries[entry]? = some found ∧ found.closed = false := by
  simp only [State.current, Option.filter_eq_some_iff, Option.any_eq_true, Bool.not_eq_true']

theorem unlocked_iff : state.locked = false ↔
    ∀ (task : Nat) (request : Q) (entry : Nat) (setup : S),
      state.tasks[task]? ≠ some (.making request entry setup) := by
  rw [State.locked, List.any_eq_false]
  constructor
  · intro free task request entry setup here
    exact free _ (List.mem_of_getElem? here) rfl
  · intro free task member held
    obtain ⟨index, here⟩ := List.getElem?_of_mem member
    cases task with
    | making request entry setup => exact free index request entry setup here
    | _ => contradiction

/-- At most one value is open. -/
theorem Sound.unique (sound : Sound Fresh Unused Good state) {first second : Nat} {one two : Entry R}
    (left : state.entries[first]? = some one) (right : state.entries[second]? = some two)
    (alive : one.closed = false) (other : two.closed = false) : first = second := by
  have mixed {cached made : Nat} {found : Entry R} {task : Nat} {request : Q} {setup : S}
      (kept : state.cached = some cached) (here : state.entries[cached]? = some found)
      (alive : found.closed = false)
      (busy : state.tasks[task]? = some (.making request made setup)) : False := by
    have vacant := (sound.making busy).2.1
    rw [current_eq_some.mpr ⟨kept, found, here, alive⟩] at vacant
    contradiction
  rcases sound.opened left alive with kept | ⟨task, request, setup, busy⟩
  · rcases sound.opened right other with kept' | ⟨task, request, setup, busy⟩
    · exact Option.some.inj (kept.symm.trans kept')
    · exact (mixed kept left alive busy).elim
  · rcases sound.opened right other with kept | ⟨task', request', setup', busy'⟩
    · exact (mixed kept right other busy).elim
    · obtain rfl := sound.alone busy busy' rfl rfl
      rw [busy] at busy'
      exact (Task.making.inj (Option.some.inj busy')).2.1

theorem sound_initial : Sound Fresh Unused Good (State.initial : State Q R S U F) := by
  constructor <;> intros <;> contradiction

/-- Closing a value or changing it does not open another. -/
theorem current_setEntry {entry : Nat} {found after : Entry R} (here : state.entries[entry]? = some found)
    (weaker : found.closed = true → after.closed = true) (vacant : state.current = none) :
    (state.setEntry entry after).current = none := by
  rw [Option.eq_none_iff_forall_ne_some] at vacant ⊢
  intro other open'
  obtain ⟨kept, later, there, alive⟩ := current_eq_some.mp open'
  rcases Table.of_set there with ⟨rfl, rfl⟩ | ⟨_, before⟩
  · refine vacant other (current_eq_some.mpr ⟨kept, found, here, ?_⟩)
    by_contra shut
    rw [weaker (by simpa using shut)] at alive
    contradiction
  · exact vacant other (current_eq_some.mpr ⟨kept, later, before, alive⟩)

/-- A task that is not making anything moves on to another such state. -/
theorem Sound.settle (sound : Sound Fresh Unused Good state) {task : Nat} {before after : Task Q S U F}
    (here : state.tasks[task]? = some before) (idle : before.making? = none) (calm : after.making? = none)
    (served : ∀ entry use, after = .serving entry use →
      (∃ found, state.entries[entry]? = some found ∧ Good found.value) ∧
        ∀ (other : Nat) (request : Q) (setup : S),
          state.tasks[other]? ≠ some (.making request entry setup)) :
    Sound Fresh Unused Good (state.setTask task after) := by
  have earlier {other : Nat} {found : Task Q S U F}
      (there : (state.tasks.set task after)[other]? = some found) (busy : found.making?.isSome) :
      state.tasks[other]? = some found := by
    rcases Table.of_set there with ⟨_, rfl⟩ | ⟨_, old⟩
    · rw [calm] at busy
      contradiction
    · exact old
  refine ⟨fun one two busy busy' => ?_, fun {other request entry setup} busy => ?_, sound.cached,
    fun {other entry use} there => ?_, fun {entry found} inside alive => ?_, sound.settled⟩
  · exact sound.alone (earlier one busy) (earlier two busy') busy busy'
  · obtain ⟨fresh, vacant, apart, unserved⟩ := sound.making (earlier busy rfl)
    refine ⟨fresh, vacant, apart, fun index use there => ?_⟩
    rcases Table.of_set there with ⟨_, same⟩ | ⟨_, old⟩
    · exact (served entry use same.symm).2 other request setup (earlier busy rfl)
    · exact unserved index use old
  · rcases Table.of_set there with ⟨_, same⟩ | ⟨_, old⟩
    · exact (served entry use same.symm).1
    · exact sound.serving old
  · refine (sound.opened inside alive).imp_right fun ⟨index, request, setup, busy⟩ => ?_
    refine ⟨index, request, setup, ?_⟩
    by_cases own : index = task
    · subst own
      rw [here] at busy
      obtain rfl := Option.some.inj busy
      contradiction
    · exact (List.getElem?_set_ne (Ne.symm own)).trans busy

/-- One value changes, and stays what it was good for. -/
theorem Sound.setEntry (sound : Sound Fresh Unused Good state) {entry : Nat} {found after : Entry R}
    (here : state.entries[entry]? = some found) (weaker : found.closed = true → after.closed = true)
    (fresh : ∀ (task : Nat) (request : Q) (setup : S),
      state.tasks[task]? = some (.making request entry setup) → Fresh after.value setup)
    (good : Good found.value → Good after.value) (settled : Unused after.value ∨ Good after.value) :
    Sound Fresh Unused Good (state.setEntry entry after) := by
  have kept {other : Nat} (old : ∃ before, state.entries[other]? = some before ∧ Good before.value) :
      ∃ later, (state.setEntry entry after).entries[other]? = some later ∧ Good later.value := by
    obtain ⟨before, there, fine⟩ := old
    by_cases own : other = entry
    · subst own
      obtain rfl := Option.some.inj (here.symm.trans there)
      exact ⟨after, Table.set_self here, good fine⟩
    · exact ⟨before, (List.getElem?_set_ne (Ne.symm own)).trans there, fine⟩
  refine ⟨sound.alone, fun {task request other setup} busy => ?_, fun cached => kept (sound.cached cached),
    fun there => kept (sound.serving there), fun {other later} inside alive => ?_,
    fun {other later} inside => ?_⟩
  · obtain ⟨⟨before, there, young⟩, vacant, rest⟩ := sound.making busy
    refine ⟨?_, current_setEntry here weaker vacant, rest⟩
    by_cases own : other = entry
    · subst own
      exact ⟨after, Table.set_self here, fresh task request setup busy⟩
    · exact ⟨before, (List.getElem?_set_ne (Ne.symm own)).trans there, young⟩
  · rcases Table.of_set inside with ⟨rfl, rfl⟩ | ⟨_, old⟩
    · refine sound.opened here ?_
      by_contra shut
      rw [weaker (by simpa using shut)] at alive
      contradiction
    · exact sound.opened old alive
  · rcases Table.of_set inside with ⟨rfl, rfl⟩ | ⟨_, old⟩
    · exact settled
    · exact sound.settled old

theorem Sound.call (sound : Sound Fresh Unused Good state) (request : Q) :
    Sound Fresh Unused Good { state with tasks := state.tasks ++ [.waiting request] } := by
  have earlier {index : Nat} {found : Task Q S U F}
      (there : (state.tasks ++ [.waiting request])[index]? = some found) :
      state.tasks[index]? = some found ∨ found = .waiting request :=
    (Table.of_concat there).imp_right fun last => last.2
  have busyBefore {index : Nat} {found : Task Q S U F}
      (there : (state.tasks ++ [.waiting request])[index]? = some found) (busy : found.making?.isSome) :
      state.tasks[index]? = some found := by
    rcases earlier there with old | rfl
    · exact old
    · contradiction
  refine ⟨fun one two busy busy' => sound.alone (busyBefore one busy) (busyBefore two busy') busy busy',
    fun busy => ?_, sound.cached, fun there => ?_, fun inside alive => ?_, sound.settled⟩
  · obtain ⟨fresh, vacant, apart, unserved⟩ := sound.making (busyBefore busy rfl)
    refine ⟨fresh, vacant, apart, fun index use there => ?_⟩
    rcases earlier there with old | same
    · exact unserved index use old
    · contradiction
  · rcases earlier there with old | same
    · exact sound.serving old
    · contradiction
  · refine (sound.opened inside alive).imp_right fun ⟨index, other, setup, busy⟩ => ?_
    exact ⟨index, other, setup, Table.kept (List.prefix_append _ _) busy⟩

/-- The lock is free and nothing open is cached: a new value is begun. -/
theorem Sound.begin (sound : Sound Fresh Unused Good state) (unused : ∀ {value setup}, Fresh value setup →
      Unused value) {task : Nat} {request : Q} {value : R} {setup : S}
    (here : state.tasks[task]? = some (.waiting request)) (unlocked : state.locked = false)
    (vacant : state.current = none) (fresh : Fresh value setup) :
    Sound Fresh Unused Good ((state.addEntry value).setTask task
      (.making request state.entries.length setup)) := by
  have free := unlocked_iff.mp unlocked
  have only {index : Nat} {found : Task Q S U F}
      (there : (state.tasks.set task (.making request state.entries.length setup))[index]? = some found)
      (busy : found.making?.isSome) :
      index = task ∧ found = .making request state.entries.length setup := by
    rcases Table.of_set there with both | ⟨_, old⟩
    · exact both
    · cases found with
      | making request entry setup => exact absurd old (free index request entry setup)
      | _ => contradiction
  have kept {entry : Nat} {found : Entry R} (there : state.entries[entry]? = some found) :
      (state.entries ++ [⟨value, false⟩])[entry]? = some found :=
    Table.kept (List.prefix_append _ _) there
  have inside {entry : Nat} (old : ∃ found, state.entries[entry]? = some found ∧ Good found.value) :
      entry < state.entries.length := by
    obtain ⟨found, there, _⟩ := old
    exact (List.getElem?_eq_some_iff.mp there).1
  refine ⟨fun one two busy busy' => (only one busy).1.trans (only two busy').1.symm,
    fun {index other entry setup'} busy => ?_, fun cached => ?_, fun there => ?_,
    fun {entry found} there alive => ?_, fun {entry found} there => ?_⟩
  · obtain ⟨rfl, same⟩ := only busy rfl
    obtain ⟨rfl, rfl, rfl⟩ := Task.making.inj same
    refine ⟨⟨⟨value, false⟩, List.getElem?_concat_length, fresh⟩, ?_, ?_, ?_⟩
    · rw [Option.eq_none_iff_forall_ne_some] at vacant ⊢
      intro entry open'
      obtain ⟨cached, found, there, alive⟩ := current_eq_some.mp open'
      obtain ⟨old, before, _⟩ := sound.cached cached
      obtain rfl := Option.some.inj ((kept before).symm.trans there)
      exact vacant entry (current_eq_some.mpr ⟨cached, old, before, alive⟩)
    · intro cached
      exact absurd (inside (sound.cached cached)) (Nat.lt_irrefl _)
    · intro other use there
      rcases Table.of_set there with ⟨_, same⟩ | ⟨_, old⟩
      · contradiction
      · exact absurd (inside (sound.serving old)) (Nat.lt_irrefl _)
  · obtain ⟨found, there, fine⟩ := sound.cached cached
    exact ⟨found, kept there, fine⟩
  · rcases Table.of_set there with ⟨_, same⟩ | ⟨_, old⟩
    · contradiction
    · obtain ⟨found, there, fine⟩ := sound.serving old
      exact ⟨found, kept there, fine⟩
  · rcases Table.of_concat there with old | ⟨rfl, rfl⟩
    · refine (sound.opened old alive).imp_right fun ⟨index, other, setup', busy⟩ => ?_
      exact absurd busy (free index other entry setup')
    · exact Or.inr ⟨task, request, setup, Table.set_self here⟩
  · rcases Table.of_concat there with old | ⟨rfl, rfl⟩
    · exact sound.settled old
    · exact Or.inl (unused fresh)

section
variable {task : Nat} {request : Q} {entry : Nat} {setup : S} {found after : Entry R}

/-- Whoever makes a value is the only one, and nobody else has seen it. -/
theorem Sound.apart (sound : Sound Fresh Unused Good state)
    (here : state.tasks[task]? = some (.making request entry setup)) {other : Nat} {later : Entry R}
    (seen : state.cached = some other ∨
      ∃ (index : Nat) (use : U), state.tasks[index]? = some (.serving other use))
    (old : state.entries[other]? = some later) :
    (state.setEntry entry after).entries[other]? = some later := by
  obtain ⟨_, _, uncached, unserved⟩ := sound.making here
  refine (List.getElem?_set_ne fun same => ?_).trans old
  subst same
  rcases seen with kept | ⟨index, use, there⟩
  · exact uncached kept
  · exact unserved index use there

theorem Sound.only (sound : Sound Fresh Unused Good state)
    (here : state.tasks[task]? = some (.making request entry setup)) {later : Task Q S U F} {index : Nat}
    {found : Task Q S U F} (there : (state.tasks.set task later)[index]? = some found)
    (busy : found.making?.isSome) : index = task ∧ found = later := by
  rcases Table.of_set there with both | ⟨other, old⟩
  · exact both
  · exact absurd (sound.alone old here busy rfl) other

/-- The making goes on. -/
theorem Sound.more (sound : Sound Fresh Unused Good state) (unused : ∀ {value setup}, Fresh value setup →
      Unused value) (here : state.tasks[task]? = some (.making request entry setup))
    (inside : state.entries[entry]? = some found) {value : R} {later : S} (fresh : Fresh value later) :
    Sound Fresh Unused Good
      ((state.setEntry entry { found with value }).setTask task (.making request entry later)) := by
  obtain ⟨_, vacant, uncached, unserved⟩ := sound.making here
  refine ⟨fun one two busy busy' => (sound.only here one busy).1.trans (sound.only here two busy').1.symm,
    fun {index other made setup'} busy => ?_, fun kept => ?_, fun {index other use} there => ?_,
    fun {other last} there alive => ?_, fun {other last} there => ?_⟩
  · obtain ⟨rfl, equal⟩ := sound.only here busy rfl
    obtain ⟨rfl, rfl, rfl⟩ := Task.making.inj equal
    refine ⟨⟨_, Table.set_self inside, fresh⟩, current_setEntry inside id vacant, uncached,
      fun other use there => ?_⟩
    rcases Table.of_set there with ⟨_, served⟩ | ⟨_, old⟩
    · contradiction
    · exact unserved other use old
  · obtain ⟨last, old, fine⟩ := sound.cached kept
    exact ⟨last, sound.apart here (Or.inl kept) old, fine⟩
  · rcases Table.of_set there with ⟨_, served⟩ | ⟨_, before⟩
    · contradiction
    · obtain ⟨last, old, fine⟩ := sound.serving before
      exact ⟨last, sound.apart here (Or.inr ⟨index, use, before⟩) old, fine⟩
  · rcases Table.of_set there with ⟨rfl, rfl⟩ | ⟨_, old⟩
    · exact Or.inr ⟨task, request, later, Table.set_self here⟩
    · refine (sound.opened old alive).imp_right fun ⟨index, other', setup', busy⟩ => ?_
      obtain rfl := sound.alone busy here rfl rfl
      obtain ⟨_, rfl, _⟩ := Task.making.inj (Option.some.inj (busy.symm.trans here))
      exact ⟨index, request, later, Table.set_self here⟩
  · rcases Table.of_set there with ⟨rfl, rfl⟩ | ⟨_, old⟩
    · exact Or.inl (unused fresh)
    · exact sound.settled old

/-- The value is made: it is cached, and the lock is free. -/
theorem Sound.ready (sound : Sound Fresh Unused Good state)
    (here : state.tasks[task]? = some (.making request entry setup))
    (inside : state.entries[entry]? = some found) (good : Good after.value) (use : U) :
    Sound Fresh Unused Good { (state.setEntry entry after).setTask task (.serving entry use) with
      cached := some entry } := by
  obtain ⟨_, vacant, _, _⟩ := sound.making here
  have free {index : Nat} {last : Task Q S U F} (busy : last.making?.isSome)
      (there : (state.tasks.set task (.serving entry use))[index]? = some last) : False := by
    obtain ⟨_, rfl⟩ := sound.only here there busy
    contradiction
  refine ⟨fun one _ busy _ => (free busy one).elim, fun busy => (free rfl busy).elim, ?_,
    fun {index other use'} there => ?_, fun {other last} there alive => ?_, fun {other last} there => ?_⟩
  · rintro _ ⟨⟩
    exact ⟨after, Table.set_self inside, good⟩
  · rcases Table.of_set there with ⟨_, same⟩ | ⟨_, before⟩
    · obtain ⟨rfl, _⟩ := Task.serving.inj same
      exact ⟨after, Table.set_self inside, good⟩
    · obtain ⟨last, old, fine⟩ := sound.serving before
      exact ⟨last, sound.apart here (Or.inr ⟨index, use', before⟩) old, fine⟩
  · rcases Table.of_set there with ⟨rfl, rfl⟩ | ⟨different, old⟩
    · exact Or.inl rfl
    · rcases sound.opened old alive with kept | ⟨index, other', setup', busy⟩
      · rw [current_eq_some.mpr ⟨kept, last, old, alive⟩] at vacant
        contradiction
      · obtain rfl := sound.alone busy here rfl rfl
        exact absurd (Task.making.inj (Option.some.inj (busy.symm.trans here))).2.1 different
  · rcases Table.of_set there with ⟨rfl, rfl⟩ | ⟨_, old⟩
    · exact Or.inr good
    · exact sound.settled old

/-- The making is given up: the value is closed, and the lock is free. -/
theorem Sound.giveUp (sound : Sound Fresh Unused Good state)
    (here : state.tasks[task]? = some (.making request entry setup))
    (inside : state.entries[entry]? = some found) {value : R} (unused : Unused value)
    {last : Task Q S U F} (idle : last.making? = none)
    (unserved : ∀ entry use, last ≠ .serving entry use) :
    Sound Fresh Unused Good ((state.setEntry entry ⟨value, true⟩).setTask task last) := by
  have free {index : Nat} {later : Task Q S U F} (busy : later.making?.isSome)
      (there : (state.tasks.set task last)[index]? = some later) : False := by
    obtain ⟨_, rfl⟩ := sound.only here there busy
    rw [idle] at busy
    contradiction
  refine ⟨fun one _ busy _ => (free busy one).elim, fun busy => (free rfl busy).elim, fun kept => ?_,
    fun {index other use'} there => ?_, fun {other later} there alive => ?_, fun {other later} there => ?_⟩
  · obtain ⟨later, old, fine⟩ := sound.cached kept
    exact ⟨later, sound.apart here (Or.inl kept) old, fine⟩
  · rcases Table.of_set there with ⟨_, same⟩ | ⟨_, before⟩
    · exact absurd same.symm (unserved _ _)
    · obtain ⟨later, old, fine⟩ := sound.serving before
      exact ⟨later, sound.apart here (Or.inr ⟨index, use', before⟩) old, fine⟩
  · rcases Table.of_set there with ⟨rfl, rfl⟩ | ⟨different, old⟩
    · contradiction
    · rcases sound.opened old alive with kept | ⟨index, other', setup', busy⟩
      · exact Or.inl kept
      · obtain rfl := sound.alone busy here rfl rfl
        exact absurd (Task.making.inj (Option.some.inj (busy.symm.trans here))).2.1 different
  · rcases Table.of_set there with ⟨rfl, rfl⟩ | ⟨_, old⟩
    · exact Or.inl unused
    · exact sound.settled old

end

/-- Every step keeps the invariant. -/
theorem Sound.step {action : Action Q C E} (laws : Laws protocol Fresh Unused Good)
    (sound : Sound Fresh Unused Good state) (stepped : step protocol state action = some next) :
    Sound Fresh Unused Good next := by
  cases action with
  | call request =>
    obtain rfl := Option.some.inj stepped
    exact sound.call request
  | lock task connected =>
    simp only [SingleFlight.step] at stepped
    split at stepped
    · rename_i request here
      split at stepped
      · contradiction
      · rename_i unlocked
        have unlocked : state.locked = false := by simpa using unlocked
        split at stepped
        · rename_i entry open'
          obtain rfl := Option.some.inj stepped
          obtain ⟨kept, _⟩ := current_eq_some.mp open'
          refine sound.settle here rfl rfl ?_
          rintro _ _ ⟨⟩
          have free := unlocked_iff.mp unlocked
          exact ⟨sound.cached kept, fun other request setup => free other request entry setup⟩
        · rename_i vacant
          split at stepped
          · obtain rfl := Option.some.inj stepped
            refine sound.settle here rfl rfl ?_
            rintro _ _ ⟨⟩
          · rename_i value setup connects
            obtain rfl := Option.some.inj stepped
            exact sound.begin laws.unused here unlocked vacant (laws.connect connects)
    · contradiction
  | advance task event =>
    simp only [SingleFlight.step] at stepped
    split at stepped
    · rename_i request entry setup here
      obtain ⟨found, inside, rest⟩ := Option.bind_eq_some_iff.mp stepped
      obtain ⟨⟨value, progress⟩, made, rfl⟩ := Option.map_eq_some_iff.mp rest
      obtain ⟨⟨young, there, fresh⟩, _⟩ := sound.making here
      obtain rfl := Option.some.inj (there.symm.trans inside)
      cases progress with
      | more later =>
        exact sound.more laws.unused here inside (laws.more fresh made)
      | ready => exact sound.ready here inside (laws.ready fresh made) _
      | failed error =>
        refine sound.giveUp here inside (laws.failed fresh made) rfl ?_
        rintro _ _ ⟨⟩
    · rename_i entry use here
      obtain ⟨found, inside, rest⟩ := Option.bind_eq_some_iff.mp stepped
      obtain ⟨⟨value, later⟩, used, rfl⟩ := Option.map_eq_some_iff.mp rest
      obtain ⟨fine, there, good⟩ := sound.serving here
      obtain rfl := Option.some.inj (there.symm.trans inside)
      have kept := laws.use good used
      have unmade {index : Nat} {request : Q} {setup : S} :
          state.tasks[index]? ≠ some (.making request entry setup) :=
        fun busy => (sound.making busy).2.2.2 task use here
      have changed : Sound Fresh Unused Good (state.setEntry entry { fine with value }) :=
        sound.setEntry inside id (fun _ _ _ busy => absurd busy unmade) (fun _ => kept) (Or.inr kept)
      refine changed.settle here rfl rfl ?_
      rintro _ _ ⟨⟩
      exact ⟨⟨_, Table.set_self inside, kept⟩, fun _ _ _ => unmade⟩
    · contradiction
  | drop task =>
    simp only [SingleFlight.step] at stepped
    split at stepped
    · rename_i request entry setup here
      obtain ⟨found, inside, rfl⟩ := Option.map_eq_some_iff.mp stepped
      obtain ⟨⟨young, there, fresh⟩, _⟩ := sound.making here
      obtain rfl := Option.some.inj (there.symm.trans inside)
      refine sound.giveUp here inside (laws.unused fresh) rfl ?_
      rintro _ _ ⟨⟩
    · rename_i here
      obtain rfl := Option.some.inj stepped
      refine sound.settle here rfl rfl ?_
      rintro _ _ ⟨⟩
    · rename_i here
      obtain rfl := Option.some.inj stepped
      refine sound.settle here rfl rfl ?_
      rintro _ _ ⟨⟩
    · contradiction
  | close entry =>
    obtain ⟨found, inside, rfl⟩ := Option.map_eq_some_iff.mp stepped
    have settled := sound.settled inside
    refine sound.setEntry inside (fun _ => rfl) (fun task request setup busy => ?_) id settled
    obtain ⟨⟨young, there, fresh⟩, _⟩ := sound.making busy
    obtain rfl := Option.some.inj (there.symm.trans inside)
    exact fresh

theorem run_sound {actions : List (Action Q C E)} (laws : Laws protocol Fresh Unused Good)
    (execution : Transition.run (step protocol) State.initial actions = some state) :
    Sound Fresh Unused Good state :=
  Transition.run_invariant (fun sound stepped => Sound.step laws sound stepped) execution sound_initial

/-- What everyone who shares a value can rely on: at most one is open; the cached one and
every one that was used is good; and while one is made, by one task only, none is open in
the cache. -/
theorem Sound.shares (sound : Sound Fresh Unused Good state) :
    (∀ (first second : Nat) (one two : Entry R), state.entries[first]? = some one →
      state.entries[second]? = some two → one.closed = false → two.closed = false → first = second) ∧
    (∀ entry, state.cached = some entry →
      ∃ found, state.entries[entry]? = some found ∧ Good found.value) ∧
    (∀ found ∈ state.entries, ¬ Unused found.value → Good found.value) ∧
    ∀ (task : Nat) (request : Q) (entry : Nat) (setup : S),
      state.tasks[task]? = some (.making request entry setup) → state.current = none ∧
        ∀ (other : Nat) (found : Task Q S U F), state.tasks[other]? = some found →
          found.making?.isSome → other = task := by
  refine ⟨fun first second one two left right alive other => sound.unique left right alive other,
    fun entry kept => sound.cached kept, fun found member used => ?_,
    fun task request entry setup busy => ⟨(sound.making busy).2.1,
      fun other found there making => sound.alone there busy making rfl⟩⟩
  obtain ⟨entry, inside⟩ := List.getElem?_of_mem member
  exact (sound.settled inside).resolve_left used

end SingleFlight
