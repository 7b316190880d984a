import SingQuic.Hysteria2.Sessions
import SingQuic.Lib.WeakTable
import Mathlib.Data.FinEnum

/-! How large the loop's table of sessions gets. Its entries are weak references that
only an announcement under the same id replaces, so what decides is how many sessions
are released and not opened again. -/
namespace SingQuic.Hysteria2
open Wire Transition

/-- The task of the connection runs, and with it the loop's table exists. -/
def Stage.running : Stage → Bool
  | .ended _ | .panicked => false
  | _ => true

namespace ServerState

def liveHandles (state : ServerState) : Set Nat := {handle | state.live handle = true}

/-- The number of entries of `udp_sessions`. -/
noncomputable def tableSize (state : ServerState) : Nat := (WeakTable.entries state.udpSessions).ncard

/-- The number of session ids in the table whose connection nobody has a reference to. -/
noncomputable def released (state : ServerState) : Nat :=
  (WeakTable.stale state.udpSessions state.liveHandles).ncard

/-- While a new connection is handed over, it is alive and not yet in the table. -/
def handingOver (state : ServerState) : Nat := if state.stage.opening.isSome then 1 else 0

/-- The table has at most one entry more than there are live packet connections. -/
def Bounded (state : ServerState) : Prop :=
  state.stage.running = true → state.tableSize ≤ state.liveHandles.ncard + 1

/-- A connection loses its last reference only while no other released id is in the table
(or one, while a new connection is handed over), and an id is added only to a table with
at most one released id. -/
def Spares (state : ServerState) : ServerAction → Prop
  | .release handle => state.stage.running = true →
      (∃ message, state.stage.inHand = some (handle, message)) ∨ state.released ≤ state.handingOver
  | .feed now => ∀ admission handle message target, state.stage = .feeding admission handle message →
      state.handles[handle]? = some target → target.held = true ∨ state.released = 0 ∨
        ∀ packet defragger, target.defragger.feed now message ≠ some (.ok packet, defragger)
  | .hand true => ∀ admission handle message, state.stage = .handing admission handle message →
      state.udpSessions message.sessionId ≠ none ∨ state.released ≤ 1
  | _ => True

end ServerState

variable {config : Config} {state next : ServerState}

/-- Besides being registered, connections are looked up only after they are announced. -/
structure Tabled (state : ServerState) : Prop extends Registered state where
  unannounced : ∀ admission handle message, state.stage = .handing admission handle message →
    ∀ id, state.udpSessions id ≠ some handle

theorem Tabled.injective (tabled : Tabled state) : WeakTable.Injective state.udpSessions := by
  intro id other handle here there
  obtain ⟨target, found, own⟩ := tabled.known id handle here
  obtain ⟨same, again, own'⟩ := tabled.known other handle there
  rw [found] at again
  obtain rfl := Option.some.inj again
  exact own.symm.trans own'

theorem Tabled.step {action : ServerAction} (tabled : Tabled state)
    (stepped : serverStep config state action = some next) : Tabled next := by
  refine ⟨tabled.toRegistered.step stepped, ?_⟩
  intro admission handle message here
  cases serverStep_session stepped with
  | idle _ _ _ sessions _ stage =>
    rcases stage with same | ⟨_, _, calm, _⟩
    · rw [sessions]
      exact tabled.unannounced admission handle message (same ▸ here)
    · rw [here] at calm
      contradiction
  | router _ _ _ _ _ _ => exact tabled.unannounced admission handle message here
  | route _ _ _ _ => contradiction
  | create _ _ _ _ =>
    cases here
    intro id there
    obtain ⟨target, found, _⟩ := tabled.known id _ there
    exact absurd (List.getElem?_eq_some_iff.mp found).1 (Nat.lt_irrefl _)
  | announce _ => contradiction
  | refuse _ => contradiction
  | feed _ called =>
    obtain ⟨target, found, ⟨_, rfl⟩ | ⟨_, after, stage, _, _, _, rfl, rfl | ⟨error, rfl⟩⟩⟩ :=
      input_cases called
    · contradiction
    · contradiction
    · contradiction

theorem Tabled.initial (controller : Option CongestionKind) : Tabled (.initial controller) := by
  refine ⟨⟨by simp [ServerState.initial], by simp [ServerState.initial], ?_, ?_⟩, ?_⟩
  · rintro _ _ _ ⟨⟩
  · rintro _ _ _ ⟨⟩
  · rintro _ _ _ ⟨⟩

theorem mem_liveHandles {handle : Nat} : handle ∈ state.liveHandles ↔
    (∃ target, state.handles[handle]? = some target ∧ target.held = true) ∨
      ∃ message, state.stage.inHand = some (handle, message) :=
  live_iff_exists

theorem handingOver_handing {admission : Admission} {handle : Nat} {message : UdpMessage}
    (here : state.stage = .handing admission handle message) : state.handingOver = 1 := by
  rw [ServerState.handingOver, here]
  rfl

theorem handingOver_eq_zero (calm : ∀ admission handle message, state.stage ≠ .handing admission handle message) :
    state.handingOver = 0 := by
  unfold ServerState.handingOver
  cases here : state.stage with
  | handing admission handle message => exact absurd here (calm admission handle message)
  | _ => rfl

/-- The live connections are those the table leads to and the one handed over. -/
theorem Tabled.ncard_live (tabled : Tabled state) : state.liveHandles.ncard =
    (WeakTable.found state.udpSessions state.liveHandles).ncard + state.handingOver := by
  by_cases handing : ∃ admission handle message, state.stage = .handing admission handle message
  · obtain ⟨admission, handle, message, here⟩ := handing
    have unannounced := tabled.unannounced admission handle message here
    have one : state.liveHandles =
        insert handle (WeakTable.found state.udpSessions state.liveHandles) := by
      ext other
      constructor
      · intro live
        rcases mem_liveHandles.mp live with ⟨target, found, held⟩ | ⟨_, hand⟩
        · exact Or.inr ⟨live, _, tabled.held other target found held⟩
        · rw [here] at hand
          exact Or.inl (Prod.mk.inj (Option.some.inj hand)).1.symm
      · rintro (rfl | ⟨live, _⟩)
        · exact mem_liveHandles.mpr (Or.inr ⟨message, by rw [here]; rfl⟩)
        · exact live
    have fresh : handle ∉ WeakTable.found state.udpSessions state.liveHandles := by
      rintro ⟨_, id, there⟩
      exact unannounced id there
    rw [handingOver_handing here, ← Set.ncard_insert_of_notMem fresh (WeakTable.found_finite _ _), ← one]
  · have calm : ∀ admission handle message, state.stage ≠ .handing admission handle message :=
      fun admission handle message here => handing ⟨admission, handle, message, here⟩
    have all : state.liveHandles = WeakTable.found state.udpSessions state.liveHandles := by
      ext handle
      refine ⟨fun live => ⟨live, ?_⟩, And.left⟩
      rcases mem_liveHandles.mp live with ⟨target, found, held⟩ | ⟨message, hand⟩
      · exact ⟨_, tabled.held handle target found held⟩
      · rcases Stage.inHand_cases hand with ⟨admission, here⟩ | ⟨admission, here⟩
        · exact absurd here (calm admission handle message)
        · exact ⟨_, tabled.feeding admission handle message here⟩
    rw [handingOver_eq_zero calm, Nat.add_zero, ← all]

/-- The bound leaves room for one released session, and for one more while a new
connection is handed over. -/
theorem Tabled.bounded_iff (tabled : Tabled state) : state.Bounded ↔
    (state.stage.running = true → state.released ≤ state.handingOver + 1) := by
  have entries := WeakTable.ncard_entries tabled.injective state.liveHandles
  have live := tabled.ncard_live
  unfold ServerState.Bounded ServerState.tableSize ServerState.released
  rw [entries, live]
  constructor
  · intro bounded running
    have := bounded running
    omega
  · intro few running
    have := few running
    omega

theorem liveHandles_congr (handles : next.handles = state.handles)
    (hand : next.stage.inHand = state.stage.inHand) : next.liveHandles = state.liveHandles := by
  ext handle
  rw [mem_liveHandles, mem_liveHandles, handles, hand]

/-- The loop does something else, or a stream task does. -/
theorem ServerState.Bounded.quiet (bounded : state.Bounded) (handles : next.handles = state.handles)
    (sessions : next.udpSessions = state.udpSessions) (hand : next.stage.inHand = state.stage.inHand)
    (runs : next.stage.running = true → state.stage.running = true) : next.Bounded := by
  intro running
  have few := bounded (runs running)
  rw [ServerState.tableSize, sessions, liveHandles_congr handles hand]
  exact few

/-- The loop moves between two stages in which it has no connection in hand. -/
theorem ServerState.Bounded.enter (bounded : state.Bounded) {before after : Stage}
    (here : state.stage = before) (free : before.inHand = none) (calm : after.inHand = none)
    (runs : before.running = true) : (state.enter after).Bounded := by
  refine bounded.quiet rfl rfl ?_ fun _ => here ▸ runs
  rw [here, free]
  exact calm

theorem bounded_of_ended {result : Result Unit} (here : state.stage = .ended result) : state.Bounded := by
  intro running
  rw [here] at running
  contradiction

/-- One connection changes, and with it perhaps what the loop has in hand. -/
def ServerState.put (state : ServerState) (handle : Nat) (after : PacketHandle) (stage : Stage) :
    ServerState :=
  { state with handles := state.handles.set handle after, stage }

section Put
variable {handle : Nat} {target after : PacketHandle} {stage : Stage}

theorem mem_liveHandles_put {other : Nat} (different : other ≠ handle)
    (hand : (∃ message, stage.inHand = some (other, message)) ↔
      ∃ message, state.stage.inHand = some (other, message)) :
    other ∈ (state.put handle after stage).liveHandles ↔ other ∈ state.liveHandles := by
  rw [mem_liveHandles, mem_liveHandles, ← hand]
  simp only [ServerState.put, List.getElem?_set_ne (Ne.symm different)]

theorem mem_liveHandles_put_self (found : state.handles[handle]? = some target) :
    handle ∈ (state.put handle after stage).liveHandles ↔
      after.held = true ∨ ∃ message, stage.inHand = some (handle, message) := by
  rw [mem_liveHandles]
  simp only [ServerState.put, Table.set_self found, Option.some.injEq, exists_eq_left']

/-- As long as the connection that changes stays alive, all is as before. -/
theorem liveHandles_put (found : state.handles[handle]? = some target) (was : handle ∈ state.liveHandles)
    (lives : after.held = true ∨ ∃ message, stage.inHand = some (handle, message))
    (others : ∀ other, other ≠ handle → ((∃ message, stage.inHand = some (other, message)) ↔
      ∃ message, state.stage.inHand = some (other, message))) :
    (state.put handle after stage).liveHandles = state.liveHandles := by
  ext other
  by_cases same : other = handle
  · subst same
    exact iff_of_true ((mem_liveHandles_put_self found).mpr lives) was
  · exact mem_liveHandles_put same (others other same)

/-- The last reference to a connection is gone: its id is one more released one. -/
theorem Tabled.released_put (tabled : Tabled state) (found : state.handles[handle]? = some target)
    (own : state.udpSessions target.sessionId = some handle) (was : handle ∈ state.liveHandles)
    (gone : after.held = false) (free : ∀ message, stage.inHand ≠ some (handle, message))
    (others : ∀ other, other ≠ handle → ((∃ message, stage.inHand = some (other, message)) ↔
      ∃ message, state.stage.inHand = some (other, message))) :
    (state.put handle after stage).released = state.released + 1 := by
  apply WeakTable.ncard_stale_drop tabled.injective own was
  · rw [mem_liveHandles_put_self found]
    rintro (held | ⟨message, hand⟩)
    · rw [gone] at held
      contradiction
    · exact free message hand
  · intro other different
    exact (mem_liveHandles_put different (others other different)).symm

theorem ServerState.Bounded.put (bounded : state.Bounded)
    (live : (state.put handle after stage).liveHandles = state.liveHandles)
    (runs : stage.running = true → state.stage.running = true) :
    (state.put handle after stage).Bounded := by
  intro running
  rw [live]
  exact bounded (runs running)

end Put

theorem Tabled.release_iff (tabled : Tabled state) (bounded : state.Bounded) {handle : Nat}
    {target after : PacketHandle} (found : state.handles[handle]? = some target)
    (held : target.held = true) (gone : after.held = false)
    (later : Tabled (state.put handle after state.stage)) :
    (state.put handle after state.stage).Bounded ↔ state.Spares (.release handle) := by
  have was : handle ∈ state.liveHandles := mem_liveHandles.mpr (Or.inl ⟨target, found, held⟩)
  by_cases hand : ∃ message, state.stage.inHand = some (handle, message)
  · have live : (state.put handle after state.stage).liveHandles = state.liveHandles :=
      liveHandles_put found was (Or.inr hand) fun _ _ => Iff.rfl
    exact iff_of_true (bounded.put live id) fun _ => Or.inl hand
  · have free : ∀ message, state.stage.inHand ≠ some (handle, message) :=
      fun message here => hand ⟨message, here⟩
    have more := tabled.released_put found (tabled.held handle target found held) was gone free
      fun _ _ => Iff.rfl
    rw [later.bounded_iff, more]
    constructor
    · intro few running
      exact Or.inr (Nat.le_of_succ_le_succ (few running))
    · intro spares running
      exact Nat.succ_le_succ ((spares running).resolve_left hand)

/-- `input` was called, and the loop goes on without the connection in hand. -/
theorem Tabled.feed_iff (tabled : Tabled state) (bounded : state.Bounded) {admission : Admission}
    {handle : Nat} {message : UdpMessage} {target after : PacketHandle}
    (here : state.stage = .feeding admission handle message)
    (found : state.handles[handle]? = some target) (held : after.held = target.held)
    (later : Tabled (state.put handle after (.serving admission))) :
    (state.put handle after (.serving admission)).Bounded ↔
      target.held = true ∨ state.released = 0 := by
  have was : handle ∈ state.liveHandles := mem_liveHandles.mpr (Or.inr ⟨message, by rw [here]; rfl⟩)
  have others : ∀ other, other ≠ handle →
      ((∃ message, (Stage.serving admission).inHand = some (other, message)) ↔
        ∃ message, state.stage.inHand = some (other, message)) := by
    intro other different
    rw [here]
    constructor
    · rintro ⟨_, ⟨⟩⟩
    · rintro ⟨_, ⟨⟩⟩
      exact absurd rfl different
  have runs : state.stage.running = true := by
    rw [here]
    rfl
  by_cases taken : target.held = true
  · have live := liveHandles_put found was (Or.inl (held.trans taken)) others
    exact iff_of_true (bounded.put live fun _ => runs) (Or.inl taken)
  · obtain ⟨known, again, own⟩ := tabled.known _ _ (tabled.feeding admission handle message here)
    rw [found] at again
    obtain rfl := Option.some.inj again
    have entry : state.udpSessions target.sessionId = some handle := by
      rw [own]
      exact tabled.feeding admission handle message here
    have more := tabled.released_put found entry was (held.trans (by simpa using taken))
      (by rintro _ ⟨⟩) others
    have none : (state.put handle after (.serving admission)).handingOver = 0 := rfl
    rw [later.bounded_iff, more, none]
    constructor
    · intro few
      have fewer := few rfl
      exact Or.inr (by omega)
    · rintro (yes | zero) _
      · exact absurd yes taken
      · omega

/-- A new connection is not in the table yet, and those in the table stay as they are. -/
theorem Tabled.released_create (tabled : Tabled state) {admission : Admission} {message : UdpMessage}
    (here : state.stage = .serving admission) (fresh : PacketHandle) :
    ({ state with handles := state.handles ++ [fresh] }.enter
      (.handing admission state.handles.length message)).released = state.released := by
  refine congrArg Set.ncard (WeakTable.stale_congr ?_).symm
  intro id handle entry
  obtain ⟨target, found, _⟩ := tabled.known id handle entry
  have inside := (List.getElem?_eq_some_iff.mp found).1
  rw [mem_liveHandles, mem_liveHandles]
  simp only [ServerState.enter, List.getElem?_append_left inside, here]
  constructor
  · rintro (held | ⟨_, ⟨⟩⟩)
    exact Or.inl held
  · rintro (held | ⟨_, hand⟩)
    · exact Or.inl held
    · cases hand
      exact absurd inside (Nat.lt_irrefl _)

theorem Tabled.create_bounded (tabled : Tabled state) (bounded : state.Bounded) {admission : Admission}
    {message : UdpMessage} (here : state.stage = .serving admission) (fresh : PacketHandle)
    (later : Tabled ({ state with handles := state.handles ++ [fresh] }.enter
      (.handing admission state.handles.length message))) :
    ({ state with handles := state.handles ++ [fresh] }.enter
      (.handing admission state.handles.length message)).Bounded := by
  rw [later.bounded_iff, tabled.released_create here fresh, handingOver_handing rfl]
  intro _
  have few := tabled.bounded_iff.mp bounded (by rw [here]; rfl)
  rw [handingOver_eq_zero (by simp [here])] at few
  omega

/-- An announcement takes the entry of its id over if there is one; it can only be a
released one. -/
theorem Tabled.announce_iff (tabled : Tabled state) (bounded : state.Bounded) {admission : Admission}
    {handle : Nat} {message : UdpMessage} (here : state.stage = .handing admission handle message)
    (later : Tabled (state.announce config admission handle message)) :
    (state.announce config admission handle message).Bounded ↔ state.Spares (.hand true) := by
  obtain ⟨⟨mine, there, session, _⟩, alone⟩ := tabled.handing admission handle message here
  have was : handle ∈ state.liveHandles := mem_liveHandles.mpr (Or.inr ⟨message, by rw [here]; rfl⟩)
  have live : (state.announce config admission handle message).liveHandles = state.liveHandles := by
    ext other
    by_cases same : other = handle
    · subst same
      exact iff_of_true (mem_liveHandles.mpr (Or.inr ⟨message, rfl⟩)) was
    · rw [mem_liveHandles, mem_liveHandles, here]
      simp only [ServerState.announce, ServerState.emit, ServerState.enter,
        List.getElem?_modify_ne _ _ (Ne.symm same)]
      rfl
  have taken : (state.announce config admission handle message).released =
      (WeakTable.stale state.udpSessions state.liveHandles \ {message.sessionId}).ncard := by
    rw [ServerState.released, live]
    exact congrArg Set.ncard (WeakTable.stale_update was)
  have calm : (state.announce config admission handle message).handingOver = 0 := rfl
  have few := tabled.bounded_iff.mp bounded (by rw [here]; rfl)
  rw [handingOver_handing here] at few
  rw [later.bounded_iff, taken, calm]
  have spares : state.Spares (.hand true) ↔
      state.udpSessions message.sessionId ≠ none ∨ state.released ≤ 1 := by
    constructor
    · intro spares
      exact spares admission handle message here
    · rintro spares _ _ _ again
      rw [here] at again
      cases again
      exact spares
  rw [spares]
  cases entry : state.udpSessions message.sessionId with
  | none =>
    have absent : message.sessionId ∉ WeakTable.stale state.udpSessions state.liveHandles := by
      rintro ⟨_, found, _⟩
      rw [entry] at found
      contradiction
    rw [Set.sdiff_singleton_eq_self absent]
    constructor
    · intro bound
      exact Or.inr (bound rfl)
    · rintro (some | bound) _
      · exact absurd rfl some
      · exact bound
  | some old =>
    have dead : message.sessionId ∈ WeakTable.stale state.udpSessions state.liveHandles := by
      refine ⟨old, entry, fun lives => ?_⟩
      rcases mem_liveHandles.mp lives with ⟨target, found, held⟩ | ⟨_, hand⟩
      · obtain ⟨known, again, own⟩ := tabled.known _ old entry
        rw [found] at again
        obtain rfl := Option.some.inj again
        exact alone old target found held own
      · rw [here] at hand
        obtain ⟨rfl, _⟩ := Prod.mk.inj (Option.some.inj hand)
        exact tabled.unannounced admission _ message here _ entry
    have fewer := Set.ncard_sdiff_singleton_add_one dead (Set.toFinite _)
    refine iff_of_true (fun _ => ?_) (Or.inl (Option.some_ne_none old))
    unfold ServerState.released at few
    omega

theorem ServerState.Bounded.route (bounded : state.Bounded) {admission : Admission} {handle : Nat}
    {message : UdpMessage} (here : state.stage = .serving admission)
    (found : state.upgrade message.sessionId = some handle) :
    (state.enter (.feeding admission handle message)).Bounded := by
  obtain ⟨_, target, there, held⟩ := upgrade_eq_some.mp found
  have live : (state.enter (.feeding admission handle message)).liveHandles = state.liveHandles := by
    ext other
    rw [mem_liveHandles, mem_liveHandles, here]
    constructor
    · rintro (held | ⟨_, hand⟩)
      · exact Or.inl held
      · cases hand
        exact Or.inl ⟨target, there, held⟩
    · rintro (held | ⟨_, ⟨⟩⟩)
      exact Or.inl held
  intro _
  rw [live]
  exact bounded (by rw [here]; rfl)

/-- The outcome of `feed` decides whether the loop goes on. -/
theorem input_outcome {admission : Admission} {handle : Nat} {now : Instant} {message : UdpMessage}
    (called : state.input admission handle now message = some next) :
    ∃ target, state.handles[handle]? = some target ∧
      ((next.stage.running = false ∧
          ∀ packet defragger, target.defragger.feed now message ≠ some (.ok packet, defragger)) ∨
        ∃ packet after, target.defragger.feed now message = some (.ok packet, after.defragger) ∧
          after.held = target.held ∧ next = state.put handle after (.serving admission)) := by
  unfold ServerState.input at called
  obtain ⟨target, found, rfl⟩ := Option.map_eq_some_iff.mp called
  refine ⟨target, found, ?_⟩
  split
  · rename_i panics
    exact Or.inl ⟨rfl, by simp [panics]⟩
  · rename_i error defragger read
    exact Or.inl ⟨rfl, by simp [read]⟩
  · rename_i packet defragger read
    exact Or.inr ⟨packet, { target with defragger, incoming := _ }, read, rfl, rfl⟩

/-- What a step does to the bound: it is kept exactly by the steps that spare it. -/
theorem Tabled.step_iff {action : ServerAction} (tabled : Tabled state) (bounded : state.Bounded)
    (stepped : serverStep config state action = some next) :
    next.Bounded ↔ state.Spares action := by
  have later := tabled.step stepped
  cases serverStep_rule stepped with
  | stopped here stops =>
    refine iff_of_true (bounded_of_ended rfl) ?_
    cases stops <;> exact trivial
  | connected here => exact iff_of_true (bounded.enter here rfl rfl rfl) trivial
  | accepted here => exact iff_of_true (bounded.enter here rfl rfl rfl) trivial
  | acceptedAgain here => exact iff_of_true (bounded.enter here rfl rfl rfl) trivial
  | first request here =>
    obtain ⟨handles, sessions, _, calm, _⟩ := firstRequest_stage config state request
    refine iff_of_true (bounded.quiet handles sessions ?_ ?_) trivial
    · rw [calm, here]
      rfl
    · rw [here]
      exact fun _ => rfl
  | masqueraded request here =>
    exact iff_of_true (bounded.quiet rfl rfl (by rw [here]; rfl) fun _ => by rw [here]; rfl) trivial
  | responded admission here =>
    exact iff_of_true (bounded.quiet rfl rfl (by rw [here]; rfl) fun _ => by rw [here]; rfl) trivial
  | unanswered admission text here => exact iff_of_true (bounded_of_ended rfl) trivial
  | finished admission here => exact iff_of_true (bounded.enter here rfl rfl rfl) trivial
  | controlled admission here => exact iff_of_true bounded trivial
  | spawned admission here => exact iff_of_true (bounded.quiet rfl rfl rfl id) trivial
  | routed admission bytes message handle here read found =>
    exact iff_of_true (bounded.route here found) trivial
  | created admission bytes message here read missing =>
    exact iff_of_true (tabled.create_bounded bounded here _ later) trivial
  | announced admission handle message here => exact tabled.announce_iff bounded here later
  | refused admission handle message here => exact iff_of_true (bounded_of_ended rfl) trivial
  | fed admission handle message now next here called =>
    have spares : state.Spares (.feed now) ↔ ∀ target, state.handles[handle]? = some target →
        target.held = true ∨ state.released = 0 ∨
          ∀ packet defragger, target.defragger.feed now message ≠ some (.ok packet, defragger) := by
      constructor
      · intro spares target
        exact spares admission handle message target here
      · rintro spares _ _ _ target again
        rw [here] at again
        cases again
        exact spares target
    obtain ⟨target, found, ended | ⟨packet, after, accepted, held, rfl⟩⟩ := input_outcome called
    · obtain ⟨halted, refused⟩ := ended
      refine iff_of_true (fun running => absurd running (by rw [halted]; decide)) (spares.mpr ?_)
      intro same again
      rw [found] at again
      cases Option.some.inj again
      exact Or.inr (Or.inr refused)
    · rw [tabled.feed_iff bounded here found held later, spares]
      constructor
      · intro either same again
        rw [found] at again
        cases Option.some.inj again
        exact either.imp_right Or.inl
      · intro all
        rcases all target found with taken | zero | refused
        · exact Or.inl taken
        · exact Or.inr zero
        · exact absurd accepted (refused packet after.defragger)
  | task index action before after value found moved =>
    exact iff_of_true (bounded.quiet rfl rfl rfl id) trivial
  | received handle target packet rest found held queued =>
    have was : handle ∈ state.liveHandles := mem_liveHandles.mpr (Or.inl ⟨target, found, held⟩)
    have live : (state.put handle { target with incoming := rest } state.stage).liveHandles =
        state.liveHandles := liveHandles_put found was (Or.inl held) fun _ _ => Iff.rfl
    exact iff_of_true (bounded.put live id) trivial
  | released handle target found held => exact tabled.release_iff bounded found held rfl later

/-- A whole packet for a session, as a client may send it. -/
def sessionDatagram (id : UInt32) : Bytes := encodeMessage id 0 0 1 "v:1" [3] []

theorem decode_sessionDatagram (id : UInt32) : ∃ message,
    decodeMessage (sessionDatagram id) = .ok message ∧ message.sessionId = id ∧
      message.fragmentTotal = 1 := by
  have spelled : Varint.Spells [3] (asBytes "v:1").length := ⟨0, by decide, by decide, by decide⟩
  have decoded := decodeMessage_encodeMessage_eq (by decide) (by decide) spelled id 0 0 1 []
  have named : ∃ destination, Address.fromStr "v:1" = .ok destination := ⟨⟨"v", 1, by decide⟩, by decide⟩
  obtain ⟨destination, named⟩ := named
  rw [named] at decoded
  exact ⟨_, decoded, rfl, rfl⟩

/-- The datagrams and releases of a client that opens the sessions one after the other,
while the router lets go of each as soon as it has it. -/
def cycling (first : Nat) : List UInt32 → List ServerAction
  | [] => []
  | id :: ids => [.datagram (.ok (sessionDatagram id)), .hand true, .feed 0, .release first] ++
      cycling (first + 1) ids

variable (config) in
/-- One round of it: nothing is left but an entry in the table. -/
theorem cycle_session {admission : Admission} (here : state.stage = .serving admission) {id : UInt32}
    (missing : state.udpSessions id = none) : ∃ next,
    run (serverStep config) state [.datagram (.ok (sessionDatagram id)), .hand true, .feed 0,
        .release state.handles.length] = some next ∧
      next.stage = .serving admission ∧
      next.udpSessions = Function.update state.udpSessions id (some state.handles.length) ∧
      next.handles.map (·.held) = state.handles.map (·.held) ++ [false] := by
  obtain ⟨message, decoded, rfl, whole⟩ := decode_sessionDatagram id
  have absent : state.upgrade message.sessionId = none := by
    rw [ServerState.upgrade, missing]
    rfl
  let opened : PacketHandle := ⟨message.sessionId, false, Defragger.default, []⟩
  let created := { state with handles := state.handles ++ [opened] }.enter
    (.handing admission state.handles.length message)
  have first : serverStep config state (.datagram (.ok (sessionDatagram message.sessionId))) =
      some created := by
    simp [serverStep, here, ServerState.receiveDatagram, decoded, absent, created, opened]
  let announced := created.announce config admission state.handles.length message
  have second : serverStep config created (.hand true) = some announced := rfl
  have taken : announced.handles = state.handles ++ [{ opened with held := true }] := by
    simp [announced, created, ServerState.announce, ServerState.emit, ServerState.enter,
      List.modify_eq_set_getElem?]
  let full : PacketHandle :=
    { opened with held := true, incoming := [⟨message.data, message.destination⟩] }
  let fed := { announced with handles := state.handles ++ [full] }.enter (.serving admission)
  have third : serverStep config announced (.feed 0) = some fed := by
    change announced.input admission state.handles.length 0 message = some fed
    simp [ServerState.input, taken, Defragger.feed, whole, opened, full, fed, incomingCapacity]
  have fourth : serverStep config fed (.release state.handles.length) =
      some { fed with handles := state.handles ++ [{ full with held := false }] } := by
    simp [serverStep, fed, ServerState.enter, full]
  refine ⟨_, run_cons.mpr ⟨_, first, run_cons.mpr ⟨_, second, run_cons.mpr ⟨_, third,
    run_cons.mpr ⟨_, fourth, rfl⟩⟩⟩⟩, rfl, rfl, ?_⟩
  rw [List.map_append]
  rfl

/-- Nothing is live if the router holds nothing and the loop has nothing in hand. -/
theorem liveHandles_eq_empty (unheld : ∀ held ∈ state.handles.map (·.held), held = false)
    (free : state.stage.inHand = none) : state.liveHandles = ∅ := by
  apply Set.eq_empty_of_forall_notMem
  intro handle live
  rcases mem_liveHandles.mp live with ⟨target, found, taken⟩ | ⟨_, hand⟩
  · have held := unheld _ (List.mem_map_of_mem (List.mem_of_getElem? found))
    rw [taken] at held
    contradiction
  · rw [free] at hand
    contradiction

theorem cycle_sessions {admission : Admission} (here : state.stage = .serving admission)
    (unheld : ∀ held ∈ state.handles.map (·.held), held = false) {ids : List UInt32} (distinct : ids.Nodup)
    (missing : ∀ id ∈ ids, state.udpSessions id = none) : ∃ next,
    run (serverStep config) state (cycling state.handles.length ids) = some next ∧
      next.stage = .serving admission ∧ (∀ held ∈ next.handles.map (·.held), held = false) ∧
      (WeakTable.entries next.udpSessions).ncard =
        (WeakTable.entries state.udpSessions).ncard + ids.length := by
  induction ids generalizing state with
  | nil => exact ⟨state, rfl, here, unheld, rfl⟩
  | cons id ids ih =>
    obtain ⟨fresh, distinct⟩ := List.nodup_cons.mp distinct
    obtain ⟨middle, first, serving, sessions, handles⟩ :=
      cycle_session config here (missing id List.mem_cons_self)
    have longer : middle.handles.length = state.handles.length + 1 := by
      simpa using congrArg List.length handles
    have others : ∀ other ∈ ids, middle.udpSessions other = none := by
      intro other member
      have different : other ≠ id := fun same => fresh (same ▸ member)
      rw [sessions, Function.update_of_ne different]
      exact missing other (List.mem_cons_of_mem _ member)
    have unheld' : ∀ held ∈ middle.handles.map (·.held), held = false := by
      intro held member
      rw [handles] at member
      rcases List.mem_append.mp member with old | new
      · exact unheld held old
      · exact List.mem_singleton.mp new
    obtain ⟨next, later, stage, free, size⟩ := ih serving unheld' distinct others
    refine ⟨next, ?_, stage, free, ?_⟩
    · rw [cycling, ← longer]
      exact run_trans first later
    · have new : id ∉ WeakTable.entries state.udpSessions := by
        rintro ⟨handle, entry⟩
        rw [missing id List.mem_cons_self] at entry
        contradiction
      rw [size, sessions, WeakTable.entries_update, Set.ncard_insert_of_notMem new (Set.toFinite _),
        List.length_cons]
      omega

/-- Nothing stops the table from growing: every id a client has not used before leaves an
entry, with no connection alive. -/
theorem released_sessions_pile_up {admission : Admission} (here : state.stage = .serving admission)
    (unheld : ∀ held ∈ state.handles.map (·.held), held = false) {ids : List UInt32} (distinct : ids.Nodup)
    (missing : ∀ id ∈ ids, state.udpSessions id = none) : ∃ actions next,
    run (serverStep config) state actions = some next ∧ next.stage = .serving admission ∧
      next.liveHandles = ∅ ∧ next.tableSize = state.tableSize + ids.length := by
  obtain ⟨next, execution, stage, free, size⟩ := cycle_sessions here unheld distinct missing
  exact ⟨_, next, execution, stage, liveHandles_eq_empty free (by rw [stage]; rfl), size⟩

theorem bounded_initial (controller : Option CongestionKind) :
    (ServerState.initial controller).Bounded := by
  intro _
  have empty : WeakTable.entries (ServerState.initial controller).udpSessions = ∅ :=
    Set.eq_empty_of_forall_notMem fun _ ⟨_, entry⟩ => nomatch entry
  rw [ServerState.tableSize, empty, Set.ncard_empty]
  exact Nat.zero_le _

/-- The table stays within the bound exactly in the runs in which every step spares it:
entries are only ever added, so it is the released ids that must not pile up. -/
theorem sessions_bounded_iff_spared {controller : Option CongestionKind} {actions : List ServerAction}
    (execution : run (serverStep config) (.initial controller) actions = some state) :
    Always (serverStep config) ServerState.Bounded (.initial controller) actions ↔
      Meets (serverStep config) ServerState.Spares (.initial controller) actions :=
  always_iff_meets Tabled.step (fun tabled bounded stepped => tabled.step_iff bounded stepped)
    execution (Tabled.initial controller) (bounded_initial controller)

/-- A first session is opened after the login. -/
theorem sessions_bounded_iff_spared_opened :
    let config : Config :=
      ⟨[⟨"finn", "tide"⟩], ⟨0, 0, false⟩, ⟨.v4 ⟨[10, 0, 0, 6], rfl⟩, 9⟩, 64⟩
    let request : Request := ⟨"POST", some "hysteria", "/auth", [("hysteria-auth", asBytes "tide")]⟩
    let actions : List ServerAction := [.connect (.ok ()), .accept (.ok true), .resolve (.ok request),
      .respond (.ok ()), .finish (.ok ()), .datagram (.ok [0, 0, 0, 1, 0, 1, 0, 1, 3, 118, 58, 49, 8])]
    ∃ state, run (serverStep config) (.initial (some .bbr)) actions = some state ∧
      Always (serverStep config) ServerState.Bounded (.initial (some .bbr)) actions := by
  intro config request actions
  have traced : (run (serverStep config) (.initial (some .bbr)) actions).isSome = true := by decide
  obtain ⟨state, execution⟩ := Option.isSome_iff_exists.mp traced
  refine ⟨state, execution, (sessions_bounded_iff_spared execution).mpr ?_⟩
  exact ⟨trivial, fun _ _ => ⟨trivial, fun _ _ => ⟨trivial, fun _ _ => ⟨trivial, fun _ _ =>
    ⟨trivial, fun _ _ => ⟨trivial, fun _ _ => trivial⟩⟩⟩⟩⟩⟩

/-- A client opens two sessions one after the other, and the router lets go of both. -/
theorem sessions_cycled :
    let config : Config :=
      ⟨[⟨"erin", "open"⟩], ⟨0, 0, false⟩, ⟨.v4 ⟨[10, 0, 0, 5], rfl⟩, 9⟩, 64⟩
    let request : Request := ⟨"POST", some "hysteria", "/auth", [("hysteria-auth", asBytes "open")]⟩
    let actions : List ServerAction := [.connect (.ok ()), .accept (.ok true), .resolve (.ok request),
      .respond (.ok ()), .finish (.ok ()),
      .datagram (.ok [0, 0, 0, 1, 0, 1, 0, 1, 3, 116, 58, 49, 8]), .hand true, .feed 0, .release 0,
      .datagram (.ok [0, 0, 0, 2, 0, 1, 0, 1, 3, 116, 58, 49, 8]), .hand true, .feed 1, .release 1]
    ∃ state, run (serverStep config) (.initial (some .bbr)) actions = some state ∧
      state.stage.running = true ∧ state.liveHandles = ∅ ∧ ¬ state.Bounded := by
  intro config request actions
  have traced : (run (serverStep config) (.initial (some .bbr)) actions).map (fun state =>
      ((state.udpSessions 1, state.udpSessions 2), state.handles.map (·.held), state.stage.inHand.isNone,
        state.stage.running)) = some ((some 0, some 1), [false, false], true, true) := by decide
  obtain ⟨state, execution, same⟩ := Option.map_eq_some_iff.mp traced
  obtain ⟨entries, same⟩ := Prod.mk.inj same
  obtain ⟨first, second⟩ := Prod.mk.inj entries
  obtain ⟨held, same⟩ := Prod.mk.inj same
  obtain ⟨free, running⟩ := Prod.mk.inj same
  have dead : state.liveHandles = ∅ :=
    liveHandles_eq_empty (by simp [held]) (Option.isNone_iff_eq_none.mp free)
  refine ⟨state, execution, running, dead, fun bounded => ?_⟩
  have both : ({1, 2} : Set UInt32) ⊆ WeakTable.entries state.udpSessions := by
    rintro id (rfl | rfl)
    · exact ⟨0, first⟩
    · exact ⟨1, second⟩
  have two : ({1, 2} : Set UInt32).ncard = 2 := Set.ncard_pair (by decide)
  have many := Set.ncard_le_ncard both (Set.toFinite _)
  have few := bounded running
  rw [ServerState.tableSize, dead, Set.ncard_empty] at few
  omega

end SingQuic.Hysteria2
