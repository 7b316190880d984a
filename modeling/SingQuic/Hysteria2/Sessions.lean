import SingQuic.Hysteria2.SessionRules
import SingQuic.Lib.Table

/-! At most one packet connection of a session is live. The loop keeps weak
references only, so the router decides when a session ends, between any two steps
of the loop. What counts is that the loop itself has a reference from the lookup of
a connection to the end of `input` on it. -/
namespace SingQuic.Hysteria2
open Wire

variable {config : Config} {state next : ServerState}

/-- Every connection someone has a reference to can be found by the loop, or is
the one it is about to announce. -/
structure Registered (state : ServerState) : Prop where
  known : ∀ id handle, state.udpSessions id = some handle →
    ∃ target, state.handles[handle]? = some target ∧ target.sessionId = id
  held : ∀ (handle : Nat) (target : PacketHandle), state.handles[handle]? = some target →
    target.held = true → state.udpSessions target.sessionId = some handle
  handing : ∀ admission handle message, state.stage = .handing admission handle message →
    (∃ target, state.handles[handle]? = some target ∧ target.sessionId = message.sessionId ∧
      target.held = false) ∧
    ∀ (other : Nat) (target : PacketHandle), state.handles[other]? = some target →
      target.held = true → target.sessionId ≠ message.sessionId
  feeding : ∀ admission handle message, state.stage = .feeding admission handle message →
    state.udpSessions message.sessionId = some handle

theorem Stage.inHand_cases {stage : Stage} {handle : Nat} {message : UdpMessage}
    (here : stage.inHand = some (handle, message)) :
    (∃ admission, stage = .handing admission handle message) ∨
      ∃ admission, stage = .feeding admission handle message := by
  unfold Stage.inHand at here
  split at here
  · obtain ⟨rfl, rfl⟩ := Prod.mk.inj (Option.some.inj here)
    exact Or.inl ⟨_, rfl⟩
  · obtain ⟨rfl, rfl⟩ := Prod.mk.inj (Option.some.inj here)
    exact Or.inr ⟨_, rfl⟩
  · contradiction

theorem live_iff_exists {handle : Nat} : state.live handle = true ↔
    (∃ target, state.handles[handle]? = some target ∧ target.held = true) ∨
      ∃ message, state.stage.inHand = some (handle, message) := by
  simp only [ServerState.live, Bool.or_eq_true, Option.any_eq_true, decide_eq_true_eq, Prod.exists]
  constructor
  · rintro (held | ⟨other, message, hand, rfl⟩)
    · exact Or.inl held
    · exact Or.inr ⟨message, hand⟩
  · rintro (held | ⟨message, hand⟩)
    · exact Or.inl held
    · exact Or.inr ⟨handle, message, hand, rfl⟩

theorem live_iff {handle : Nat} {target : PacketHandle} (found : state.handles[handle]? = some target) :
    state.live handle = true ↔
      target.held = true ∨ ∃ message, state.stage.inHand = some (handle, message) := by
  have held : (∃ other, state.handles[handle]? = some other ∧ other.held = true) ↔
      target.held = true := by
    simp only [found, Option.some.injEq, exists_eq_left']
  rw [live_iff_exists, held]

/-- At most one connection of a session is live. -/
theorem Registered.unique (registered : Registered state) {first second : Nat}
    {one two : PacketHandle} (left : state.handles[first]? = some one)
    (right : state.handles[second]? = some two) (alive : state.live first = true)
    (other : state.live second = true) (same : one.sessionId = two.sessionId) : first = second := by
  have mixed : ∀ {a b x y message}, state.handles[a]? = some x → state.handles[b]? = some y →
      x.held = true → state.stage.inHand = some (b, message) → x.sessionId = y.sessionId → a = b := by
    intro a b x y message here there held hand same
    have found := registered.held a x here held
    rcases Stage.inHand_cases hand with ⟨admission, stage⟩ | ⟨admission, stage⟩
    · obtain ⟨⟨target, mine, session, _⟩, none⟩ := registered.handing _ _ _ stage
      rw [there] at mine
      obtain rfl := Option.some.inj mine
      exact absurd (same.trans session) (none a x here held)
    · obtain ⟨target, mine, session⟩ := registered.known _ _ (registered.feeding _ _ _ stage)
      rw [there] at mine
      obtain rfl := Option.some.inj mine
      rw [same, session, registered.feeding _ _ _ stage] at found
      exact (Option.some.inj found).symm
  rcases (live_iff left).mp alive with held | ⟨message, hand⟩
  · rcases (live_iff right).mp other with held' | ⟨message, hand⟩
    · have found := registered.held first one left held
      rw [same, registered.held second two right held'] at found
      exact (Option.some.inj found).symm
    · exact mixed left right held hand same
  · rcases (live_iff right).mp other with held' | ⟨message', hand'⟩
    · exact (mixed right left held' hand same.symm).symm
    · rw [hand] at hand'
      exact (Prod.mk.inj (Option.some.inj hand')).1

theorem upgrade_eq_some {id : UInt32} {handle : Nat} : state.upgrade id = some handle ↔
    state.udpSessions id = some handle ∧
      ∃ target, state.handles[handle]? = some target ∧ target.held = true := by
  simp only [ServerState.upgrade, Option.filter_eq_some_iff, Option.any_eq_true]

/-- With nothing in hand, the loop finds exactly the live connection of a session. -/
theorem Registered.liveOf (registered : Registered state) (free : state.stage.inHand = none)
    (id : UInt32) : state.liveOf id = state.upgrade id := by
  have alive {handle : Nat} {target : PacketHandle} (found : state.handles[handle]? = some target) :
      state.live handle = true ↔ target.held = true := by
    rw [live_iff found, free]
    simp
  cases upgraded : state.upgrade id with
  | some handle =>
    obtain ⟨session, target, found, held⟩ := upgrade_eq_some.mp upgraded
    obtain ⟨known, same, mine⟩ := registered.known _ _ session
    rw [found] at same
    obtain rfl := Option.some.inj same
    have bound := (List.getElem?_eq_some_iff.mp found).1
    have chosen : ((List.range state.handles.length).find? fun other =>
        state.live other && (state.handles[other]?).any (·.sessionId = id)).isSome := by
      rw [List.find?_isSome]
      exact ⟨handle, by simpa using bound, by simp [(alive found).mpr held, found, mine]⟩
    obtain ⟨other, first⟩ := Option.isSome_iff_exists.mp chosen
    have fits := List.find?_some first
    simp only [Bool.and_eq_true, Option.any_eq_true, decide_eq_true_eq] at fits
    obtain ⟨lives, target', found', mine'⟩ := fits
    rw [ServerState.liveOf, first, registered.unique found' found lives ((alive found).mpr held)
      (mine'.trans mine.symm)]
  | none =>
    rw [ServerState.liveOf, List.find?_eq_none]
    intro handle _ fits
    simp only [Bool.and_eq_true, Option.any_eq_true, decide_eq_true_eq] at fits
    obtain ⟨lives, target, found, rfl⟩ := fits
    have held := (alive found).mp lives
    rw [upgrade_eq_some.mpr ⟨registered.held _ _ found held, target, found, held⟩] at upgraded
    contradiction

/-- The same connections of the same sessions, none of them taken up by the router. -/
structure Faded (before after : List PacketHandle) : Prop where
  length : after.length = before.length
  same : ∀ (handle : Nat) (old new : PacketHandle), before[handle]? = some old →
    after[handle]? = some new → new.sessionId = old.sessionId ∧ (new.held = true → old.held = true)

theorem Faded.refl (handles : List PacketHandle) : Faded handles handles := by
  refine ⟨rfl, fun handle old new here there => ?_⟩
  rw [here] at there
  obtain rfl := Option.some.inj there
  exact ⟨rfl, id⟩

theorem Faded.set {handles : List PacketHandle} {handle : Nat} {target after : PacketHandle}
    (found : handles[handle]? = some target) (session : after.sessionId = target.sessionId)
    (held : after.held = true → target.held = true) : Faded handles (handles.set handle after) := by
  refine ⟨by simp, fun other old new here there => ?_⟩
  rcases Table.of_set there with ⟨rfl, rfl⟩ | ⟨_, unchanged⟩
  · obtain rfl := Option.some.inj (found.symm.trans here)
    exact ⟨session, held⟩
  · exact (Faded.refl handles).same other old new here unchanged

theorem Faded.before {before after : List PacketHandle} {handle : Nat} {new : PacketHandle}
    (faded : Faded before after) (here : after[handle]? = some new) :
    ∃ old, before[handle]? = some old ∧ new.sessionId = old.sessionId ∧
      (new.held = true → old.held = true) := by
  have bound := (List.getElem?_eq_some_iff.mp here).1
  rw [faded.length] at bound
  have there := List.getElem?_eq_getElem bound
  exact ⟨_, there, faded.same handle _ new there here⟩

theorem Faded.after {before after : List PacketHandle} {handle : Nat} {old : PacketHandle}
    (faded : Faded before after) (here : before[handle]? = some old) :
    ∃ new, after[handle]? = some new ∧ new.sessionId = old.sessionId ∧
      (new.held = true → old.held = true) := by
  have bound := (List.getElem?_eq_some_iff.mp here).1
  rw [← faded.length] at bound
  have there := List.getElem?_eq_getElem bound
  exact ⟨_, there, faded.same handle old _ here there⟩

/-- Letting go of connections, and of the one in hand, keeps the rest findable. -/
theorem Registered.fade (registered : Registered state) (faded : Faded state.handles next.handles)
    (sessions : next.udpSessions = state.udpSessions)
    (stage : next.stage = state.stage ∨ next.stage.inHand = none) : Registered next := by
  refine ⟨fun id handle found => ?_, fun handle new here held => ?_,
    fun admission handle message here => ?_, fun admission handle message here => ?_⟩
  · rw [sessions] at found
    obtain ⟨old, there, mine⟩ := registered.known id handle found
    obtain ⟨new, here, session, _⟩ := faded.after there
    exact ⟨new, here, session.trans mine⟩
  · obtain ⟨old, there, session, weaker⟩ := faded.before here
    rw [sessions, session]
    exact registered.held handle old there (weaker held)
  · rcases stage with same | calm
    · rw [same] at here
      obtain ⟨⟨old, there, mine, free⟩, alone⟩ := registered.handing _ _ _ here
      obtain ⟨new, after, session, weaker⟩ := faded.after there
      refine ⟨⟨new, after, session.trans mine, ?_⟩, fun other target found held => ?_⟩
      · by_contra held
        rw [weaker (by simpa using held)] at free
        contradiction
      · obtain ⟨earlier, before, session, weaker⟩ := faded.before found
        rw [session]
        exact alone other earlier before (weaker held)
    · rw [here] at calm
      contradiction
  · rcases stage with same | calm
    · rw [sessions]
      exact registered.feeding _ _ _ (same ▸ here)
    · rw [here] at calm
      contradiction

theorem Registered.create (registered : Registered state) {admission : Admission} {message : UdpMessage}
    (missing : state.upgrade message.sessionId = none) :
    Registered ({ state with handles := state.handles ++
        [(⟨message.sessionId, false, Defragger.default, []⟩ : PacketHandle)] }.enter
      (.handing admission state.handles.length message)) := by
  have earlier {handle : Nat} {target : PacketHandle} (held : target.held = true)
      (found : (state.handles ++ [(⟨message.sessionId, false, Defragger.default, []⟩ :
        PacketHandle)])[handle]? = some target) : state.handles[handle]? = some target := by
    rcases Table.of_concat found with old | ⟨_, rfl⟩
    · exact old
    · contradiction
  refine ⟨fun id handle found => ?_, fun handle target found held => ?_, ?_, ?_⟩
  · obtain ⟨target, there, mine⟩ := registered.known id handle found
    exact ⟨target, Table.kept (List.prefix_append _ _) there, mine⟩
  · exact registered.held handle target (earlier held found) held
  · rintro _ _ _ ⟨⟩
    refine ⟨⟨_, List.getElem?_concat_length, rfl, rfl⟩, fun other target found held same => ?_⟩
    have there := earlier held found
    have session := registered.held other target there held
    rw [same] at session
    rw [upgrade_eq_some.mpr ⟨session, target, there, held⟩] at missing
    contradiction
  · rintro _ _ _ ⟨⟩

theorem Registered.announce (registered : Registered state) {admission : Admission} {handle : Nat}
    {message : UdpMessage} (here : state.stage = .handing admission handle message) :
    Registered (state.announce config admission handle message) := by
  obtain ⟨⟨mine, there, session, _⟩, alone⟩ := registered.handing _ _ _ here
  have inside (other : Nat) : (state.announce config admission handle message).handles[other]? =
      if handle = other then some { mine with held := true } else state.handles[other]? := by
    simp only [ServerState.announce, ServerState.emit, ServerState.enter, List.getElem?_modify]
    split
    · rename_i own
      subst own
      rw [there]
      rfl
    · cases state.handles[other]? <;> rfl
  have sessions (id : UInt32) : (state.announce config admission handle message).udpSessions id =
      if id = message.sessionId then some handle else state.udpSessions id := by
    simp only [ServerState.announce, ServerState.emit, ServerState.enter, Function.update_apply]
  refine ⟨fun id other found => ?_, fun other target found held => ?_, ?_, ?_⟩
  · rw [sessions] at found
    rw [inside]
    split at found
    · rename_i own
      obtain rfl := Option.some.inj found
      exact ⟨_, if_pos rfl, session.trans own.symm⟩
    · obtain ⟨target, known, own⟩ := registered.known id other found
      split
      · rename_i same
        subst same
        rw [there] at known
        obtain rfl := Option.some.inj known
        exact ⟨_, rfl, own⟩
      · exact ⟨target, known, own⟩
  · rw [inside] at found
    rw [sessions]
    split at found
    · rename_i same
      subst same
      obtain rfl := Option.some.inj found
      rw [if_pos session]
    · rw [if_neg (alone other target found held)]
      exact registered.held other target found held
  · rintro _ _ _ ⟨⟩
  · rintro _ _ _ ⟨⟩
    rw [sessions, if_pos rfl]

theorem Registered.step {action : ServerAction} (registered : Registered state)
    (stepped : serverStep config state action = some next) : Registered next := by
  cases serverStep_session stepped with
  | idle _ _ handles sessions _ stage =>
    refine registered.fade (handles ▸ Faded.refl _) sessions ?_
    exact stage.imp_right fun calm => calm.2.2.1
  | router _ _ found session held _ => exact registered.fade (.set found session held) rfl (Or.inl rfl)
  | route here _ _ found =>
    refine ⟨registered.known, registered.held, ?_, ?_⟩
    · rintro _ _ _ ⟨⟩
    · rintro _ _ _ ⟨⟩
      exact (upgrade_eq_some.mp found).1
  | create _ _ _ missing => exact registered.create missing
  | announce here => exact registered.announce here
  | refuse here => exact registered.fade (Faded.refl _) rfl (Or.inr rfl)
  | feed here called =>
    obtain ⟨target, found, ⟨_, rfl⟩ | ⟨_, after, stage, _, session, held, rfl, ended⟩⟩ :=
      input_cases called
    · exact registered.fade (Faded.refl _) rfl (Or.inr rfl)
    · refine registered.fade (.set found session (fun yes => held ▸ yes)) rfl (Or.inr ?_)
      rcases ended with rfl | ⟨_, rfl⟩
      · rfl
      · rfl

end SingQuic.Hysteria2
