import SingQuic.Hysteria2.Reassembly
import SingQuic.Hysteria2.Sessions

/-! How the select loop of a connection routes UDP messages to sessions: what each
reassembly table has seen, in which order, and what the router is told. -/
namespace SingQuic.Hysteria2
open Wire

variable {config : Config} {state next : ServerState}

/-- The calls made on one of the connections. -/
def fedTo (fed : List (Nat × Instant × UdpMessage)) (handle : Nat) : History :=
  (fed.filter fun entry => entry.1 = handle).map Prod.snd

/-- All that may be missing at the end of a record is what the loop has in hand,
or what it had in hand when the router was gone. -/
def Remainder (stage : Stage) (pending : Option α) (rest : List α) : Prop :=
  rest = pending.toList ∨ stage = .ended (.error .closed) ∧ rest.length = 1

/-- How the packet connections follow from the messages that opened a session and
the calls of `feed`. -/
structure Tables (opened : List UdpMessage) (fed : List (Nat × Instant × UdpMessage))
    (handles : List PacketHandle) : Prop where
  created : handles.map (·.sessionId) = opened.map (·.sessionId)
  within : ∀ entry ∈ fed, entry.1 < handles.length
  own : ∀ entry ∈ fed, ∀ target, handles[entry.1]? = some target →
    entry.2.2.sessionId = target.sessionId
  replay : ∀ (handle : Nat) (target : PacketHandle), handles[handle]? = some target →
    ∃ outcomes, Defragger.default.feedAll (fedTo fed handle) = some (outcomes, target.defragger)

/-- How the state follows from the messages routed, the messages that opened a
session, and the calls of `feed`. -/
structure Transcript (routed : List (Nat × UdpMessage)) (opened : List UdpMessage)
    (fed : List (Nat × Instant × UdpMessage)) (state : ServerState) : Prop where
  running : state.stage ≠ .panicked
  tables : Tables opened fed state.handles
  order : ∃ rest, routed = (fed.map fun entry => (entry.1, entry.2.2)) ++ rest ∧
    Remainder state.stage state.stage.inHand rest
  announced : ∃ rest, (opened.map fun message => (message.sessionId, message.destination)) =
      state.packets ++ (rest.map fun message => (message.sessionId, message.destination)) ∧
    Remainder state.stage state.stage.opening rest

section
variable {routed : List (Nat × UdpMessage)} {opened : List UdpMessage}
  {fed : List (Nat × Instant × UdpMessage)}

theorem Stage.opening_eq_none {stage : Stage} (free : stage.inHand = none) : stage.opening = none := by
  cases stage with
  | handing => contradiction
  | _ => rfl

/-- Between two stages with nothing in hand, nothing is missing. -/
theorem Remainder.calm {before after : Stage} {pending later : Option α} {rest : List α}
    (remainder : Remainder before pending rest) (running : ∀ result, before ≠ .ended result)
    (same : pending = later) : Remainder after later rest := by
  rcases remainder with left | ⟨ended, _⟩
  · exact Or.inl (same ▸ left)
  · exact absurd ended (running _)

theorem fedTo_concat (fed : List (Nat × Instant × UdpMessage)) (entry : Nat × Instant × UdpMessage)
    (handle : Nat) : fedTo (fed ++ [entry]) handle =
      if entry.1 = handle then fedTo fed handle ++ [entry.2] else fedTo fed handle := by
  by_cases own : entry.1 = handle
  · simp [fedTo, List.filter_append, own]
  · simp [fedTo, List.filter_append, own]

theorem map_set_same {β : Type} (f : PacketHandle → β) {handles : List PacketHandle} {handle : Nat}
    {target after : PacketHandle} (found : handles[handle]? = some target) (same : f after = f target) :
    (handles.set handle after).map f = handles.map f := by
  apply List.ext_getElem?
  intro other
  simp only [List.getElem?_map, List.getElem?_set]
  split
  · rename_i own
    subst own
    rw [if_pos (List.getElem?_eq_some_iff.mp found).1, found, Option.map_some, Option.map_some, same]
  · rfl

/-- Only the sessions and the tables of the connections matter. -/
theorem Tables.congr {handles others : List PacketHandle} (tables : Tables opened fed handles)
    (same : others.map (fun target => (target.sessionId, target.defragger)) =
      handles.map fun target => (target.sessionId, target.defragger)) :
    Tables opened fed others := by
  have length : others.length = handles.length := by
    simpa using congrArg List.length same
  have before {handle : Nat} {new : PacketHandle} (here : others[handle]? = some new) :
      ∃ old, handles[handle]? = some old ∧ new.sessionId = old.sessionId ∧
        new.defragger = old.defragger := by
    have pointwise := congrArg (·[handle]?) same
    simp only [List.getElem?_map, here, Option.map_some] at pointwise
    obtain ⟨old, there, equal⟩ := Option.map_eq_some_iff.mp pointwise.symm
    obtain ⟨session, table⟩ := Prod.mk.inj equal
    exact ⟨old, there, session.symm, table.symm⟩
  refine ⟨?_, fun entry member => ?_, fun entry member new here => ?_, fun handle new here => ?_⟩
  · have sessions := congrArg (List.map Prod.fst) same
    simp only [List.map_map, Function.comp_def] at sessions
    rw [sessions]
    exact tables.created
  · rw [length]
    exact tables.within entry member
  · obtain ⟨old, there, session, _⟩ := before here
    rw [session]
    exact tables.own entry member old there
  · obtain ⟨old, there, _, table⟩ := before here
    rw [table]
    exact tables.replay handle old there

/-- A new connection has an empty table. -/
theorem Tables.create {handles : List PacketHandle} (tables : Tables opened fed handles)
    (message : UdpMessage) : Tables (opened ++ [message]) fed
      (handles ++ [⟨message.sessionId, false, Defragger.default, []⟩]) := by
  refine ⟨?_, fun entry member => ?_, fun entry member target found => ?_,
    fun handle target found => ?_⟩
  · simp only [List.map_append, tables.created, List.map_cons, List.map_nil]
  · have bound := tables.within entry member
    rw [List.length_append]
    omega
  · refine tables.own entry member target ?_
    rw [← found]
    exact (List.getElem?_append_left (tables.within entry member)).symm
  · rcases Table.of_concat found with old | ⟨rfl, rfl⟩
    · exact tables.replay handle target old
    · have unfed : fedTo fed handles.length = [] := by
        rw [fedTo, List.map_eq_nil_iff, List.filter_eq_nil_iff]
        intro entry member own
        exact absurd (tables.within entry member) (of_decide_eq_true own ▸ Nat.lt_irrefl _)
      rw [unfed]
      exact ⟨[], rfl⟩

/-- One more call on the table of one connection. -/
theorem Tables.feed {handles : List PacketHandle} (tables : Tables opened fed handles) {handle : Nat}
    {now : Instant} {message : UdpMessage} {target after : PacketHandle} {outcome : Outcome}
    (found : handles[handle]? = some target) (session : after.sessionId = target.sessionId)
    (mine : message.sessionId = target.sessionId)
    (called : target.defragger.feed now message = some (outcome, after.defragger)) :
    Tables opened (fed ++ [(handle, now, message)]) (handles.set handle after) := by
  have bound := (List.getElem?_eq_some_iff.mp found).1
  have sessions := map_set_same (·.sessionId) found session
  refine ⟨?_, fun entry member => ?_, fun entry member other here => ?_, fun other new here => ?_⟩
  · rw [sessions]
    exact tables.created
  · rw [List.length_set]
    rcases List.mem_append.mp member with earlier | last
    · exact tables.within entry earlier
    · rw [List.mem_singleton.mp last]
      exact bound
  · obtain ⟨old, there, same⟩ : ∃ old, handles[entry.1]? = some old ∧ other.sessionId = old.sessionId := by
      have pointwise := congrArg (·[entry.1]?) sessions
      simp only [List.getElem?_map, here, Option.map_some] at pointwise
      obtain ⟨old, there, equal⟩ := Option.map_eq_some_iff.mp pointwise.symm
      exact ⟨old, there, equal.symm⟩
    rw [same]
    rcases List.mem_append.mp member with earlier | last
    · exact tables.own entry earlier old there
    · rw [List.mem_singleton.mp last] at there ⊢
      rw [found] at there
      obtain rfl := Option.some.inj there
      exact mine
  · rw [fedTo_concat]
    rcases Table.of_set here with ⟨rfl, rfl⟩ | ⟨own, there⟩
    · obtain ⟨outcomes, read⟩ := tables.replay other target found
      refine ⟨outcomes ++ [outcome], ?_⟩
      rw [if_pos rfl, Defragger.feedAll_concat, read, Option.bind_some]
      dsimp only
      rw [called]
      rfl
    · rw [if_neg (Ne.symm own)]
      exact tables.replay other new there

/-- The loop leaves one stage for another, with nothing in hand before or after. -/
theorem Transcript.move (transcript : Transcript routed opened fed state)
    (handles : next.handles = state.handles) (packets : next.packets = state.packets)
    (free : state.stage.inHand = none) (open' : ∀ result, state.stage ≠ .ended result)
    (calm : next.stage.inHand = none) (running : next.stage ≠ .panicked) :
    Transcript routed opened fed next := by
  obtain ⟨rest, order, remainder⟩ := transcript.order
  obtain ⟨waiting, announced, remainder'⟩ := transcript.announced
  refine ⟨running, handles ▸ transcript.tables,
    ⟨rest, order, remainder.calm open' (free.trans calm.symm)⟩, waiting, packets ▸ announced, ?_⟩
  refine remainder'.calm open' ?_
  rw [Stage.opening_eq_none free, Stage.opening_eq_none calm]

/-- The records are complete while the loop has nothing in hand. -/
theorem Transcript.complete (transcript : Transcript routed opened fed state)
    (free : state.stage.inHand = none) (open' : ∀ result, state.stage ≠ .ended result) :
    routed = (fed.map fun entry => (entry.1, entry.2.2)) ∧
      (opened.map fun message => (message.sessionId, message.destination)) = state.packets := by
  obtain ⟨rest, order, left | ⟨ended, _⟩⟩ := transcript.order
  · obtain ⟨waiting, announced, left' | ⟨ended, _⟩⟩ := transcript.announced
    · rw [free] at left
      rw [Stage.opening_eq_none free] at left'
      subst left left'
      simp only [Option.toList_none, List.append_nil, List.map_nil] at order announced
      exact ⟨order, announced⟩
    · exact absurd ended (open' _)
  · exact absurd ended (open' _)

theorem Transcript.route (transcript : Transcript routed opened fed state) {admission : Admission}
    {handle : Nat} {message : UdpMessage} (here : state.stage = .serving admission) :
    Transcript (routed ++ [(handle, message)]) opened fed
      (state.enter (.feeding admission handle message)) := by
  obtain ⟨order, announced⟩ := transcript.complete (by rw [here]; rfl) (by simp [here])
  refine ⟨by simp [ServerState.enter], transcript.tables, ⟨[(handle, message)], by rw [order], Or.inl rfl⟩,
    [], ?_, Or.inl rfl⟩
  rw [announced]
  simp [ServerState.packets, ServerState.enter]

theorem Transcript.create (transcript : Transcript routed opened fed state) {admission : Admission}
    {message : UdpMessage} (here : state.stage = .serving admission) :
    Transcript (routed ++ [(state.handles.length, message)]) (opened ++ [message]) fed
      ({ state with handles := state.handles ++
          [(⟨message.sessionId, false, Defragger.default, []⟩ : PacketHandle)] }.enter
        (.handing admission state.handles.length message)) := by
  obtain ⟨order, announced⟩ := transcript.complete (by rw [here]; rfl) (by simp [here])
  refine ⟨by simp [ServerState.enter], transcript.tables.create message,
    ⟨[(state.handles.length, message)], by rw [order], Or.inl rfl⟩, [message], ?_, Or.inl rfl⟩
  rw [List.map_append, announced]
  simp [ServerState.packets, ServerState.enter]

/-- While a new connection waits for the router, exactly its announcement is missing. -/
theorem Transcript.waiting (transcript : Transcript routed opened fed state) {admission : Admission}
    {handle : Nat} {message : UdpMessage} (here : state.stage = .handing admission handle message) :
    routed = (fed.map fun entry => (entry.1, entry.2.2)) ++ [(handle, message)] ∧
      (opened.map fun message => (message.sessionId, message.destination)) =
        state.packets ++ [(message.sessionId, message.destination)] := by
  obtain ⟨rest, order, left | ⟨ended, _⟩⟩ := transcript.order
  · obtain ⟨waiting, announced, left' | ⟨ended, _⟩⟩ := transcript.announced
    · rw [here] at left left'
      subst left left'
      exact ⟨order, announced⟩
    · rw [here] at ended
      contradiction
  · rw [here] at ended
    contradiction

theorem Transcript.announce (transcript : Transcript routed opened fed state) {admission : Admission}
    {handle : Nat} {message : UdpMessage} (here : state.stage = .handing admission handle message) :
    Transcript routed opened fed (state.announce config admission handle message) := by
  obtain ⟨order, announced⟩ := transcript.waiting here
  refine ⟨by simp [ServerState.announce, ServerState.enter], transcript.tables.congr ?_,
    ⟨[(handle, message)], order, Or.inl rfl⟩, [], ?_, Or.inl rfl⟩
  · apply List.ext_getElem?
    intro other
    simp only [ServerState.announce, ServerState.emit, ServerState.enter, List.getElem?_map,
      List.getElem?_modify]
    cases state.handles[other]? with
    | none => rfl
    | some target =>
      simp only [Option.map_eq_map, Option.map_some]
      split <;> rfl
  · rw [announced]
    simp [ServerState.packets, ServerState.announce, ServerState.emit, ServerState.enter, Event.packet]

theorem Transcript.refuse (transcript : Transcript routed opened fed state) {admission : Admission}
    {handle : Nat} {message : UdpMessage} (here : state.stage = .handing admission handle message) :
    Transcript routed opened fed (state.fail .closed) := by
  obtain ⟨order, announced⟩ := transcript.waiting here
  exact ⟨by simp [ServerState.fail, ServerState.enter], transcript.tables,
    ⟨[(handle, message)], order, Or.inr ⟨rfl, rfl⟩⟩, [message], announced, Or.inr ⟨rfl, rfl⟩⟩

theorem Transcript.feed (transcript : Transcript routed opened fed state) (registered : Registered state)
    {admission : Admission} {handle : Nat} {now : Instant} {message : UdpMessage}
    (here : state.stage = .feeding admission handle message)
    (called : state.input admission handle now message = some next) :
    Transcript routed opened (fed ++ [(handle, now, message)]) next := by
  obtain ⟨known, there, mine⟩ := registered.known _ _ (registered.feeding _ _ _ here)
  obtain ⟨target, found, result⟩ := input_cases called
  rw [found] at there
  obtain rfl := Option.some.inj there
  obtain ⟨outcomes, read⟩ := transcript.tables.replay handle target found
  have valid : target.defragger.WellFormed := Defragger.Reachable.wellFormed ⟨_, _, read⟩
  obtain ⟨rest, order, left | ⟨ended, _⟩⟩ := transcript.order
  · obtain ⟨waiting, announced, left' | ⟨ended, _⟩⟩ := transcript.announced
    · rw [here] at left left'
      subst left left'
      rcases result with ⟨panics, _⟩ | ⟨outcome, after, stage, answered, session, _, rfl, onward⟩
      · obtain ⟨_, _, answered, _⟩ := Defragger.feed_wellFormed now message valid
        rw [panics] at answered
        contradiction
      · have tables := transcript.tables.feed found session mine.symm answered
        have calm : stage.inHand = none ∧ stage ≠ .panicked := by
          rcases onward with rfl | ⟨_, rfl⟩
          · exact ⟨rfl, by simp⟩
          · exact ⟨rfl, by simp⟩
        refine ⟨calm.2, tables, ⟨[], ?_, Or.inl (by rw [ServerState.enter, calm.1]; rfl)⟩, [], announced,
          Or.inl ?_⟩
        · rw [order]
          simp [Stage.inHand]
        · rw [ServerState.enter, Stage.opening_eq_none calm.1]
          rfl
    · rw [here] at ended
      contradiction
  · rw [here] at ended
    contradiction

theorem Transcript.step {action : ServerAction} (transcript : Transcript routed opened fed state)
    (registered : Registered state) (stepped : serverStep config state action = some next) :
    Transcript (routed ++ state.routed action) (opened ++ state.opened action)
      (fed ++ state.fed action) next := by
  have quiet (none : state.arrived action = []) :
      state.routed action = [] ∧ state.opened action = [] := by
    simp [ServerState.routed, ServerState.opened, none]
  cases serverStep_session stepped with
  | idle arrived unfed handles _ packets stage =>
    obtain ⟨unrouted, unopened⟩ := quiet arrived
    rw [unrouted, unopened, unfed, List.append_nil, List.append_nil, List.append_nil]
    rcases stage with same | ⟨free, open', calm, running⟩
    · exact ⟨same ▸ transcript.running, handles ▸ transcript.tables, same ▸ transcript.order,
        by rw [packets, same]; exact transcript.announced⟩
    · exact transcript.move handles packets free open' calm running
  | router arrived unfed found session held table =>
    obtain ⟨unrouted, unopened⟩ := quiet arrived
    rw [unrouted, unopened, unfed, List.append_nil, List.append_nil, List.append_nil]
    refine ⟨transcript.running, transcript.tables.congr ?_, transcript.order, transcript.announced⟩
    exact map_set_same _ found (by rw [session, table])
  | @route action admission handle message here arrived unfed found =>
    have live := registered.liveOf (by rw [here]; rfl)
    have unopened : state.opened action = [] := by
      simp [ServerState.opened, arrived, live, found]
    have routing : state.routed action = [(handle, message)] := by
      rw [ServerState.routed, arrived, List.map_singleton, live, found, Option.getD_some]
    rw [routing, unopened, unfed, List.append_nil, List.append_nil]
    exact transcript.route here
  | @create action admission message here arrived unfed missing =>
    have live := registered.liveOf (by rw [here]; rfl)
    have opening : state.opened action = [message] := by
      rw [ServerState.opened, arrived, List.filter_singleton, live, missing]
      rfl
    have routing : state.routed action = [(state.handles.length, message)] := by
      rw [ServerState.routed, arrived, List.map_singleton, live, missing, Option.getD_none]
    rw [routing, opening, unfed, List.append_nil]
    exact transcript.create here
  | announce here =>
    rw [(quiet rfl).1, (quiet rfl).2, List.append_nil, List.append_nil]
    exact (List.append_nil fed).symm ▸ transcript.announce here
  | refuse here =>
    rw [(quiet rfl).1, (quiet rfl).2, List.append_nil, List.append_nil]
    exact (List.append_nil fed).symm ▸ transcript.refuse here
  | @feed admission handle message now next here called =>
    have feeding : state.fed (.feed now) = [(handle, now, message)] := by
      rw [ServerState.fed, here]
    rw [(quiet rfl).1, (quiet rfl).2, List.append_nil, List.append_nil, feeding]
    exact transcript.feed registered here called

theorem run_transcript {controller : Option CongestionKind} {actions : List ServerAction}
    (execution : Transition.run (serverStep config) (.initial controller) actions = some state) :
    Registered state ∧ Transcript
      (Transition.outputs (serverStep config) ServerState.routed (.initial controller) actions)
      (Transition.outputs (serverStep config) ServerState.opened (.initial controller) actions)
      (Transition.outputs (serverStep config) ServerState.fed (.initial controller) actions) state := by
  refine Transition.run_induction (P := fun actions state => Registered state ∧ Transcript
    (Transition.outputs (serverStep config) ServerState.routed (.initial controller) actions)
    (Transition.outputs (serverStep config) ServerState.opened (.initial controller) actions)
    (Transition.outputs (serverStep config) ServerState.fed (.initial controller) actions) state)
    ⟨?_, ?_⟩ ?_ execution
  · refine ⟨by simp [ServerState.initial], by simp [ServerState.initial], ?_, ?_⟩
    · rintro _ _ _ ⟨⟩
    · rintro _ _ _ ⟨⟩
  · refine ⟨by simp [ServerState.initial], ⟨rfl, ?_, ?_, ?_⟩, ⟨[], rfl, Or.inl rfl⟩, [], rfl, Or.inl rfl⟩
    · simp [Transition.outputs]
    · simp [Transition.outputs]
    · simp [ServerState.initial]
  · intro actions middle action final earlier both stepped
    obtain ⟨registered, transcript⟩ := both
    rw [Transition.outputs_concat earlier stepped, Transition.outputs_concat earlier stepped,
      Transition.outputs_concat earlier stepped]
    exact ⟨registered.step stepped, transcript.step registered stepped⟩

/-- In every state of every run of a connection: at most one packet connection of a
session is live; the table of each has seen exactly the calls made on it, all with
messages of its own session; these calls are the messages decoded, in order, each
on the connection of its session that was live when it arrived, or else on a new
one; and every new one, in order, is announced to the router with the destination
of the message that opened it. Only the message in hand is outstanding, or the one
in hand when the router went away. -/
theorem session_routing {controller : Option CongestionKind} {actions : List ServerAction}
    (execution : Transition.run (serverStep config) (.initial controller) actions = some state) :
    let routed := Transition.outputs (serverStep config) ServerState.routed (.initial controller) actions
    let opened := Transition.outputs (serverStep config) ServerState.opened (.initial controller) actions
    let fed := Transition.outputs (serverStep config) ServerState.fed (.initial controller) actions
    (∀ (first second : Nat) (one two : PacketHandle), state.handles[first]? = some one →
      state.handles[second]? = some two → state.live first = true → state.live second = true →
      one.sessionId = two.sessionId → first = second) ∧
    (∀ entry ∈ fed, ∃ target, state.handles[entry.1]? = some target ∧
      entry.2.2.sessionId = target.sessionId) ∧
    (∀ (handle : Nat) (target : PacketHandle), state.handles[handle]? = some target →
      ∃ outcomes, Defragger.default.feedAll (fedTo fed handle) = some (outcomes, target.defragger)) ∧
    (∃ rest, routed = (fed.map fun entry => (entry.1, entry.2.2)) ++ rest ∧
      Remainder state.stage state.stage.inHand rest) ∧
    state.handles.map (·.sessionId) = opened.map (·.sessionId) ∧
    ∃ rest, (opened.map fun message => (message.sessionId, message.destination)) =
        state.packets ++ (rest.map fun message => (message.sessionId, message.destination)) ∧
      Remainder state.stage state.stage.opening rest := by
  intro routed opened fed
  obtain ⟨registered, transcript⟩ := run_transcript execution
  refine ⟨fun first second one two left right alive other same =>
    registered.unique left right alive other same, fun entry member => ?_, transcript.tables.replay,
    transcript.order, transcript.tables.created, transcript.announced⟩
  have bound := transcript.tables.within entry member
  have found := List.getElem?_eq_getElem bound
  exact ⟨_, found, transcript.tables.own entry member _ found⟩

/-- Two fragments of one session with the same packet id; the router lets go of the
first connection before its first message is fed, so the second is a new one. -/
theorem session_routing_released :
    let config : Config :=
      ⟨[⟨"bob", "secret"⟩], ⟨0, 0, false⟩, ⟨.v4 ⟨[127, 0, 0, 1], rfl⟩, 9⟩, 64⟩
    let request : Request := ⟨"POST", some "hysteria", "/auth", [("hysteria-auth", asBytes "secret")]⟩
    let actions : List ServerAction := [.connect (.ok ()), .accept (.ok true), .resolve (.ok request),
      .respond (.ok ()), .finish (.ok ()),
      .datagram (.ok [0, 0, 0, 7, 0, 1, 0, 2, 3, 105, 58, 49, 8]), .hand true, .release 0, .feed 0,
      .datagram (.ok [0, 0, 0, 7, 0, 1, 1, 2, 3, 105, 58, 49, 9]), .hand true, .feed 1]
    ∃ state, Transition.run (serverStep config) (.initial (some .bbr)) actions = some state ∧
      state.packets = [(7, ⟨"i", 1, by decide⟩), (7, ⟨"i", 1, by decide⟩)] ∧
      (Transition.outputs (serverStep config) ServerState.opened (.initial (some .bbr)) actions).map
        (·.sessionId) = [7, 7] := by
  intro config request actions
  have traced : (Transition.run (serverStep config) (.initial (some .bbr)) actions).map
      (fun state => (state.packets, state.handles.map (·.sessionId))) =
      some ([(7, ⟨"i", 1, by decide⟩), (7, ⟨"i", 1, by decide⟩)], [7, 7]) := by decide
  obtain ⟨state, execution, same⟩ := Option.map_eq_some_iff.mp traced
  obtain ⟨packets, sessions⟩ := Prod.mk.inj same
  obtain ⟨_, _, _, _, created, _⟩ := session_routing execution
  exact ⟨state, execution, packets, created ▸ sessions⟩

end
end SingQuic.Hysteria2
