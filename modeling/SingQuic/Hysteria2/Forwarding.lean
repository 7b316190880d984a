import SingQuic.Hysteria2.Attribution
import SingQuic.Hysteria2.SessionRouting

/-! What the router gets of a session: each packet connection has a bounded queue
between the select loop and the router, and what goes through it was put together
from the datagrams of one session. -/
namespace SingQuic.Hysteria2
open Wire

/-- The packet a call of `feed` returns. -/
def Outcome.packet : Outcome → Option Hysteria2Packet
  | .ok packet => packet
  | .error _ => none

/-- The events of one packet connection. -/
def ofHandle (events : List (Nat × β)) (handle : Nat) : List β :=
  (events.filter fun entry => entry.1 = handle).map Prod.snd

namespace ServerState

/-- The packets that wait in the queue of a connection. -/
def waiting (state : ServerState) (handle : Nat) : List Hysteria2Packet :=
  ((state.handles[handle]?).map (·.incoming)).getD []

/-- The packet the router takes in a step. -/
def taken (state : ServerState) : ServerAction → List (Nat × Hysteria2Packet)
  | .receive handle => ((state.waiting handle).take 1).map fun packet => (handle, packet)
  | _ => []

/-- The packet a step puts together, with its connection. -/
def completed (state : ServerState) : ServerAction → List (Nat × Hysteria2Packet)
  | .feed now =>
    match state.stage with
    | .feeding _ handle message =>
      (((state.handles[handle]?).bind fun target => target.defragger.feed now message).bind
        fun result => result.1.packet).toList.map fun packet => (handle, packet)
    | _ => []
  | _ => []

/-- The same, unless the queue is full: `try_send` then drops the packet. -/
def queued (state : ServerState) (action : ServerAction) : List (Nat × Hysteria2Packet) :=
  (state.completed action).filter fun entry => (state.waiting entry.1).length < incomingCapacity

end ServerState

variable {config : Config} {state next : ServerState}

theorem ofHandle_append (events more : List (Nat × β)) (handle : Nat) :
    ofHandle (events ++ more) handle = ofHandle events handle ++ ofHandle more handle := by
  simp only [ofHandle, List.filter_append, List.map_append]

@[simp] theorem waiting_enter (state : ServerState) (stage : Stage) (handle : Nat) :
    (state.enter stage).waiting handle = state.waiting handle := rfl

@[simp] theorem waiting_fail (state : ServerState) (error : Error) (handle : Nat) :
    (state.fail error).waiting handle = state.waiting handle := rfl

theorem waiting_set {handle : Nat} {target after : PacketHandle}
    (found : state.handles[handle]? = some target) (other : Nat) :
    ({ state with handles := state.handles.set handle after } : ServerState).waiting other =
      if other = handle then after.incoming else state.waiting other := by
  have bound := (List.getElem?_eq_some_iff.mp found).1
  by_cases own : other = handle
  · subst own
    simp [ServerState.waiting, List.getElem?_set_self bound]
  · simp [ServerState.waiting, List.getElem?_set_ne (Ne.symm own), own]

theorem waiting_of_getElem? {handle : Nat} {target : PacketHandle}
    (found : state.handles[handle]? = some target) : state.waiting handle = target.incoming := by
  simp [ServerState.waiting, found]

theorem completed_eq {admission : Admission} {handle : Nat} {message : UdpMessage} {target : PacketHandle}
    (here : state.stage = .feeding admission handle message)
    (found : state.handles[handle]? = some target) (now : Instant) :
    state.completed (.feed now) = ((target.defragger.feed now message).bind
      fun result => result.1.packet).toList.map fun packet => (handle, packet) := by
  simp only [ServerState.completed, here, found, Option.bind_some]

/-- One call of `input`: what it returns goes to the end of its queue, if there is room. -/
theorem input_waiting {admission : Admission} {handle : Nat} {now : Instant} {message : UdpMessage}
    {target : PacketHandle} (found : state.handles[handle]? = some target)
    (called : state.input admission handle now message = some next) (other : Nat) :
    next.waiting other = state.waiting other ++
      if other = handle ∧ target.incoming.length < incomingCapacity then
        ((target.defragger.feed now message).bind fun result => result.1.packet).toList else [] := by
  have before := waiting_of_getElem? found
  have replaced (after : PacketHandle) (added : List Hysteria2Packet)
      (grown : after.incoming = target.incoming ++ added) :
      ({ state with handles := state.handles.set handle after } : ServerState).waiting other =
        state.waiting other ++ if other = handle then added else [] := by
    rw [waiting_set found]
    by_cases own : other = handle
    · rw [if_pos own, if_pos own, grown, own, before]
    · rw [if_neg own, if_neg own, List.append_nil]
  unfold ServerState.input at called
  rw [found, Option.map_some] at called
  cases returned : target.defragger.feed now message with
  | none =>
    rw [returned] at called
    obtain rfl := Option.some.inj called
    simp
  | some result =>
    obtain ⟨outcome, defragger⟩ := result
    rw [returned] at called
    cases outcome with
    | error error =>
      obtain rfl := Option.some.inj called
      have same := replaced { target with defragger } [] (List.append_nil _).symm
      simpa [Outcome.packet] using same
    | ok packet =>
      obtain rfl := Option.some.inj called
      cases packet with
      | none =>
        have same := replaced { target with defragger } [] (List.append_nil _).symm
        simpa [Outcome.packet] using same
      | some packet =>
        by_cases room : target.incoming.length < incomingCapacity
        · have grown := replaced { target with defragger, incoming := target.incoming ++ [packet] }
            [packet] rfl
          simpa [Outcome.packet, room] using grown
        · have same := replaced { target with defragger } [] (List.append_nil _).symm
          simpa [Outcome.packet, room] using same

/-- The loop goes on unless the table refuses the message. -/
theorem input_serving {admission : Admission} {handle : Nat} {now : Instant} {message : UdpMessage}
    {target : PacketHandle} {packet : Option Hysteria2Packet} {defragger : Defragger}
    (found : state.handles[handle]? = some target)
    (returned : target.defragger.feed now message = some (.ok packet, defragger))
    (called : state.input admission handle now message = some next) : next.stage = .serving admission := by
  rw [ServerState.input, found, Option.map_some, returned] at called
  obtain rfl := Option.some.inj called
  rfl

/-- What a step does to the queues. The bound is on what waits, not on what was sent. -/
structure Moves (state : ServerState) (action : ServerAction) (next : ServerState) : Prop where
  queue : ∀ handle, ofHandle (state.taken action) handle ++ next.waiting handle =
    state.waiting handle ++ ofHandle (state.queued action) handle
  room : ∀ handle, (state.waiting handle).length ≤ incomingCapacity →
    (next.waiting handle).length ≤ incomingCapacity

theorem Moves.still {action : ServerAction} (taken : state.taken action = [])
    (completed : state.completed action = [])
    (same : ∀ handle, next.waiting handle = state.waiting handle) : Moves state action next := by
  refine ⟨fun handle => ?_, fun handle bound => (same handle).symm ▸ bound⟩
  rw [taken, ServerState.queued, completed, same]
  simp [ofHandle]

theorem Moves.feed {admission : Admission} {handle : Nat} {now : Instant} {message : UdpMessage}
    (here : state.stage = .feeding admission handle message)
    (called : state.input admission handle now message = some next) : Moves state (.feed now) next := by
  obtain ⟨target, found, _⟩ := input_cases called
  have after := input_waiting found called
  have before := waiting_of_getElem? found
  refine ⟨fun other => ?_, fun other bound => ?_⟩
  · rw [after, ServerState.queued, completed_eq here found]
    cases (target.defragger.feed now message).bind fun result => result.1.packet with
    | none => simp [ofHandle, ServerState.taken]
    | some packet =>
      by_cases room : target.incoming.length < incomingCapacity
      · by_cases own : handle = other
        · subst own
          simp [ofHandle, ServerState.taken, before, room]
        · simp [ofHandle, ServerState.taken, before, room, own, Ne.symm own]
      · simp [ofHandle, ServerState.taken, before, room]
  · rw [after]
    split
    · rename_i both
      have one : ((target.defragger.feed now message).bind
          fun result => result.1.packet).toList.length ≤ 1 := by
        cases (target.defragger.feed now message).bind fun result => result.1.packet <;> simp
      rw [List.length_append, both.1, before]
      omega
    · simpa using bound

theorem serverStep_moves {action : ServerAction} (stepped : serverStep config state action = some next) :
    Moves state action next := by
  cases serverStep_rule stepped with
  | stopped here stops => cases stops <;> exact .still rfl rfl fun _ => rfl
  | connected here => exact .still rfl rfl fun _ => rfl
  | accepted here => exact .still rfl rfl fun _ => rfl
  | acceptedAgain here => exact .still rfl rfl fun _ => rfl
  | first request here =>
    refine .still rfl rfl fun handle => ?_
    rw [ServerState.waiting, (firstRequest_stage config state request).1, ServerState.waiting]
  | masqueraded request here => exact .still rfl rfl fun _ => rfl
  | responded admission here => exact .still rfl rfl fun _ => rfl
  | unanswered admission text here => exact .still rfl rfl fun _ => rfl
  | finished admission here => exact .still rfl rfl fun _ => rfl
  | controlled admission here => exact .still rfl rfl fun _ => rfl
  | spawned admission here => exact .still rfl rfl fun _ => rfl
  | routed admission bytes message handle here read found => exact .still rfl rfl fun _ => rfl
  | created admission bytes message here read missing =>
    refine .still rfl rfl fun handle => ?_
    rw [waiting_enter, ServerState.waiting, ServerState.waiting]
    by_cases old : handle < state.handles.length
    · rw [List.getElem?_append_left old]
    · rw [List.getElem?_eq_none (Nat.not_lt.mp old)]
      by_cases own : handle = state.handles.length
      · subst own
        rw [List.getElem?_concat_length]
        rfl
      · rw [List.getElem?_eq_none (by simp; omega)]
  | announced admission handle message here =>
    refine .still rfl rfl fun other => ?_
    simp only [ServerState.waiting, ServerState.announce, ServerState.emit, ServerState.enter,
      List.getElem?_modify]
    cases state.handles[other]? with
    | none => rfl
    | some target =>
      simp only [Option.map_eq_map, Option.map_some]
      split <;> rfl
  | refused admission handle message here => exact .still rfl rfl fun _ => rfl
  | fed admission handle message now next here called => exact .feed here called
  | task index action before after value found moved => exact .still rfl rfl fun _ => rfl
  | received handle target packet rest found held queued =>
    have before := waiting_of_getElem? found
    rw [queued] at before
    refine ⟨fun other => ?_, fun other bound => ?_⟩
    · rw [waiting_set found]
      by_cases own : other = handle
      · subst own
        simp [ServerState.taken, ServerState.queued, ServerState.completed, ofHandle, before]
      · simp [ServerState.taken, ServerState.queued, ServerState.completed, ofHandle, before, own,
          Ne.symm own]
    · rw [waiting_set found]
      split
      · rename_i own
        rw [own, before, List.length_cons] at bound
        dsimp only
        omega
      · exact bound
  | released handle target found held =>
    refine .still rfl rfl fun other => ?_
    rw [waiting_set found]
    split
    · rename_i own
      rw [own, waiting_of_getElem? found]
    · rfl

theorem fed_cases (state : ServerState) (action : ServerAction) :
    state.fed action = [] ∧ state.completed action = [] ∨ ∃ now admission handle message,
      action = .feed now ∧ state.stage = .feeding admission handle message := by
  cases action with
  | feed now =>
    cases here : state.stage with
    | feeding admission handle message => exact Or.inr ⟨now, admission, handle, message, rfl, rfl⟩
    | _ => exact Or.inl ⟨by simp [ServerState.fed, here], by simp [ServerState.completed, here]⟩
  | _ => exact Or.inl ⟨rfl, rfl⟩

/-- What is put together is what the calls of `feed` return. -/
theorem run_completed {controller : Option CongestionKind} {actions : List ServerAction}
    (execution : Transition.run (serverStep config) (.initial controller) actions = some state) :
    ∀ handle outcomes final, Defragger.default.feedAll (ofHandle
        (Transition.outputs (serverStep config) ServerState.fed (.initial controller) actions) handle) =
        some (outcomes, final) →
      ofHandle (Transition.outputs (serverStep config) ServerState.completed (.initial controller) actions)
        handle = outcomes.filterMap Outcome.packet := by
  refine Transition.run_induction (P := fun actions _ => ∀ handle outcomes final,
    Defragger.default.feedAll (ofHandle
        (Transition.outputs (serverStep config) ServerState.fed (.initial controller) actions) handle) =
        some (outcomes, final) →
      ofHandle (Transition.outputs (serverStep config) ServerState.completed (.initial controller) actions)
        handle = outcomes.filterMap Outcome.packet) ?_ ?_ execution
  · rintro handle outcomes final ⟨⟩
    rfl
  intro actions middle action next earlier ih stepped handle outcomes final read
  rw [Transition.outputs_concat earlier stepped, ofHandle_append] at read ⊢
  rcases fed_cases middle action with ⟨unfed, none⟩ | ⟨now, admission, target, message, rfl, here⟩
  · have nothing {β : Type} : ofHandle ([] : List (Nat × β)) handle = [] := rfl
    rw [unfed, nothing, List.append_nil] at read
    rw [none, nothing, List.append_nil]
    exact ih handle outcomes final read
  have feeding : middle.fed (.feed now) = [(target, now, message)] := by
    rw [ServerState.fed, here]
  rw [feeding] at read
  simp only [serverStep, here] at stepped
  obtain ⟨connection, found, _⟩ := input_cases stepped
  rw [completed_eq here found]
  by_cases own : target = handle
  · subst own
    obtain ⟨_, transcript⟩ := run_transcript earlier
    obtain ⟨before, replay⟩ := transcript.tables.replay target connection found
    have mine : ofHandle [(target, now, message)] target = [(now, message)] := by simp [ofHandle]
    rw [mine, Defragger.feedAll_concat] at read
    rw [ih target before connection.defragger replay]
    change (Defragger.default.feedAll (fedTo _ target)).bind _ = _ at read
    rw [replay, Option.bind_some] at read
    obtain ⟨⟨outcome, after⟩, returned, same⟩ := Option.map_eq_some_iff.mp read
    obtain ⟨rfl, _⟩ := Prod.mk.inj same
    rw [returned, List.filterMap_append]
    cases packet : outcome.packet <;> simp [ofHandle, packet]
  · have other (events : List Hysteria2Packet) :
        ofHandle (events.map fun packet => (target, packet)) handle = [] := by
      simp [ofHandle, own]
    rw [other, List.append_nil]
    exact ih handle outcomes final (by simpa [ofHandle, own] using read)

theorem run_waiting {controller : Option CongestionKind} {actions : List ServerAction}
    (execution : Transition.run (serverStep config) (.initial controller) actions = some state)
    (handle : Nat) : (state.waiting handle).length ≤ incomingCapacity ∧
      ofHandle (Transition.outputs (serverStep config) ServerState.taken (.initial controller) actions)
          handle ++ state.waiting handle =
        ofHandle (Transition.outputs (serverStep config) ServerState.queued (.initial controller) actions)
          handle := by
  refine Transition.run_induction (P := fun actions state =>
    (state.waiting handle).length ≤ incomingCapacity ∧
    ofHandle (Transition.outputs (serverStep config) ServerState.taken (.initial controller) actions)
        handle ++ state.waiting handle =
      ofHandle (Transition.outputs (serverStep config) ServerState.queued (.initial controller) actions)
        handle) ⟨by simp [ServerState.waiting, ServerState.initial], rfl⟩ ?_ execution
  rintro actions middle action next earlier ⟨room, same⟩ stepped
  have moves := serverStep_moves stepped
  refine ⟨moves.room handle room, ?_⟩
  rw [Transition.outputs_concat earlier stepped, Transition.outputs_concat earlier stepped,
    ofHandle_append, ofHandle_append, ← same, List.append_assoc, List.append_assoc, moves.queue]

theorem queued_sublist (config : Config) (controller : Option CongestionKind)
    (actions : List ServerAction) (handle : Nat) :
    (ofHandle (Transition.outputs (serverStep config) ServerState.queued (.initial controller) actions)
      handle).Sublist (ofHandle (Transition.outputs (serverStep config) ServerState.completed
        (.initial controller) actions) handle) :=
  ((Transition.outputs_sublist (fun _ _ => List.filter_sublist) _ _).filter _).map _

/-- The queue between the select loop and the router, in every state of every run.
What the router took from a connection and what still waits for it are the packets
put together from the messages routed to that connection, in order, less those that
were completed while the queue was full; and the queue never holds more than its
capacity. -/
theorem packets_forwarded {controller : Option CongestionKind} {actions : List ServerAction}
    (execution : Transition.run (serverStep config) (.initial controller) actions = some state)
    (handle : Nat) :
    let outputs {β : Type} (out : ServerState → ServerAction → List β) :=
      Transition.outputs (serverStep config) out (.initial controller) actions
    (state.waiting handle).length ≤ incomingCapacity ∧
    ofHandle (outputs ServerState.taken) handle ++ state.waiting handle =
      ofHandle (outputs ServerState.queued) handle ∧
    (ofHandle (outputs ServerState.queued) handle).Sublist
      (ofHandle (outputs ServerState.completed) handle) ∧
    ∃ outcomes final, Defragger.default.feedAll (ofHandle (outputs ServerState.fed) handle) =
        some (outcomes, final) ∧
      ofHandle (outputs ServerState.completed) handle = outcomes.filterMap Outcome.packet := by
  intro outputs
  obtain ⟨room, order⟩ := run_waiting execution handle
  obtain ⟨outcomes, final, read, _⟩ := Defragger.feedAll_wellFormed Defragger.default_wellFormed
    (ofHandle (outputs ServerState.fed) handle)
  exact ⟨room, order, queued_sublist config controller actions handle, outcomes, final, read,
    run_completed execution handle outcomes final read⟩

/-- One packet in two fragments, taken by the router before the next one arrives. -/
theorem packets_forwarded_pair :
    let config : Config :=
      ⟨[⟨"bob", "secret"⟩], ⟨0, 0, false⟩, ⟨.v4 ⟨[127, 0, 0, 1], rfl⟩, 9⟩, 64⟩
    let request : Request := ⟨"POST", some "hysteria", "/auth", [("hysteria-auth", asBytes "secret")]⟩
    let actions : List ServerAction := [.connect (.ok ()), .accept (.ok true), .resolve (.ok request),
      .respond (.ok ()), .finish (.ok ()),
      .datagram (.ok [0, 0, 0, 7, 0, 1, 1, 2, 3, 110, 58, 49, 9]), .hand true, .feed 0,
      .datagram (.ok [0, 0, 0, 7, 0, 1, 0, 2, 3, 110, 58, 49, 8]), .feed 1, .receive 0,
      .datagram (.ok [0, 0, 0, 7, 0, 2, 0, 1, 3, 110, 58, 49, 5]), .feed 2]
    ∃ state, Transition.run (serverStep config) (.initial (some .bbr)) actions = some state ∧
      ofHandle (Transition.outputs (serverStep config) ServerState.taken (.initial (some .bbr)) actions) 0 ++
        state.waiting 0 = [⟨[8, 9], ⟨"n", 1, by decide⟩⟩, ⟨[5], ⟨"n", 1, by decide⟩⟩] := by
  intro config request actions
  have traced : (Transition.run (serverStep config) (.initial (some .bbr)) actions).isSome = true := by decide
  obtain ⟨state, execution⟩ := Option.isSome_iff_exists.mp traced
  refine ⟨state, execution, ?_⟩
  rw [(packets_forwarded execution 0).2.1]
  decide

/-- The calls of `send` a peer makes on one of its sessions, under distinct packet ids. -/
structure PeerSession where
  start : Hysteria2PacketConnection
  calls : List (Transport × Hysteria2Packet)
  roundTrips : ∀ sending ∈ Sending.session start calls, sending.packet.destination.RoundTrips
  distinct : (((Sending.session start calls).filter (·.emitted ≠ [])).map
    (·.connection.packetId)).Nodup

namespace PeerSession

def sendings (self : PeerSession) : List Sending := Sending.session self.start self.calls

/-- A message the peer may have sent on the session. -/
def Sends (self : PeerSession) (message : UdpMessage) : Prop :=
  ∃ sending ∈ self.sendings, ∃ frame ∈ sending.emitted, decodeMessage frame = .ok message

end PeerSession

theorem Hysteria2PacketConnection.send_sessionId (self : Hysteria2PacketConnection)
    (transport : Transport) (packet : Hysteria2Packet) :
    (self.send transport packet).2.2.sessionId = self.sessionId := by
  unfold Hysteria2PacketConnection.send
  split
  · rfl
  · dsimp only
    split <;> rfl

theorem Sending.session_sessionId {connection : Hysteria2PacketConnection}
    {calls : List (Transport × Hysteria2Packet)} {sending : Sending}
    (member : sending ∈ Sending.session connection calls) :
    sending.connection.sessionId = connection.sessionId := by
  induction calls generalizing connection with
  | nil => contradiction
  | cons call rest ih =>
    rcases List.mem_cons.mp member with rfl | later
    · rfl
    · rw [ih later, Hysteria2PacketConnection.send_sessionId]

/-- A call that emits anything has cut its packet into parts, and each frame it emits
is read as the message of one of them. -/
theorem Sending.exists_messages {self : Sending} (roundTrips : self.packet.destination.RoundTrips)
    (active : self.emitted ≠ []) :
    ∃ parts : List Bytes, parts.flatten = self.packet.data ∧ parts.flatten.length ≤ maxUdpSize ∧
      parts.length ≤ 255 ∧ ∀ frame ∈ self.emitted,
        ∃ message ∈ self.connection.messages self.packet.destination parts,
          decodeMessage frame = .ok message := by
  have sent : self.connection.send self.transport self.packet =
      (self.emitted, (self.connection.send self.transport self.packet).2) := rfl
  rcases Hysteria2PacketConnection.send_spec sent with
    ⟨silent, _⟩ | ⟨accepted, frames, framed, start, _⟩
  · exact absurd silent active
  obtain ⟨size, _⟩ := Hysteria2PacketConnection.not_refuses_iff.mp accepted
  obtain ⟨parts, _, few, joined, decoded⟩ :=
    Hysteria2PacketConnection.frames_spec accepted roundTrips framed
  refine ⟨parts, joined, joined ▸ size, few, fun frame member => ?_⟩
  have found : decodeMessage frame ∈ frames.map decodeMessage :=
    List.mem_map_of_mem (start.subset member)
  rw [decoded] at found
  obtain ⟨message, here, same⟩ := List.mem_map.mp found
  exact ⟨message, here, same.symm⟩

namespace PeerSession
variable {self : PeerSession} {message : UdpMessage}

/-- Every datagram of a session is read, as a message of that session to the
destination of one of its packets. -/
theorem read {sending : Sending} (member : sending ∈ self.sendings) {frame : Bytes}
    (emitted : frame ∈ sending.emitted) : ∃ message, decodeMessage frame = .ok message ∧
      message.sessionId = self.start.sessionId ∧ message.destination = sending.packet.destination := by
  obtain ⟨parts, _, _, _, carried⟩ := Sending.exists_messages (self.roundTrips _ member)
    (List.ne_nil_of_mem emitted)
  obtain ⟨message, here, same⟩ := carried frame emitted
  obtain ⟨index, data, _, rfl⟩ := Hysteria2PacketConnection.mem_messages.mp here
  exact ⟨_, same, Sending.session_sessionId member, rfl⟩

/-- Each packet id of a session stands for at most one packet and its parts. -/
theorem exists_origin (self : PeerSession) (id : UInt16) : ∃ origin : Address × List Bytes,
    ∀ message, self.Sends message → message.packetId = id →
      PartOf id origin.1 origin.2 message ∧ origin.2.flatten.length ≤ maxUdpSize ∧
        ∃ sending ∈ self.sendings,
          (⟨origin.2.flatten, origin.1⟩ : Hysteria2Packet) = sending.packet := by
  have carried {sending : Sending} (member : sending ∈ self.sendings) {frame : Bytes} {message : UdpMessage}
      (emitted : frame ∈ sending.emitted) (decoded : decodeMessage frame = .ok message) :
      ∃ parts : List Bytes, parts.flatten = sending.packet.data ∧ parts.flatten.length ≤ maxUdpSize ∧
        ∀ frame ∈ sending.emitted, ∀ message, decodeMessage frame = .ok message →
          PartOf sending.connection.packetId sending.packet.destination parts message :=
    Sending.exists_parts (self.roundTrips _ member) (List.ne_nil_of_mem emitted)
  by_cases named : ∃ message, self.Sends message ∧ message.packetId = id
  · obtain ⟨first, ⟨sending, member, frame, emitted, decoded⟩, rfl⟩ := named
    obtain ⟨parts, joined, small, whole⟩ := carried member emitted decoded
    have own := (whole frame emitted first decoded).packetId
    refine ⟨(sending.packet.destination, parts), fun message sends same => ?_⟩
    obtain ⟨other, found, frame', emitted', decoded'⟩ := sends
    obtain ⟨_, _, _, whole'⟩ := carried found emitted' decoded'
    have own' := (whole' frame' emitted' message decoded').packetId
    -- two calls that emit under one id are the same call
    obtain rfl : other = sending := List.inj_on_of_nodup_map self.distinct
      (List.mem_filter.mpr ⟨found, by simpa using List.ne_nil_of_mem emitted'⟩)
      (List.mem_filter.mpr ⟨member, by simpa using List.ne_nil_of_mem emitted⟩)
      (own'.symm.trans (same.trans own))
    exact ⟨own ▸ whole frame' emitted' message decoded', small, other, member, by rw [joined]⟩
  · refine ⟨(⟨"a", 0, by decide⟩, []), fun message sends same => ?_⟩
    exact absurd ⟨message, sends, same⟩ named

/-- Whatever reaches a table from one session, in whatever order, the table returns
only packets of that session. -/
theorem feedAll_sent {history : History} (own : ∀ event ∈ history, self.Sends event.2) :
    ∃ outcomes final, Defragger.default.feedAll history = some (outcomes, final) ∧
      ∀ outcome ∈ outcomes, outcome = .ok none ∨
        ∃ sending ∈ self.sendings, outcome = .ok (some sending.packet) := by
  choose origin named using self.exists_origin
  have empty : Defragger.Attributed origin Defragger.default := fun id => ⟨∅, Or.inl ⟨rfl, rfl⟩⟩
  obtain ⟨outcomes, final, fed, values⟩ := Defragger.feedAll_attributed empty
    fun event member =>
      have source := named _ _ (own event member) rfl
      ⟨source.1, source.2.1⟩
  refine ⟨outcomes, final, fed, fun outcome member => ?_⟩
  refine (values outcome member).imp_right fun ⟨event, found, same⟩ => ?_
  obtain ⟨_, _, sending, sent, equal⟩ := named _ _ (own event found) rfl
  exact ⟨sending, sent, by rw [same, equal]⟩

end PeerSession

section
variable {peers : List PeerSession} {controller : Option CongestionKind} {actions : List ServerAction}

/-- Every datagram that arrives was sent on one of the sessions. -/
def SentBy (peers : List PeerSession) (actions : List ServerAction) : Prop :=
  ∀ bytes, .datagram (.ok bytes) ∈ actions →
    ∃ peer ∈ peers, ∃ sending ∈ peer.sendings, bytes ∈ sending.emitted

theorem mem_arrived {action : ServerAction} {message : UdpMessage}
    (member : message ∈ state.arrived action) :
    ∃ bytes, action = .datagram (.ok bytes) ∧ decodeMessage bytes = .ok message := by
  unfold ServerState.arrived at member
  split at member
  · rename_i bytes
    split at member
    · rename_i decoded
      rw [List.mem_singleton.mp member]
      exact ⟨bytes, rfl, decoded⟩
    · contradiction
  · contradiction

theorem SentBy.arrived (sent : SentBy peers actions) {action : ServerAction} (inside : action ∈ actions)
    {message : UdpMessage} (member : message ∈ state.arrived action) :
    ∃ peer ∈ peers, peer.Sends message ∧ message.sessionId = peer.start.sessionId ∧
      ∃ sending ∈ peer.sendings, sending.packet.destination = message.destination := by
  obtain ⟨bytes, rfl, decoded⟩ := mem_arrived member
  obtain ⟨peer, found, sending, here, emitted⟩ := sent bytes inside
  obtain ⟨other, read, session, destination⟩ := PeerSession.read here emitted
  obtain rfl := Except.ok.inj (decoded.symm.trans read)
  exact ⟨peer, found, ⟨sending, here, bytes, emitted, decoded⟩, session, sending, here,
    destination.symm⟩

theorem SentBy.of_prefix {before rest : List ServerAction} (sent : SentBy peers (before ++ rest)) :
    SentBy peers before :=
  fun bytes member => sent bytes (List.mem_append_left _ member)

/-- What a table was fed was sent on the one session of its connection. -/
theorem SentBy.fed (sent : SentBy peers actions)
    (sessions : (peers.map (·.start.sessionId)).Nodup)
    (execution : Transition.run (serverStep config) (.initial controller) actions = some state)
    {handle : Nat} {target : PacketHandle} (found : state.handles[handle]? = some target) :
    ∃ peer ∈ peers, peer.start.sessionId = target.sessionId ∧
      ∀ event ∈ ofHandle (Transition.outputs (serverStep config) ServerState.fed (.initial controller)
        actions) handle, peer.Sends event.2 := by
  obtain ⟨_, transcript⟩ := run_transcript execution
  -- the message that opened the connection names the session
  have opened : target.sessionId ∈ (Transition.outputs (serverStep config) ServerState.opened
      (.initial controller) actions).map (·.sessionId) := by
    rw [← transcript.tables.created]
    exact List.mem_map_of_mem (List.mem_of_getElem? found)
  obtain ⟨first, member, same⟩ := List.mem_map.mp opened
  obtain ⟨action, inside, before, arrived⟩ := Transition.exists_of_mem_outputs member
  obtain ⟨peer, here, _, session, _⟩ := sent.arrived inside (List.mem_of_mem_filter arrived)
  refine ⟨peer, here, session.symm.trans same, fun event recorded => ?_⟩
  obtain ⟨⟨own, event⟩, kept, rfl⟩ := List.mem_map.mp recorded
  obtain ⟨entry, own'⟩ := List.mem_filter.mp kept
  obtain rfl : own = handle := of_decide_eq_true own'
  obtain ⟨rest, order, _⟩ := transcript.order
  have routed : (own, event.2) ∈ Transition.outputs (serverStep config) ServerState.routed
      (.initial controller) actions := by
    rw [order]
    exact List.mem_append_left _ (List.mem_map.mpr ⟨(own, event), entry, rfl⟩)
  obtain ⟨action, inside, before, routed⟩ := Transition.exists_of_mem_outputs routed
  obtain ⟨message, arrived, equal⟩ := List.mem_map.mp routed
  obtain ⟨_, rfl⟩ := Prod.mk.inj equal
  obtain ⟨other, there, sends, session', _⟩ := sent.arrived inside arrived
  have mine := transcript.tables.own _ entry target found
  obtain rfl : other = peer := List.inj_on_of_nodup_map sessions there here
    ((session'.symm.trans mine).trans (same.symm.trans session))
  exact sends

/-- No datagram of the sessions ends the select loop. -/
theorem SentBy.serves (sent : SentBy peers actions)
    (sessions : (peers.map (·.start.sessionId)).Nodup) :
    Transition.Steps (serverStep config) (fun _ action after =>
      ((∃ bytes, action = .datagram (.ok bytes)) ∨ ∃ now, action = .feed now) →
        after.stage ≠ .panicked ∧ ∀ result, after.stage ≠ .ended result)
      (.initial controller) actions := by
  rintro before action rest middle after rfl earlier stepped touches
  have execution := Transition.run_concat.mpr ⟨middle, earlier, stepped⟩
  have source : SentBy peers (before ++ [action]) := by
    have split : before ++ action :: rest = before ++ [action] ++ rest := by simp
    rw [split] at sent
    exact sent.of_prefix
  obtain ⟨registered, transcript⟩ := run_transcript execution
  refine ⟨transcript.running, ?_⟩
  rcases touches with ⟨bytes, rfl⟩ | ⟨now, rfl⟩
  · obtain ⟨peer, _, sending, here, emitted⟩ := sent bytes (by simp)
    obtain ⟨message, read, _⟩ := PeerSession.read here emitted
    cases serverStep_rule stepped with
    | stopped here stops =>
      cases stops with
      | malformed admission bytes error refused =>
        rw [read] at refused
        contradiction
    | routed => simp [ServerState.enter]
    | created => simp [ServerState.enter]
  · cases serverStep_rule stepped with
    | stopped here stops => cases stops
    | fed admission handle message now _ here called =>
      obtain ⟨_, transcript'⟩ := run_transcript earlier
      obtain ⟨target, found, _⟩ := input_cases called
      obtain ⟨outcomes, replay⟩ := transcript'.tables.replay handle target found
      obtain ⟨outcome, defragger, returned, _⟩ := Defragger.feed_wellFormed now message
        (Defragger.Reachable.wellFormed ⟨_, _, replay⟩)
      have recorded : Transition.outputs (serverStep config) ServerState.fed (.initial controller)
          (before ++ [.feed now]) = Transition.outputs (serverStep config) ServerState.fed
            (.initial controller) before ++ [(handle, now, message)] := by
        rw [Transition.outputs_concat earlier stepped, ServerState.fed, here]
      have bound : handle < after.handles.length := transcript.tables.within (handle, now, message)
        (by rw [recorded]; simp)
      obtain ⟨peer, _, _, sends⟩ := source.fed sessions execution (List.getElem?_eq_getElem bound)
      obtain ⟨all, final, read, values⟩ := PeerSession.feedAll_sent sends
      have whole : Defragger.default.feedAll (ofHandle (Transition.outputs (serverStep config)
          ServerState.fed (.initial controller) (before ++ [.feed now])) handle) =
          some (outcomes ++ [outcome], defragger) := by
        rw [recorded, ofHandle_append]
        have mine : ofHandle [(handle, now, message)] handle = [(now, message)] := by simp [ofHandle]
        rw [mine, Defragger.feedAll_concat]
        change (Defragger.default.feedAll (fedTo _ handle)).bind _ = _
        rw [replay, Option.bind_some]
        dsimp only
        rw [returned]
        rfl
      obtain ⟨rfl, _⟩ := Prod.mk.inj (Option.some.inj (read.symm.trans whole))
      have fine : ∃ packet, outcome = .ok packet := by
        rcases values outcome (by simp) with waiting | ⟨sending, _, same⟩
        · exact ⟨_, waiting⟩
        · exact ⟨_, same⟩
      obtain ⟨packet, rfl⟩ := fine
      rw [input_serving found returned called]
      simp

/-- What the router gets from a server connection whose datagrams all come from a peer
that calls `send` on its sessions, lost, repeated and reordered in whatever way, while
the router takes and lets go of connections as it likes. Every packet taken from a
connection or waiting there was sent on the session of that connection, every
connection is announced with the destination of a packet of its session, and no
datagram ends the select loop. -/
theorem session_packets_sent (sessions : (peers.map (·.start.sessionId)).Nodup)
    (sent : SentBy peers actions)
    (execution : Transition.run (serverStep config) (.initial controller) actions = some state) :
    (∀ (handle : Nat) (target : PacketHandle), state.handles[handle]? = some target →
      ∃ peer ∈ peers, peer.start.sessionId = target.sessionId ∧
        ∀ packet ∈ ofHandle (Transition.outputs (serverStep config) ServerState.taken
            (.initial controller) actions) handle ++ state.waiting handle,
          ∃ sending ∈ peer.sendings, packet = sending.packet) ∧
    (∀ announced ∈ state.packets, ∃ peer ∈ peers, peer.start.sessionId = announced.1 ∧
      ∃ sending ∈ peer.sendings, sending.packet.destination = announced.2) ∧
    Transition.Steps (serverStep config) (fun _ action after =>
      ((∃ bytes, action = .datagram (.ok bytes)) ∨ ∃ now, action = .feed now) →
        after.stage ≠ .panicked ∧ ∀ result, after.stage ≠ .ended result)
      (.initial controller) actions := by
  refine ⟨fun handle target found => ?_, fun announced member => ?_, sent.serves sessions⟩
  · obtain ⟨peer, here, session, sends⟩ := sent.fed sessions execution found
    refine ⟨peer, here, session, fun packet member => ?_⟩
    have forwarded := run_waiting execution handle
    rw [forwarded.2] at member
    have completed := (queued_sublist config controller actions handle).subset member
    obtain ⟨outcomes, final, read, values⟩ := PeerSession.feedAll_sent sends
    rw [run_completed execution handle outcomes final read] at completed
    obtain ⟨outcome, inside, returned⟩ := List.mem_filterMap.mp completed
    rcases values outcome inside with rfl | ⟨sending, there, rfl⟩
    · contradiction
    · obtain rfl := Option.some.inj returned
      exact ⟨sending, there, rfl⟩
  · obtain ⟨_, transcript⟩ := run_transcript execution
    obtain ⟨rest, order, _⟩ := transcript.announced
    have opened : announced ∈ (Transition.outputs (serverStep config) ServerState.opened
        (.initial controller) actions).map fun message => (message.sessionId, message.destination) := by
      rw [order]
      exact List.mem_append_left _ member
    obtain ⟨message, found, rfl⟩ := List.mem_map.mp opened
    obtain ⟨action, inside, before, arrived⟩ := Transition.exists_of_mem_outputs found
    obtain ⟨peer, here, _, session, sending, there, same⟩ :=
      sent.arrived inside (List.mem_of_mem_filter arrived)
    exact ⟨peer, here, session.symm, sending, there, same⟩

/-- A fragmented packet whose second half arrives first, and twice. -/
theorem session_packets_sent_reversed :
    let config : Config :=
      ⟨[⟨"bob", "secret"⟩], ⟨0, 0, false⟩, ⟨.v4 ⟨[127, 0, 0, 1], rfl⟩, 9⟩, 64⟩
    let request : Request := ⟨"POST", some "hysteria", "/auth", [("hysteria-auth", asBytes "secret")]⟩
    let packet : Hysteria2Packet := ⟨[1, 2, 3], ⟨"r", 1, by decide⟩⟩
    let actions : List ServerAction := [.connect (.ok ()), .accept (.ok true), .resolve (.ok request),
      .respond (.ok ()), .finish (.ok ()),
      .datagram (.ok [0, 0, 0, 7, 0, 1, 1, 2, 3, 114, 58, 49, 3]), .hand true, .feed 0,
      .datagram (.ok [0, 0, 0, 7, 0, 1, 1, 2, 3, 114, 58, 49, 3]), .feed 4,
      .datagram (.ok [0, 0, 0, 7, 0, 1, 0, 2, 3, 114, 58, 49, 1, 2]), .feed 9]
    ∃ state, Transition.run (serverStep config) (.initial (some .bbr)) actions = some state ∧
      (∀ taken ∈ state.waiting 0, taken = packet) ∧ state.waiting 0 ≠ [] := by
  intro config request packet actions
  have traced : (Transition.run (serverStep config) (.initial (some .bbr)) actions).map
      (fun state => (state.waiting 0, state.handles.map (·.sessionId))) = some ([packet], [7]) := by decide
  obtain ⟨state, execution, seen⟩ := Option.map_eq_some_iff.mp traced
  obtain ⟨queue, handles⟩ := Prod.mk.inj seen
  let peer : PeerSession := ⟨⟨7, 0⟩, [(⟨some 17, fun _ _ => .ok ()⟩, packet)], by
    intro sending member
    simp only [Sending.session, List.mem_singleton] at member
    subst sending
    decide, by decide⟩
  have emitted : peer.sendings.flatMap Sending.emitted = [[0, 0, 0, 7, 0, 1, 0, 2, 3, 114, 58, 49, 1, 2],
      [0, 0, 0, 7, 0, 1, 1, 2, 3, 114, 58, 49, 3]] := by decide
  have sent : SentBy [peer] actions := by
    intro bytes member
    simp only [actions, List.mem_cons, ServerAction.datagram.injEq, Except.ok.injEq, reduceCtorEq,
      false_or, List.not_mem_nil, or_false, or_self] at member
    have inside : bytes ∈ peer.sendings.flatMap Sending.emitted := by
      rw [emitted]
      rcases member with rfl | rfl | rfl <;> simp
    obtain ⟨sending, here, there⟩ := List.mem_flatMap.mp inside
    exact ⟨peer, by simp, sending, here, there⟩
  refine ⟨state, execution, fun taken member => ?_, by rw [queue]; simp⟩
  have present : (state.handles[0]?).map (·.sessionId) = some 7 := by
    rw [← List.getElem?_map, handles]
    rfl
  obtain ⟨target, found, _⟩ := Option.map_eq_some_iff.mp present
  obtain ⟨known, here, _, from'⟩ := (session_packets_sent (by simp) sent execution).1 0 target found
  obtain rfl := List.mem_singleton.mp here
  obtain ⟨sending, there, same⟩ := from' taken (List.mem_append_right _ member)
  rw [same]
  obtain rfl := List.mem_singleton.mp there
  rfl

end

end SingQuic.Hysteria2
