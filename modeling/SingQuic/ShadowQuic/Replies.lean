import SingQuic.ShadowQuic.Client

/-! When the replies of the server reach the queues of a client. What holds up a SunnyQUIC client is
told by the steps of the run: the id of a datagram that its loop takes without a route or room for it,
a control stream that ends, a stream that fails. A JLS client has no loop to hold up. -/
namespace SingQuic.ShadowQuic
open Wire

namespace Sender

/-- The call draws an id for its destination. -/
def Draws (self : Sender) : SendAction → Prop
  | .start association packet _ => ∃ connection, self.connections[association]? = some connection ∧
      connection.contexts packet.destination = none
  | _ => False

theorem allocated_le {self next : Sender} {action : SendAction} (few : self.allocated ≤ 65536)
    (draws : self.Draws action → self.allocated < 65536) (stepped : sendStep self action = some next) :
    next.allocated ≤ 65536 := by
  cases sendStep_rule stepped with
  | announced association packet answer connection next found live idle missing announced =>
    rw [announced.allocated]
    exact draws ⟨connection, found, missing⟩
  | resumed association packet answer connection context next found live idle known transmitted =>
    rw [transmitted.allocated]
    exact few
  | entered association answer connection call sent context next found stage called transmitted =>
    rw [transmitted.allocated]
    exact few
  | _ => exact few

end Sender

namespace Receiver

/-- The next packet for the queue is not kept waiting. -/
def Roomy (self : Receiver) (association : Nat) : Prop :=
  self.dropped association = true ∨ self.queued association < queueCapacity

/-- What a step has to spare so that a packet of the association, which comes from the origin, reaches
its queue. -/
def Spares (association : Nat) (origin : Origin) (self : Receiver) : ReceiveAction → Prop
  | .readDatagram => ∀ source bytes rest, self.inbox = (source, bytes) :: rest → 2 ≤ bytes.length →
      ∃ route, self.routes (datagramId bytes) = some route ∧ self.Roomy route.sender
  | .deliverPacket stream => self.hand ≠ none → ∀ task route data, self.streams stream = some task →
      task.state = .sending route data → self.queued route.sender + 1 < queueCapacity
  | .stop other => other ≠ association ∧ ∀ task source datagram, self.controls other = some task →
      self.hand = some source → self.datagrams source = some datagram →
      datagramId datagram.bytes ∉ task.ids
  | .failStream stream _ => ∀ index, origin = .packet stream index →
      ∃ task, self.streams stream = some task ∧ index < task.count
  | _ => True

/-- The datagram in hand has a route and room on its queue. -/
def Served (self : Receiver) : Prop :=
  ∀ source, self.hand = some source → ∃ task route, self.datagrams source = some task ∧
    (task.state = .waiting ∧ self.routes (datagramId task.bytes) = some route ∨
      task.state = .sending route) ∧ self.Roomy route.sender

/-- Nothing holds up the packets of the association and the origin. -/
structure Calm (association : Nat) (origin : Origin) (receiver : Receiver) : Prop where
  served : receiver.Served
  running : ∀ task, receiver.controls association = some task → task.running = true
  intact : ¬ receiver.Broken origin

variable {self next : Receiver} {association stream : Nat} {origin : Origin}

theorem Served.of_same (served : self.Served) (hand : next.hand = self.hand)
    (datagrams : next.datagrams = self.datagrams)
    (routes : ∀ source task, self.hand = some source → self.datagrams source = some task →
      ∀ route, self.routes (datagramId task.bytes) = some route →
        next.routes (datagramId task.bytes) = some route)
    (roomy : ∀ association, self.Roomy association → next.Roomy association) : next.Served := by
  intro source held
  rw [hand] at held
  obtain ⟨task, route, here, stage, room⟩ := served source held
  exact ⟨task, route, datagrams ▸ here,
    stage.imp_left fun waits => ⟨waits.1, routes source task held here route waits.2⟩, roomy _ room⟩

/-- A handler that has failed was failing already, or fails past the packet. -/
theorem intact_update {task : IncomingStream} (intact : ¬ self.Broken origin)
    (streams : next.streams = Function.update self.streams stream (some task))
    (fails : ∀ text, task.state = .ended (.error (.read text)) →
      (∃ earlier, self.streams stream = some earlier ∧ earlier.state = task.state ∧ earlier.count = task.count) ∨
        ∀ index, origin = .packet stream index → index < task.count) : ¬ next.Broken origin := by
  cases origin with
  | datagram source => exact id
  | packet other index =>
    rintro ⟨later, text, here, failed, early⟩
    rw [streams] at here
    rcases Table.of_update here with ⟨rfl, rfl⟩ | ⟨_, there⟩
    · rcases fails text failed with ⟨earlier, there, same, count⟩ | past
      · exact intact ⟨earlier, text, there, same.trans failed, count ▸ early⟩
      · exact absurd (past index rfl) (Nat.not_lt.mpr early)
    · exact intact ⟨later, text, there, failed, early⟩

theorem Broken.of_streams (streams : next.streams = self.streams) (intact : ¬ self.Broken origin) :
    ¬ next.Broken origin := by
  cases origin with
  | datagram source => exact id
  | packet stream index =>
    rintro ⟨task, text, here, rest⟩
    exact intact ⟨task, text, streams ▸ here, rest⟩

theorem queued_push_le (self : Receiver) (delivery : Delivery) (association : Nat) :
    (self.push delivery).queued association ≤
      if association = delivery.association then self.queued association + 1 else self.queued association := by
  simp only [queued, push, List.filter_append, List.length_append]
  by_cases own : association = delivery.association
  · rw [if_pos own, List.filter_cons_of_pos (by simp [own])]
    simp only [List.filter_nil, List.length_singleton]
    omega
  · rw [if_neg own, List.filter_cons_of_neg (by simp [Ne.symm own]), List.filter_nil]
    exact Nat.le_refl _

theorem Roomy.push {delivery : Delivery} {association : Nat} (roomy : self.Roomy association)
    (room : self.queued delivery.association + 1 < queueCapacity) :
    (self.push delivery).Roomy association := by
  refine roomy.imp id fun less => lt_of_le_of_lt (self.queued_push_le delivery association) ?_
  split
  · rename_i own
    rw [own]
    exact room
  · exact less

end Receiver

/-- The steps of the server's half and of the receiver that the packet is spared by. -/
def Link.Spares (association : Nat) (origin : Origin) (self : Link) : LinkAction → Prop
  | .send action => self.sender.Draws action → self.sender.allocated < 65536
  | .receive action => self.receiver.Spares association origin action
  | _ => True

section Steps
open Receiver
variable {link : Link} {next : Receiver} {association : Nat} {origin : Origin} {action : ReceiveAction}

/-- A route stays what it is as long as ids are not shared and no control stream ends. -/
theorem Link.Sound.route_kept {after : Link} (sound : after.Sound) (before : link.Sound)
    (same : after.sender = link.sender) (unshared : ∀ id, link.sender.Unshared id) {id : UInt16}
    {route : IncomingUdpRoute} (known : link.receiver.routes id = some route)
    (there : (after.receiver.routes id).isSome = true) : after.receiver.routes id = some route := by
  obtain ⟨later, found⟩ := Option.isSome_iff_exists.mp there
  rw [found, unshared id later route (same ▸ sound.routes id later found) (before.routes id route known)]

theorem Link.Kept.served {after : Link} (kept : link.Kept) (sound : after.Sound)
    (same : after.sender = link.sender) (unshared : ∀ id, link.sender.Unshared id)
    (served : link.receiver.Served) (spares : link.receiver.Spares association origin action)
    (rule : Rule .inline link.receiver action after.receiver) : after.receiver.Served := by
  generalize now : after.receiver = next at rule
  have still : next.hand = link.receiver.hand → next.datagrams = link.receiver.datagrams →
      next.routes = link.receiver.routes → next.log = link.receiver.log →
      next.taken = link.receiver.taken → next.dropped = link.receiver.dropped → next.Served :=
    fun hand datagrams routes log taken dropped => served.of_same hand datagrams
      (fun _ _ _ _ _ found => routes ▸ found) fun other roomy => by
        simpa only [Roomy, queued, log, taken, dropped] using roomy
  have free : ∀ {source : Nat} {task : DatagramTask} (state : Receiver) (result : Result Unit),
      link.receiver.datagrams source = some task → (∀ result, task.state ≠ .ended result) →
      state.hand = link.receiver.hand → (state.endDatagram source task result).Served := by
    intro source task state result here running hand other held
    have busy := kept.inline.alone source task here running
    rw [endDatagram, hand, if_pos busy] at held
    cases held
  cases rule with
  | datagramRead source bytes rest first ready =>
    rw [Receiver.startDatagram]
    have idle : link.receiver.hand = none := by simpa [Receiver.ready] using ready
    split
    · intro other held
      cases idle.symm.trans held
    · rename_i long
      rintro other ⟨⟩
      obtain ⟨route, found, room⟩ := spares source bytes rest first (Nat.not_lt.mp long)
      exact ⟨_, route, Receiver.setDatagram_self _ _, Or.inl ⟨rfl, found⟩, room⟩
  | routed source task route here waiting found =>
    have busy := kept.inline.alone source task here (by simp [waiting])
    rintro other held
    obtain rfl : source = other := Option.some.inj (busy.symm.trans held)
    obtain ⟨current, known, there, stage, room⟩ := served source busy
    obtain rfl := Option.some.inj (here.symm.trans there)
    rcases stage with ⟨_, listed⟩ | sending
    · obtain rfl := Option.some.inj (found.symm.trans listed)
      exact ⟨_, route, Receiver.setDatagram_self _ _, Or.inr rfl, room⟩
    · cases waiting.symm.trans sending
  | quit source task here waiting shut => exact free _ _ here (by simp [waiting]) rfl
  | refused source task route here sending gone => exact free _ _ here (by simp [sending]) rfl
  | delivered source task route here sending held room => exact free _ _ here (by simp [sending]) rfl
  | registered other task destination id rest here running read =>
    refine served.of_same rfl rfl (fun source held task there route known => ?_) fun _ roomy => roomy
    rw [← now]
    refine sound.route_kept kept.sound same unshared known ?_
    rw [now]
    simp only [Receiver.register, Function.update_apply]
    split
    · rfl
    · rw [known]
      rfl
  | garbled other task error here running read =>
    rcases (kept.sound.controls other task here).next kept.sound.valid with waits | ⟨_, _, _, done, _⟩
    · cases waits.symm.trans read
    · cases done.symm.trans read
  | stopped other task here running =>
    refine served.of_same rfl rfl (fun source datagram held there route known => ?_) fun _ roomy => roomy
    have foreign := spares.2 task source datagram here held there
    exact (if_neg foreign).trans known
  | packetDelivered stream task route data here sending held room =>
    cases busy : link.receiver.hand with
    | none =>
      intro source held
      cases busy.symm.trans held
    | some source =>
      have left := spares (by simp [busy]) task route data here sending
      exact served.of_same rfl rfl (fun _ _ _ _ _ found => found) fun _ roomy =>
        roomy.push left
  | taken other queued =>
    refine served.of_same rfl rfl (fun _ _ _ _ _ found => found) fun association roomy => ?_
    refine roomy.imp id fun less => lt_of_le_of_lt ?_ less
    simp only [Receiver.queued, Function.update_apply]
    split
    · rename_i own
      subst own
      omega
    · exact Nat.le_refl _
  | queueDropped other =>
    refine served.of_same rfl rfl (fun _ _ _ _ _ found => found) fun association roomy => ?_
    refine roomy.imp (fun gone => ?_) id
    simp only [Function.update_apply]
    split
    · rfl
    · exact gone
  | _ => exact still rfl rfl rfl rfl rfl rfl

theorem Link.Kept.running {next : Receiver} (kept : link.Kept)
    (running : ∀ task, link.receiver.controls association = some task → task.running = true)
    (spares : link.receiver.Spares association origin action)
    (rule : Rule .inline link.receiver action next) :
    ∀ task, next.controls association = some task → task.running = true := by
  have moved : ∀ {other : Nat} {later : ControlTask} {state : Receiver},
      (association = other → later.running = true) →
      state.controls = Function.update link.receiver.controls other (some later) →
      ∀ task, state.controls association = some task → task.running = true := by
    intro other later state lives controls task here
    rw [controls] at here
    rcases Table.of_update here with ⟨rfl, rfl⟩ | ⟨_, there⟩
    · exact lives rfl
    · exact running task there
  cases rule with
  | associated other absent => exact moved (fun _ => rfl) rfl
  | controlArrived other bytes task here => exact moved (by rintro rfl; exact running task here) rfl
  | registered other task destination id rest here runs read =>
    exact @moved other { task with unread := rest, records := task.records ++ [(destination, id)] } _
      (fun _ => runs) rfl
  | garbled other task error here runs read =>
    rcases (kept.sound.controls other task here).next kept.sound.valid with waits | ⟨_, _, _, done, _⟩
    · cases waits.symm.trans read
    · cases done.symm.trans read
  | stopped other task here runs => exact moved (fun own => absurd own.symm spares.1) rfl
  | datagramRead source bytes rest first ready =>
    rw [Receiver.startDatagram]
    split <;> exact running
  | _ => exact running

/-- Only a stream that fails can break the packet. -/
theorem intact_of_rule {self next : Receiver} (intact : ¬ self.Broken origin)
    (spares : self.Spares association origin action) (rule : Rule .inline self action next) :
    ¬ next.Broken origin := by
  cases rule with
  | datagramRead source bytes rest first ready =>
    refine Broken.of_streams ?_ intact
    rw [Receiver.startDatagram]
    split <;> rfl
  | streamArrived stream absent => exact intact_update intact rfl (fun text failed => by cases failed)
  | bytesArrived stream bytes task here =>
    exact intact_update intact rfl fun _ _ => Or.inl ⟨task, here, rfl, rfl⟩
  | accepted stream task here waiting ready => exact intact_update intact rfl (fun text failed => by cases failed)
  | idRead stream task id rest here header read =>
    exact intact_update intact rfl (fun text failed => by cases failed)
  | streamRouted stream task id route here waiting found =>
    exact intact_update intact rfl (fun text failed => by cases failed)
  | streamQuit stream task id here waiting shut =>
    exact intact_update intact rfl (fun text failed => by cases failed)
  | packetRead stream task route data rest here reading read =>
    exact intact_update intact rfl (fun text failed => by cases failed)
  | packetRefused stream task route data here sending gone =>
    exact intact_update intact rfl (fun text failed => by cases failed)
  | packetDelivered stream task route data here sending held room =>
    exact intact_update intact rfl (fun text failed => by cases failed)
  | streamFailed stream text task here reads =>
    have past : ∀ index, origin = .packet stream index → index < task.count := by
      intro index same
      obtain ⟨current, there, past⟩ := spares index same
      obtain rfl := Option.some.inj (here.symm.trans there)
      exact past
    exact intact_update intact rfl fun _ _ => Or.inr past
  | _ => exact Broken.of_streams rfl intact

/-- Below 65536 draws, steps that spare the packet leave nothing in its way. -/
theorem linkStep_calm {self after : Link} {step : LinkAction} (kept : self.Kept)
    (few : self.sender.allocated ≤ 65536) (calm : self.receiver.Calm association origin)
    (spares : self.Spares association origin step) (stepped : linkStep .inline self step = some after) :
    after.sender.allocated ≤ 65536 ∧ after.receiver.Calm association origin := by
  have sound := linkStep_sound kept.sound stepped
  have received : ∀ {action : ReceiveAction}, after.sender = self.sender →
      self.receiver.Spares association origin action →
      receiveStep .inline self.receiver action = some after.receiver →
      after.sender.allocated ≤ 65536 ∧ after.receiver.Calm association origin := by
    intro action same spared moved
    have rule := receiveStep_rule moved
    exact ⟨same ▸ few, kept.served sound same (kept.sound.valid.unshared few) calm.served spared rule,
      kept.running calm.running spared rule, intact_of_rule calm.intact spared rule⟩
  cases step with
  | send action =>
    obtain ⟨sender, sent, rfl⟩ := Option.map_eq_some_iff.mp stepped
    exact ⟨self.sender.allocated_le few spares sent, calm⟩
  | receive action =>
    simp only [linkStep] at stepped
    split at stepped
    · contradiction
    · obtain ⟨receiver, moved, rfl⟩ := Option.map_eq_some_iff.mp stepped
      exact received rfl spares moved
  | controlArrives other count =>
    obtain ⟨connection, _, arrives⟩ := Option.bind_eq_some_iff.mp stepped
    obtain ⟨receiver, moved, rfl⟩ := Option.map_eq_some_iff.mp arrives
    refine received rfl ?_ moved
    trivial
  | datagramArrives source =>
    obtain ⟨datagram, _, arrives⟩ := Option.bind_eq_some_iff.mp stepped
    obtain ⟨receiver, moved, rfl⟩ := Option.map_eq_some_iff.mp arrives
    refine received rfl ?_ moved
    trivial
  | streamArrives stream =>
    obtain ⟨uni, _, arrives⟩ := Option.bind_eq_some_iff.mp stepped
    obtain ⟨receiver, moved, rfl⟩ := Option.map_eq_some_iff.mp arrives
    refine received rfl ?_ moved
    trivial
  | bytesArrive stream count =>
    obtain ⟨uni, _, arrives⟩ := Option.bind_eq_some_iff.mp stepped
    obtain ⟨receiver, moved, rfl⟩ := Option.map_eq_some_iff.mp arrives
    refine received rfl ?_ moved
    trivial

end Steps

section Runs
open Transition
variable {actions : List LinkAction} {link : Link} {association : Nat} {origin : Origin}

theorem run_calm (execution : run (linkStep .inline) .initial actions = some link)
    (spares : Meets (linkStep .inline) (Link.Spares association origin) .initial actions) :
    link.sender.allocated ≤ 65536 ∧ link.receiver.Calm association origin := by
  have all : link.Kept ∧ link.sender.allocated ≤ 65536 ∧ link.receiver.Calm association origin := by
    refine meets_invariant (P := fun link => link.Kept ∧ link.sender.allocated ≤ 65536 ∧
      link.receiver.Calm association origin) ?_ execution spares ⟨Link.initial_kept, Nat.zero_le _, ?_, ?_, ?_⟩
    · rintro before action after ⟨kept, few, calm⟩ met stepped
      exact ⟨linkStep_kept kept stepped, linkStep_calm kept few calm met stepped⟩
    · exact fun source held => nomatch held
    · exact fun task here => nomatch here
    · cases origin with
      | datagram source => exact id
      | packet stream index => exact fun broken => nomatch broken
  exact all.2

/-- Once all tasks are blocked, a loop whose datagram has a route and room is free. -/
theorem Link.Kept.free {self : Link} (quiet : self.receiver.Quiescent .inline)
    (served : self.receiver.Served) : self.receiver.hand = none := by
  cases busy : self.receiver.hand with
  | none => rfl
  | some source =>
    obtain ⟨task, route, here, stage, room⟩ := served source busy
    rcases stage with ⟨waiting, found⟩ | sending
    · exact (quiet.blocks (.routed _ _ _ here waiting found) rfl).elim
    · by_cases gone : self.receiver.dropped route.sender = true
      · exact (quiet.blocks (.refused _ _ _ here sending gone) rfl).elim
      · have held := Bool.eq_false_of_not_eq_true gone
        exact (quiet.blocks (.delivered _ _ _ here sending held (room.resolve_left gone)) rfl).elim

/-- The control stream of an association whose record has arrived is there. -/
theorem Link.Sound.opened {self : Link} (sound : self.Sound) {record : Address × Nat}
    (arrived : self.RecordArrived association record) :
    ∃ task, self.receiver.controls association = some task := by
  obtain ⟨before, after, split, enough⟩ := arrived
  refine Option.ne_none_iff_exists'.mp fun missing => ?_
  have member : record ∈ self.sender.records association := by
    rw [split]
    exact List.mem_append_right _ List.mem_cons_self
  have decoded := sound.valid.readRecord member []
  rw [sound.unopened association missing, List.flatMap_append, List.length_append] at enough
  have empty : recordBytes record = [] := by
    refine List.eq_nil_of_length_eq_zero ?_
    rw [List.flatMap_singleton] at enough
    omega
  rw [empty] at decoded
  exact absurd decoded (by simp [readRecord_nil])

theorem Link.Kept.unhindered {self : Link} (kept : self.Kept) (quiet : self.receiver.Quiescent .inline)
    (calm : self.receiver.Calm association origin) {record : Address × Nat}
    (arrived : self.RecordArrived association record) : self.receiver.Unhindered association origin where
  free := fun _ => Link.Kept.free quiet calm.served
  opened := fun _ => by
    obtain ⟨task, here⟩ := kept.sound.opened arrived
    exact ⟨task, here, calm.running task here⟩
  intact := calm.intact

/-- Every packet of the server that has arrived together with its record, on whose queue there is room,
is on that queue once all tasks of the client have run until they block, if the client authenticated the
SunnyQUIC way and the steps of the run have spared the packet. If it authenticated the JLS way the packet
never is. -/
theorem reply_queued {authentication : ClientAuthentication} {call : Nat} {packet : ShadowQuicPacket}
    {context : OutgoingUdpContext}
    (execution : run (linkStep authentication.dispatch) .initial actions = some link)
    (quiet : link.receiver.Quiescent authentication.dispatch)
    (reply : link.Reply association call packet context origin)
    (room : link.receiver.queued association < queueCapacity)
    (held : link.receiver.dropped association = false) :
    (∀ credential, authentication = .sunny credential →
      Meets (linkStep authentication.dispatch) (Link.Spares association origin) .initial actions →
      link.OnQueue association packet origin) ∧
    (authentication = .jls → ¬ link.OnQueue association packet origin) := by
  constructor
  · rintro credential rfl spares
    obtain ⟨few, calm⟩ := run_calm execution spares
    have kept := run_kept execution
    have unshared := kept.sound.valid.unshared few (wireId context.number)
    exact (onQueue_iff_unhindered execution quiet reply unshared room held).mpr
      ⟨⟨credential, rfl⟩, kept.unhindered quiet calm reply.record⟩
  · rintro rfl ⟨entry, member, _⟩
    rw [(run_sound execution).log_unserved (run_unserved execution)] at member
    contradiction

/-- The server sends one packet; its record and its datagram arrive, and the client reads the record. -/
def replyRun : List LinkAction :=
  [.send (.associate .datagram), .receive (.associate 0),
    .send (.start 0 ⟨[7], ⟨"c", 1, by decide⟩⟩ (.ok ())), .send (.flowControl 0 7),
    .send (.proceed 0 (.ok ())), .controlArrives 0 7, .datagramArrives 0, .receive (.record 0)]

/-- A SunnyQUIC client also reads the datagram, finds its route and queues it. -/
def servedRun : List LinkAction :=
  replyRun ++ [.receive .readDatagram, .receive (.route 0), .receive (.deliver 0)]

/-- What the receive loop and the control stream of the run do spares the packet, whoever runs it. -/
theorem spares_replyRun (dispatch : Dispatch) (state : Link)
    (execution : run (linkStep dispatch) .initial replyRun = some state) (rest : List LinkAction)
    (later : Meets (linkStep dispatch) (Link.Spares 0 (.datagram 0)) state rest) :
    Meets (linkStep dispatch) (Link.Spares 0 (.datagram 0)) .initial (replyRun ++ rest) := by
  obtain rfl := Option.some.inj execution
  refine (meets_cons rfl).mpr ⟨False.elim, (meets_cons rfl).mpr ⟨trivial, (meets_cons rfl).mpr ⟨fun _ => by decide,
    (meets_cons rfl).mpr ⟨False.elim, (meets_cons rfl).mpr ⟨False.elim, (meets_cons rfl).mpr ⟨trivial,
      (meets_cons rfl).mpr ⟨trivial, (meets_cons rfl).mpr ⟨trivial, later⟩⟩⟩⟩⟩⟩⟩⟩

theorem reply_queued_served :
    ∃ link, run (linkStep (ClientAuthentication.sunny ⟨List.replicate 64 0, rfl⟩).dispatch) .initial servedRun =
        some link ∧ link.OnQueue 0 ⟨[7], ⟨"c", 1, by decide⟩⟩ (.datagram 0) := by
  have execution : run (linkStep (ClientAuthentication.sunny ⟨List.replicate 64 0, rfl⟩).dispatch)
      .initial servedRun = some _ := rfl
  refine ⟨_, execution, (reply_queued execution ?_ (?_ : Link.Reply _ 0 0 _ (.datagram 0) _)
    (by decide) rfl).1 _ rfl ?_⟩
  · intro action own
    cases action with
    | record association => cases association <;> rfl
    | readDatagram => rfl
    | route source => cases source <;> rfl
    | quit source => cases source <;> rfl
    | deliver source => cases source <;> rfl
    | accept stream => rfl
    | readId stream => rfl
    | routeStream stream => rfl
    | quitStream stream => rfl
    | readPacket stream => rfl
    | deliverPacket stream => rfl
    | _ => contradiction
  · refine ⟨rfl, ⟨_, rfl, rfl⟩, ⟨_, rfl, rfl, rfl⟩, ⟨[], [], rfl, by decide⟩,
      Or.inr (Option.some_ne_none _)⟩
  · refine spares_replyRun _ _ rfl _ ((meets_cons rfl).mpr ⟨?_, (meets_cons rfl).mpr ⟨trivial,
      (meets_cons rfl).mpr ⟨trivial, trivial⟩⟩⟩)
    rintro source bytes rest ⟨⟩ _
    exact ⟨_, rfl, Or.inr (by decide)⟩

/-- With a JLS client the same run, all of whose steps spare the packet, ends with every task blocked, the
record read, the datagram received and the queue empty. -/
theorem reply_lost_jls :
    ∃ link, run (linkStep ClientAuthentication.jls.dispatch) .initial replyRun = some link ∧
      Meets (linkStep ClientAuthentication.jls.dispatch) (Link.Spares 0 (.datagram 0)) .initial replyRun ∧
      link.receiver.Quiescent ClientAuthentication.jls.dispatch ∧
      link.Reply 0 0 ⟨[7], ⟨"c", 1, by decide⟩⟩ (.datagram 0) (.datagram 0) ∧
      link.receiver.queued 0 < queueCapacity ∧ link.receiver.dropped 0 = false ∧
      ¬ link.OnQueue 0 ⟨[7], ⟨"c", 1, by decide⟩⟩ (.datagram 0) := by
  refine ⟨_, rfl, ?_, ?_, ?_, by decide, rfl, ?_⟩
  · have spared := spares_replyRun ClientAuthentication.jls.dispatch _ rfl [] trivial
    rwa [List.append_nil] at spared
  · intro action own
    cases action with
    | record association => cases association <;> rfl
    | readDatagram => rfl
    | route source => rfl
    | quit source => rfl
    | deliver source => rfl
    | accept stream => rfl
    | readId stream => rfl
    | routeStream stream => rfl
    | quitStream stream => rfl
    | readPacket stream => rfl
    | deliverPacket stream => rfl
    | _ => contradiction
  · exact ⟨rfl, ⟨_, rfl, rfl⟩, ⟨_, rfl, rfl, rfl⟩, ⟨[], [], rfl, by decide⟩,
      Or.inl (by decide)⟩
  · rintro ⟨entry, member, _⟩
    exact absurd member List.not_mem_nil

end Runs
end SingQuic.ShadowQuic
