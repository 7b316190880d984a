import SingQuic.ShadowQuic.ReceiveLoop

/-! The client's receive loop waits for the route of a datagram itself, so one
datagram whose id has no route holds up everything behind it: all datagrams and all
new streams, whatever their ids. -/
namespace SingQuic.ShadowQuic
open Wire

namespace Receiver

/-- The id that an action enters into the registry. -/
def registers (self : Receiver) : ReceiveAction → Option UInt16
  | .record association => (self.controls association).bind fun task =>
      match readRecord task.unread with
      | .done (_, id) _ => some id
      | _ => none
  | _ => none

/-- A step that registers nothing but, perhaps, the given id. -/
def RegistersOnly (id : UInt16) (self : Receiver) (action : ReceiveAction) : Prop :=
  ∀ other, self.registers action = some other → other = id

/-- The id is registered to an open association with free queue space. -/
def Accepts (self : Receiver) (id : UInt16) : Prop :=
  ∃ route, self.routes id = some route ∧ self.dropped route.sender = false ∧
    self.queued route.sender < queueCapacity

/-- A datagram that the connection has received and that waits to be read or, read,
for its route. -/
def Received (self : Receiver) (source : Nat) (bytes : Bytes) : Prop :=
  (source, bytes) ∈ self.inbox ∨ self.datagrams source = some ⟨bytes, .waiting⟩

/-- A stream that nobody has accepted yet and that starts with the given id. -/
def Unaccepted (self : Receiver) (stream : Nat) (id : UInt16) : Prop :=
  ∃ task rest, self.streams stream = some task ∧ task.state = .unaccepted ∧
    readU16 task.unread = .done id rest

/-- Whatever was received for a registered id can be delivered, or handed to a
handler that has its route, without a registration of any other id. -/
structure Independent (receiver : Receiver) : Prop where
  datagram : ∀ source bytes, receiver.Received source bytes → 2 ≤ bytes.length →
    receiver.Accepts (datagramId bytes) →
    ∃ final, Transition.Can (receiveStep .inline) (RegistersOnly (datagramId bytes)) receiver final ∧
      ∃ entry ∈ final.log, entry.origin = .datagram source
  stream : ∀ stream id, receiver.Unaccepted stream id → receiver.Accepts id →
    ∃ final, Transition.Can (receiveStep .inline) (RegistersOnly id) receiver final ∧
      ∃ task route, final.streams stream = some task ∧ task.state = .reading route

/-- The loop waits for a route that is not there. -/
def Parked (self : Receiver) : Prop :=
  ∃ source task, self.hand = some source ∧ self.datagrams source = some task ∧
    task.state = .waiting ∧ self.routes (datagramId task.bytes) = none

/-- A datagram that would park the loop. -/
def Unrouted (self : Receiver) (bytes : Bytes) : Prop :=
  2 ≤ bytes.length ∧ self.routes (datagramId bytes) = none

/-- Nothing for a registered id stands behind a datagram without a route. -/
structure Clear (receiver : Receiver) : Prop where
  datagram : ∀ before source bytes after, receiver.inbox = before ++ (source, bytes) :: after →
    2 ≤ bytes.length → receiver.Accepts (datagramId bytes) →
    ¬ receiver.Parked ∧ ∀ entry ∈ before, ¬ receiver.Unrouted entry.2
  stream : ∀ stream id, receiver.Unaccepted stream id → receiver.Accepts id → ¬ receiver.Parked

section Progress
variable {self : Receiver} {source stream association : Nat} {task : DatagramTask}
  {route : IncomingUdpRoute} {id : UInt16}

/-- After the loop has dealt with what it had in hand. -/
structure Freed (before after : Receiver) (inbox : List (Nat × Bytes)) : Prop where
  hand : after.hand = none
  routes : after.routes = before.routes
  dropped : after.dropped = before.dropped
  streams : after.streams = before.streams
  inbox : after.inbox = inbox

theorem Freed.trans {middle after : Receiver} {first second : List (Nat × Bytes)}
    (one : Freed self middle first) (two : Freed middle after second) : Freed self after second where
  hand := two.hand
  routes := two.routes.trans one.routes
  dropped := two.dropped.trans one.dropped
  streams := two.streams.trans one.streams
  inbox := two.inbox

/-- A handler that has its route puts the payload onto the queue, or gives up because
the queue is gone; either way the loop goes on. -/
theorem can_deliver (id : UInt16) (held : self.hand = some source) (here : self.datagrams source = some task)
    (sending : task.state = .sending route) :
    ∃ final, Transition.Can (receiveStep .inline) (RegistersOnly id) self final ∧
      Freed self final self.inbox ∧
      (self.dropped route.sender = false → ∃ entry ∈ final.log, entry.origin = .datagram source) := by
  obtain ⟨taken, drained, room⟩ := can_drain .inline (RegistersOnly id) self route.sender
    fun _ _ other => by cases other
  let ready : Receiver := { self with taken }
  have quiet : RegistersOnly id ready (.deliver source) := fun _ other => by cases other
  cases gone : self.dropped route.sender with
  | true =>
    have refused : Rule .inline ready _ _ := .refused source task route here sending gone
    exact ⟨_, drained.trans (.head quiet refused.step .refl), ⟨if_pos held, rfl, rfl, rfl, rfl⟩,
      fun kept => by contradiction⟩
  | false =>
    have delivered : Rule .inline ready _ _ := .delivered source task route here sending gone room
    refine ⟨_, drained.trans (.head quiet delivered.step .refl), ⟨if_pos held, rfl, rfl, rfl, rfl⟩,
      fun _ => ⟨delivery source task route, ?_, rfl⟩⟩
    exact List.mem_append_right _ (List.mem_singleton_self _)

/-- A handler whose route is there goes on. -/
theorem can_route (id : UInt16) (held : self.hand = some source) (here : self.datagrams source = some task)
    (waiting : task.state = .waiting) (found : self.routes (datagramId task.bytes) = some route) :
    ∃ final, Transition.Can (receiveStep .inline) (RegistersOnly id) self final ∧
      Freed self final self.inbox ∧
      (self.dropped route.sender = false → ∃ entry ∈ final.log, entry.origin = .datagram source) := by
  have routed : Rule .inline self _ _ := .routed source task route here waiting found
  have placed : (self.setDatagram source { task with state := .sending route }).hand = some source := held
  obtain ⟨final, can, freed, delivered⟩ := can_deliver id placed (self.setDatagram_self _) rfl
  exact ⟨final, .head (fun _ other => by cases other) routed.step can,
    ⟨freed.hand, freed.routes, freed.dropped, freed.streams, freed.inbox⟩, delivered⟩

/-- A loop that is not parked gets free. -/
theorem Inline.can_free (inline : self.Inline) (moving : ¬ self.Parked) :
    ∃ final, Transition.Can (receiveStep .inline) (RegistersOnly id) self final ∧
      Freed self final self.inbox := by
  cases held : self.hand with
  | none => exact ⟨self, .refl, held, rfl, rfl, rfl, rfl⟩
  | some source =>
    obtain ⟨task, here, waiting | ⟨route, sending⟩⟩ := inline.busy source held
    · cases found : self.routes (datagramId task.bytes) with
      | none => exact absurd ⟨source, task, held, here, waiting, found⟩ moving
      | some route =>
        obtain ⟨final, can, freed, _⟩ := can_route id held here waiting found
        exact ⟨final, can, freed⟩
    · obtain ⟨final, can, freed, _⟩ := can_deliver id held here sending
      exact ⟨final, can, freed⟩

/-- A free loop deals with the first datagram of the inbox unless it has no route. -/
theorem can_read (id : UInt16) {bytes : Bytes} {rest : List (Nat × Bytes)} (free : self.hand = none)
    (first : self.inbox = (source, bytes) :: rest) (routed : ¬ self.Unrouted bytes) :
    ∃ final, Transition.Can (receiveStep .inline) (RegistersOnly id) self final ∧
      Freed self final rest ∧ ∀ route, 2 ≤ bytes.length → self.routes (datagramId bytes) = some route →
        self.dropped route.sender = false → ∃ entry ∈ final.log, entry.origin = .datagram source := by
  have ready : self.ready .inline = true := by simp [Receiver.ready, free]
  have stepped := (Rule.datagramRead source bytes rest first ready).step
  have quiet : RegistersOnly id self .readDatagram := fun _ other => by cases other
  by_cases short : bytes.length < 2
  · refine ⟨_, .head quiet stepped .refl, ?_, fun _ long => absurd long (by omega)⟩
    rw [startDatagram, if_pos short]
    exact ⟨free, rfl, rfl, rfl, rfl⟩
  · have long : 2 ≤ bytes.length := Nat.le_of_not_lt short
    cases found : self.routes (datagramId bytes) with
    | none => exact absurd ⟨long, found⟩ routed
    | some route =>
      rw [startDatagram, if_neg short] at stepped
      let reading : Receiver := { ({ self with inbox := rest }.setDatagram source ⟨bytes, .waiting⟩) with
        hand := some source }
      have here : reading.datagrams source = some ⟨bytes, .waiting⟩ := setDatagram_self _ _
      obtain ⟨final, can, freed, delivered⟩ := can_route id (rfl : reading.hand = some source) here rfl found
      refine ⟨final, .head quiet stepped can,
        ⟨freed.hand, freed.routes, freed.dropped, freed.streams, freed.inbox⟩, fun other _ same => ?_⟩
      cases same
      exact delivered

/-- A free loop gets past any number of datagrams that have routes. -/
theorem can_advance {before after : List (Nat × Bytes)} (free : self.hand = none)
    (split : self.inbox = before ++ after) (routed : ∀ entry ∈ before, ¬ self.Unrouted entry.2) :
    ∃ final, Transition.Can (receiveStep .inline) (RegistersOnly id) self final ∧
      Freed self final after := by
  induction before generalizing self with
  | nil => exact ⟨self, .refl, free, rfl, rfl, rfl, split⟩
  | cons entry rest ih =>
    obtain ⟨middle, can, freed, _⟩ := can_read id free split (routed entry (by simp))
    obtain ⟨final, onward, further⟩ := ih freed.hand freed.inbox fun other member => by
      rw [Unrouted, freed.routes]
      exact routed other (List.mem_cons_of_mem _ member)
    exact ⟨final, can.trans onward, freed.trans further⟩

theorem Inline.independent (inline : self.Inline) (clear : self.Clear) : self.Independent where
  datagram source bytes received long accepts := by
    obtain ⟨route, found, kept, room⟩ := accepts
    rcases received with member | here
    · obtain ⟨before, after, split⟩ := List.append_of_mem member
      obtain ⟨moving, routed⟩ := clear.datagram before source bytes after split long ⟨route, found, kept, room⟩
      obtain ⟨middle, first, freed⟩ := inline.can_free moving
      obtain ⟨next, second, further⟩ := can_advance freed.hand (freed.inbox.trans split)
        fun entry member => by
          rw [Unrouted, freed.routes]
          exact routed entry member
      have same := freed.trans further
      obtain ⟨final, third, _, delivered⟩ := can_read _ same.hand same.inbox fun unrouted => by
        rw [Unrouted, same.routes, found] at unrouted
        exact absurd unrouted.2 (by simp)
      refine ⟨final, (first.trans second).trans third, delivered route long ?_ ?_⟩
      · rw [same.routes, found]
      · rw [same.dropped, kept]
    · have held := inline.alone source _ here (by simp)
      obtain ⟨final, can, _, delivered⟩ := can_route _ held here rfl found
      exact ⟨final, can, delivered kept⟩
  stream stream id unaccepted accepts := by
    have moving := clear.stream stream id unaccepted accepts
    obtain ⟨task, rest, here, waiting, read⟩ := unaccepted
    obtain ⟨route, found, _, _⟩ := accepts
    obtain ⟨middle, first, freed⟩ := inline.can_free moving
    have there : middle.streams stream = some task := by rw [freed.streams, here]
    have known : middle.routes id = some route := by rw [freed.routes, found]
    have ready : middle.ready .inline = true := by simp [Receiver.ready, freed.hand]
    let opened : Receiver := middle.setStream stream { task with state := .header }
    let named : Receiver := opened.setStream stream { task with unread := rest, state := .waiting id }
    have accepted : Rule .inline middle _ opened := .accepted stream task there waiting ready
    have naming : Rule .inline opened _ named :=
      .idRead stream { task with state := .header } id rest (middle.setStream_self _) rfl read
    have routed : Rule .inline named _ _ :=
      .streamRouted stream _ id route (opened.setStream_self _) rfl known
    refine ⟨_, first.trans (.head ?_ accepted.step (.head ?_ naming.step (.head ?_ routed.step .refl))), _,
      route, setStream_self _ _, rfl⟩ <;> exact fun _ other => by cases other

end Progress

section Blockage
variable {self next : Receiver} {source stuck stream : Nat} {content : Bytes} {id : UInt16}
  {action : ReceiveAction}

/-- An id without a route stays so until it is registered itself. -/
theorem unrouted_step {other : UInt16} (missing : self.routes other = none) (different : other ≠ id)
    (only : self.RegistersOnly id action) (stepped : receiveStep .inline self action = some next) :
    next.routes other = none := by
  cases receiveStep_control stepped with
  | quiet _ routes => rw [routes, missing]
  | registered association task destination fresh rest _ asked here _ read same =>
    have enters : self.registers action = some fresh := by
      rw [asked, registers, here, Option.bind_some, read]
    rw [same]
    refine (Function.update_of_ne ?_ _ _).trans missing
    rw [only fresh enters]
    exact different
  | ended association task _ _ same =>
    rw [same]
    simp only [teardown]
    split
    · rfl
    · exact missing

/-- The loop waits for the route of this datagram. -/
structure Stuck (stuck : Nat) (content : Bytes) (receiver : Receiver) : Prop where
  hand : receiver.hand = some stuck
  waiting : receiver.datagrams stuck = some ⟨content, .waiting⟩

theorem Stuck.step (inline : self.Inline) (wait : Stuck stuck content self)
    (missing : self.routes (datagramId content) = none)
    (stepped : receiveStep .inline self action = some next) :
    Stuck stuck content next ∧ ∃ more, next.inbox = self.inbox ++ more := by
  -- a handler that is sending would have to be the one in hand, which is waiting
  have foreign : ∀ {other : Nat} {task : DatagramTask} {route : IncomingUdpRoute},
      self.datagrams other = some task → task.state = .sending route → False := by
    intro other task route here sending
    have held := inline.alone other task here (by simp [sending])
    cases wait.hand.symm.trans held
    cases wait.waiting.symm.trans here
    contradiction
  cases (receiveStep_loop stepped).1 with
  | quiet inbox datagrams hand =>
    exact ⟨⟨hand.trans wait.hand, by rw [datagrams, wait.waiting]⟩, [], by simp [inbox]⟩
  | arrived other bytes _ _ same =>
    subst next
    exact ⟨⟨wait.hand, wait.waiting⟩, _, rfl⟩
  | read other bytes rest _ first ready same =>
    simp [Receiver.ready, wait.hand] at ready
  | routed other task route here waiting found same =>
    have held := inline.alone other task here (by simp [waiting])
    cases wait.hand.symm.trans held
    cases wait.waiting.symm.trans here
    cases missing.symm.trans found
  | quit other task here waiting closed same =>
    rw [inline.opened] at closed
    contradiction
  | refused other task route here sending _ same => exact (foreign here sending).elim
  | delivered other task route here sending same => exact (foreign here sending).elim

/-- The datagram is behind another one, in hand or in the inbox, without a route. -/
structure Blocked (source stuck : Nat) (content : Bytes) (receiver : Receiver) : Prop where
  inline : receiver.Inline
  missing : receiver.routes (datagramId content) = none
  unread : receiver.datagrams source = none
  ahead : (Stuck stuck content receiver ∧ source ∈ receiver.inbox.map Prod.fst) ∨
    2 ≤ content.length ∧ ∃ before after, receiver.inbox = before ++ (stuck, content) :: after ∧
      source ∈ after.map Prod.fst

/-- While the datagram is unread it cannot have been delivered. -/
theorem Blocked.undelivered (blocked : Blocked source stuck content self) :
    ¬ ∃ entry ∈ self.log, entry.origin = .datagram source := by
  rintro ⟨entry, member, origin⟩
  obtain ⟨task, result, here, _⟩ := blocked.inline.unsent entry member source origin
  rw [blocked.unread] at here
  contradiction

/-- A datagram that is ahead in the inbox comes into the loop's hand first. -/
theorem Blocked.read (blocked : Blocked source stuck content self) {other : Nat} {bytes : Bytes}
    {rest before after : List (Nat × Bytes)} (first : self.inbox = (other, bytes) :: rest)
    (long : 2 ≤ content.length) (split : self.inbox = before ++ (stuck, content) :: after)
    (behind : source ∈ after.map Prod.fst)
    (inline : ({ self with inbox := rest }.startDatagram .inline other bytes).Inline) :
    Blocked source stuck content ({ self with inbox := rest }.startDatagram .inline other bytes) := by
  have once := blocked.inline.once
  have untouched : ∀ receiver : Receiver, source ≠ other →
      receiver.datagrams source = none →
      (receiver.startDatagram .inline other bytes).datagrams source = none := by
    intro receiver different absent
    unfold startDatagram
    split <;> exact (setDatagram_ne _ different _).trans absent
  have missing : ({ self with inbox := rest }.startDatagram .inline other bytes).routes
      (datagramId content) = none := by
    rw [(startDatagram_frame _ _ _).1]
    exact blocked.missing
  cases before with
  | nil =>
    obtain ⟨heads, rfl⟩ := List.cons.inj (first.symm.trans split)
    obtain ⟨rfl, rfl⟩ := Prod.mk.inj heads
    rw [split, List.nil_append, List.map_cons, List.nodup_cons] at once
    have different : source ≠ other := by
      rintro rfl
      exact once.1 behind
    refine ⟨inline, missing, untouched _ different blocked.unread, Or.inl ?_⟩
    rw [startDatagram, if_neg (by omega)]
    exact ⟨⟨rfl, setDatagram_self _ _⟩, behind⟩
  | cons entry before =>
    obtain ⟨rfl, rfl⟩ := List.cons.inj (first.symm.trans split)
    rw [split, List.cons_append, List.map_cons, List.nodup_cons] at once
    have different : source ≠ other := by
      rintro rfl
      refine once.1 ?_
      rw [List.map_append, List.map_cons]
      exact List.mem_append_right _ (List.mem_cons_of_mem _ behind)
    refine ⟨inline, missing, untouched _ different blocked.unread,
      Or.inr ⟨long, before, after, ?_, behind⟩⟩
    unfold startDatagram
    split <;> rfl

theorem Blocked.step (blocked : Blocked source stuck content self) (different : datagramId content ≠ id)
    (only : self.RegistersOnly id action) (stepped : receiveStep .inline self action = some next) :
    Blocked source stuck content next := by
  have inline := receiveStep_inline blocked.inline stepped
  have missing := unrouted_step blocked.missing different only stepped
  have later : ∀ {other : Nat} {task : DatagramTask} (receiver : Receiver) (state : DatagramTask),
      self.datagrams other = some task → receiver.datagrams = self.datagrams →
      (receiver.setDatagram other state).datagrams source = none := by
    intro other task receiver state here same
    have apart : source ≠ other := by
      rintro rfl
      rw [blocked.unread] at here
      contradiction
    rw [setDatagram_ne _ apart, same, blocked.unread]
  rcases blocked.ahead with ⟨wait, behind⟩ | ⟨long, before, after, split, behind⟩
  · obtain ⟨still, more, inbox⟩ := wait.step blocked.inline blocked.missing stepped
    refine ⟨inline, missing, ?_, Or.inl ⟨still, ?_⟩⟩
    · -- the inbox has only grown, and what is in it is unread
      obtain ⟨⟨_, bytes⟩, member, rfl⟩ := List.mem_map.mp behind
      exact inline.fresh _ bytes (inbox ▸ List.mem_append_left _ member)
    · rw [inbox, List.map_append]
      exact List.mem_append_left _ behind
  · cases (receiveStep_loop stepped).1 with
    | quiet inbox datagrams =>
      exact ⟨inline, missing, by rw [datagrams, blocked.unread],
        Or.inr ⟨long, before, after, by rw [inbox, split], behind⟩⟩
    | arrived other bytes _ _ same =>
      subst next
      refine ⟨inline, missing, blocked.unread,
        Or.inr ⟨long, before, after ++ [(other, bytes)], by simp [split], ?_⟩⟩
      rw [List.map_append]
      exact List.mem_append_left _ behind
    | read other bytes rest _ first ready same =>
      subst next
      exact blocked.read first long split behind inline
    | routed other task route here waiting found same =>
      subst next
      exact ⟨inline, missing, later _ _ here rfl, Or.inr ⟨long, before, after, split, behind⟩⟩
    | quit other task here waiting closed same =>
      subst next
      exact ⟨inline, missing, later _ _ here rfl, Or.inr ⟨long, before, after, split, behind⟩⟩
    | refused other task route here sending _ same =>
      subst next
      exact ⟨inline, missing, later _ _ here rfl, Or.inr ⟨long, before, after, split, behind⟩⟩
    | delivered other task route here sending same =>
      subst next
      exact ⟨inline, missing, later (self.push _) _ here rfl,
        Or.inr ⟨long, before, after, split, behind⟩⟩

/-- A stream that nobody accepts while the loop waits. -/
structure Ignored (stream stuck : Nat) (content : Bytes) (receiver : Receiver) : Prop where
  inline : receiver.Inline
  missing : receiver.routes (datagramId content) = none
  wait : Stuck stuck content receiver
  unaccepted : ∃ task, receiver.streams stream = some task ∧ task.state = .unaccepted

theorem Ignored.step (ignored : Ignored stream stuck content self) (different : datagramId content ≠ id)
    (only : self.RegistersOnly id action) (stepped : receiveStep .inline self action = some next) :
    Ignored stream stuck content next := by
  refine ⟨receiveStep_inline ignored.inline stepped,
    unrouted_step ignored.missing different only stepped,
    (ignored.wait.step ignored.inline ignored.missing stepped).1, ?_⟩
  obtain ⟨task, here, waiting⟩ := ignored.unaccepted
  cases (receiveStep_loop stepped).2 with
  | quiet streams => exact ⟨task, by rw [streams, here], waiting⟩
  | opened other absent same =>
    subst next
    have apart : stream ≠ other := by
      rintro rfl
      rw [absent] at here
      contradiction
    exact ⟨task, (setStream_ne _ apart _).trans here, waiting⟩
  | accepted other existing _ there _ ready same =>
    simp [Receiver.ready, ignored.wait.hand] at ready
  | moved other existing later there kept _ _ streams =>
    rw [streams]
    by_cases same : stream = other
    · subst other
      cases here.symm.trans there
      exact ⟨later, Function.update_self _ _ _, kept waiting⟩
    · exact ⟨task, (Function.update_of_ne same _ _).trans here, waiting⟩

theorem Inline.clear (inline : self.Inline) (independent : self.Independent) : self.Clear where
  datagram before source bytes after split long accepts := by
    have member : (source, bytes) ∈ self.inbox := by simp [split]
    have unread := inline.fresh source bytes member
    obtain ⟨final, can, delivered⟩ := independent.datagram source bytes (Or.inl member) long accepts
    obtain ⟨route, found, _⟩ := accepts
    -- whoever is ahead without a route stays ahead
    have stays : ∀ (stuck : Nat) (content : Bytes), Blocked source stuck content self → False := by
      intro stuck content blocked
      have different : datagramId content ≠ datagramId bytes := by
        intro same
        have missing := blocked.missing
        rw [same, found] at missing
        contradiction
      exact (can.invariant (fun blocked only stepped => Blocked.step blocked different only stepped)
        blocked).undelivered delivered
    constructor
    · rintro ⟨stuck, task, held, here, waiting, missing⟩
      refine stays stuck task.bytes ⟨inline, missing, unread,
        Or.inl ⟨⟨held, here.trans ?_⟩, List.mem_map_of_mem member⟩⟩
      rw [← waiting]
    · rintro ⟨stuck, content⟩ inside ⟨long', missing⟩
      obtain ⟨first, second, rfl⟩ := List.append_of_mem inside
      refine stays stuck content ⟨inline, missing, unread,
        Or.inr ⟨long', first, second ++ (source, bytes) :: after, by simp [split], by simp⟩⟩
  stream stream id unaccepted accepts := by
    obtain ⟨final, can, later, route, there, reading⟩ := independent.stream stream id unaccepted accepts
    obtain ⟨task, rest, here, waiting, _⟩ := unaccepted
    obtain ⟨route, found, _⟩ := accepts
    rintro ⟨stuck, handler, held, current, state, missing⟩
    have different : datagramId handler.bytes ≠ id := by
      rintro rfl
      rw [found] at missing
      contradiction
    have start : Ignored stream stuck handler.bytes self :=
      ⟨inline, missing, ⟨held, current.trans (by rw [← state])⟩, task, here, waiting⟩
    obtain ⟨existing, now, unaccepted⟩ := (can.invariant
      (fun ignored only stepped => Ignored.step ignored different only stepped) start).unaccepted
    cases there.symm.trans now
    rw [reading] at unaccepted
    contradiction

end Blockage
end Receiver

/-- Along every run of the client's receiver: what has been received for registered
ids can be delivered in every state without further registrations, if and only if in
no state any of it is behind a datagram that has no route. -/
theorem independent_iff_clear (actions : List ReceiveAction) :
    Transition.Always (receiveStep .inline) Receiver.Independent .initial actions ↔
      Transition.Always (receiveStep .inline) Receiver.Clear .initial actions :=
  Transition.always_congr fun reached =>
    ⟨(run_inline reached).clear, (run_inline reached).independent⟩

/-- A datagram for id 9, which nobody has registered, comes before one for id 5,
which is registered. -/
def overtakingRun : List ReceiveAction :=
  [.associate 0, .arriveControl 0 [3, 1, 97, 0, 1, 0, 5], .record 0, .arriveDatagram 0 [0, 9, 1],
    .readDatagram, .arriveDatagram 1 [0, 5, 2]]

/-- The loop is parked on id 9, and the datagram of id 5 cannot be delivered. -/
theorem registered_id_starves :
    ∃ state, Transition.run (receiveStep .inline) .initial overtakingRun = some state ∧
      state.Parked ∧ (1, [0, 5, 2]) ∈ state.inbox ∧ state.Accepts (datagramId [0, 5, 2]) ∧
      ¬ state.Independent := by
  have execution : Transition.run (receiveStep .inline) .initial overtakingRun = some _ := rfl
  refine ⟨_, execution, ?_, by simp [Receiver.setControl], ?_, fun independent => ?_⟩
  · exact ⟨0, _, rfl, rfl, rfl, rfl⟩
  · exact ⟨⟨0, ⟨"a", 1, by decide⟩⟩, rfl, rfl, by decide⟩
  · have clear := (run_inline execution).clear independent
    exact (clear.datagram [] 1 [0, 5, 2] [] rfl (by decide)
      ⟨⟨0, ⟨"a", 1, by decide⟩⟩, rfl, rfl, by decide⟩).1 ⟨0, _, rfl, rfl, rfl, rfl⟩

end SingQuic.ShadowQuic
