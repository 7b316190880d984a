import SingQuic.ShadowQuic.Link

/-! What the tasks of the receiving half make of the bytes that arrive, whatever those
are: the records and packets taken so far are the ones read one after another from
the beginning, however the bytes were split. -/
namespace SingQuic.ShadowQuic
open Wire Reader

/-- The bytes an action adds to a control stream. -/
def ReceiveAction.toControl (association : Nat) : ReceiveAction → Bytes
  | .arriveControl other bytes => if other = association then bytes else []
  | _ => []

/-- The bytes an action adds to a unidirectional stream. -/
def ReceiveAction.toStream (stream : Nat) : ReceiveAction → Bytes
  | .arriveBytes other bytes => if other = stream then bytes else []
  | _ => []

def arrivedControl (association : Nat) (actions : List ReceiveAction) : Bytes :=
  actions.flatMap (·.toControl association)

def arrivedStream (stream : Nat) (actions : List ReceiveAction) : Bytes :=
  actions.flatMap (·.toStream stream)

/-- The payload of a delivery, if it came from this stream. -/
def Delivery.payloadFrom (stream : Nat) (delivery : Delivery) : Option Bytes :=
  match delivery.origin with
  | .packet other _ => if other = stream then some delivery.packet.data else none
  | .datagram _ => none

/-- The payloads that the handler of a stream has put onto a queue, in order. -/
def Receiver.delivered (self : Receiver) (stream : Nat) : List Bytes :=
  self.log.filterMap (·.payloadFrom stream)

def ControlReads (arrived : Bytes) : Option ControlTask → Prop
  | none => arrived = []
  | some task => Reads readRecord arrived task.records task.unread

/-- Reading a stream gives its id, and then these packets. -/
def PacketReads (arrived : Bytes) (packets : List Bytes) (unread : Bytes) : Prop :=
  ∃ id body, readU16 arrived = .done id body ∧ Reads readPacket body packets unread

def TaskReads (arrived : Bytes) (delivered : List Bytes) (unread : Bytes) : StreamState → Prop
  | .unaccepted | .header => delivered = [] ∧ arrived = unread
  | .waiting id => delivered = [] ∧ readU16 arrived = .done id unread
  | .reading _ => PacketReads arrived delivered unread
  | .sending _ data => PacketReads arrived (delivered ++ [data]) unread
  | .ended _ => delivered = [] ∨ ∃ packets, delivered <+: packets ∧ PacketReads arrived packets unread

def StreamReads (arrived : Bytes) (delivered : List Bytes) : Option IncomingStream → Prop
  | none => delivered = [] ∧ arrived = []
  | some task => TaskReads arrived delivered task.unread task.state

section Steps
variable {dispatch : Dispatch} {self next : Receiver} {action : ReceiveAction} {arrived : Bytes}
  {association stream : Nat}

theorem PacketReads.append {packets : List Bytes} {unread : Bytes}
    (reads : PacketReads arrived packets unread) (later : Bytes) :
    PacketReads (arrived ++ later) packets (unread ++ later) := by
  obtain ⟨id, body, header, rest⟩ := reads
  exact ⟨id, body ++ later, readU16_stable.done header later, rest.append readPacket_stable later⟩

/-- More bytes change only what is left to read. -/
theorem TaskReads.append {delivered : List Bytes} {unread : Bytes} {state : StreamState}
    (reads : TaskReads arrived delivered unread state) (later : Bytes) :
    TaskReads (arrived ++ later) delivered (unread ++ later) state := by
  cases state with
  | unaccepted => exact ⟨reads.1, by rw [reads.2]⟩
  | header => exact ⟨reads.1, by rw [reads.2]⟩
  | waiting id => exact ⟨reads.1, readU16_stable.done reads.2 later⟩
  | reading route => exact PacketReads.append reads later
  | sending route data => exact PacketReads.append reads later
  | ended result =>
    rcases reads with none' | ⟨packets, part, rest⟩
    · exact Or.inl none'
    · exact Or.inr ⟨packets, part, rest.append later⟩

theorem startDatagram_parts (self : Receiver) (dispatch : Dispatch) (source : Nat) (bytes : Bytes) :
    (self.startDatagram dispatch source bytes).controls = self.controls ∧
      (self.startDatagram dispatch source bytes).streams = self.streams ∧
      (self.startDatagram dispatch source bytes).log = self.log := by
  unfold Receiver.startDatagram
  split <;> exact ⟨rfl, rfl, rfl⟩

/-- One entry of a table changes in a step. -/
theorem update_reads {α : Type} {table : Nat → Option α} {P : Option α → Prop} {Q : Option α → Prop}
    {target index : Nat} {later : Option α} (here : target = index → Q later)
    (elsewhere : target ≠ index → P (table index) → Q (table index)) (reads : P (table index)) :
    Q (Function.update table target later index) := by
  by_cases same : target = index
  · subst target
    rw [Function.update_self]
    exact here rfl
  · rw [Function.update_of_ne (Ne.symm same)]
    exact elsewhere same reads

theorem receiveStep_controlReads (reads : ControlReads arrived (self.controls association))
    (stepped : receiveStep dispatch self action = some next) :
    ControlReads (arrived ++ action.toControl association) (next.controls association) := by
  -- a step of one task, while nothing arrives
  have moved : ∀ {target : Nat} {later : ControlTask} (before : Option ControlTask),
      self.controls target = before → next.controls = Function.update self.controls target (some later) →
      action.toControl association = [] →
      (∀ input, ControlReads input before → ControlReads input (some later)) →
      ControlReads (arrived ++ action.toControl association) (next.controls association) := by
    intro target later before here changed silent onward
    rw [changed, silent, List.append_nil]
    refine update_reads (fun same => onward arrived ?_) (fun _ kept => kept) reads
    rw [← here, same]
    exact reads
  have quiet : next.controls = self.controls → action.toControl association = [] →
      ControlReads (arrived ++ action.toControl association) (next.controls association) := by
    intro same silent
    rw [same, silent, List.append_nil]
    exact reads
  cases receiveStep_rule stepped with
  | associated target absent =>
    exact moved none absent rfl rfl fun input empty => (empty : input = []) ▸ .nil
  | controlArrived target bytes task here =>
    refine update_reads (fun same => ?_) (fun different kept => ?_) reads
    · subst target
      rw [here] at reads
      rw [ReceiveAction.toControl, if_pos rfl]
      exact Reads.append readRecord_stable reads bytes
    · rw [ReceiveAction.toControl, if_neg different, List.append_nil]
      exact kept
  | registered target task destination id rest here running read =>
    exact moved (some task) here rfl rfl fun _ kept => .concat kept read
  | garbled target task error here => exact moved (some task) here rfl rfl fun _ kept => kept
  | stopped target task here => exact moved (some task) here rfl rfl fun _ kept => kept
  | datagramRead source bytes rest =>
    exact quiet (startDatagram_parts _ dispatch source bytes).1 rfl
  | _ => exact quiet rfl rfl

theorem delivered_push (self : Receiver) (delivery : Delivery) (stream : Nat) :
    (self.push delivery).delivered stream =
      self.delivered stream ++ (delivery.payloadFrom stream).toList := by
  rw [Receiver.delivered, Receiver.push, List.filterMap_append, Receiver.delivered]
  cases payload : delivery.payloadFrom stream <;> simp [payload]

theorem receiveStep_streamReads
    (reads : StreamReads arrived (self.delivered stream) (self.streams stream))
    (stepped : receiveStep dispatch self action = some next) :
    StreamReads (arrived ++ action.toStream stream) (next.delivered stream) (next.streams stream) := by
  -- a step of one handler that delivers nothing, while nothing arrives
  have moved : ∀ {target : Nat} {later : IncomingStream} (before : Option IncomingStream),
      self.streams target = before → next.streams = Function.update self.streams target (some later) →
      next.log = self.log → action.toStream stream = [] →
      (∀ input packets, StreamReads input packets before → StreamReads input packets (some later)) →
      StreamReads (arrived ++ action.toStream stream) (next.delivered stream) (next.streams stream) := by
    intro target later before here changed log silent onward
    rw [changed, silent, List.append_nil, Receiver.delivered, log]
    refine update_reads (fun same => onward arrived _ ?_) (fun _ kept => kept) reads
    rw [← here, same]
    exact reads
  have quiet : next.streams = self.streams → next.delivered stream = self.delivered stream →
      action.toStream stream = [] →
      StreamReads (arrived ++ action.toStream stream) (next.delivered stream) (next.streams stream) := by
    intro same log silent
    rw [same, log, silent, List.append_nil]
    exact reads
  cases receiveStep_rule stepped with
  | datagramRead source bytes rest =>
    obtain ⟨_, streams, log⟩ := startDatagram_parts { self with inbox := rest } dispatch source bytes
    exact quiet streams (by rw [Receiver.delivered, log]; rfl) rfl
  | delivered source task route here =>
    refine quiet rfl ?_ rfl
    exact (delivered_push self (Receiver.delivery source task route) stream).trans (List.append_nil _)
  | streamArrived target absent =>
    exact moved none absent rfl rfl rfl fun _ _ empty => empty
  | bytesArrived target bytes task here =>
    refine update_reads (fun same => ?_) (fun different kept => ?_) reads
    · subst target
      rw [here] at reads
      rw [ReceiveAction.toStream, if_pos rfl]
      exact TaskReads.append reads bytes
    · rw [ReceiveAction.toStream, if_neg different, List.append_nil]
      exact kept
  | accepted target task here waiting =>
    refine moved (some task) here rfl rfl rfl fun input packets kept => ?_
    rw [StreamReads, waiting] at kept
    exact kept
  | idRead target task id rest here header read =>
    refine moved (some task) here rfl rfl rfl fun input packets kept => ?_
    rw [StreamReads, header] at kept
    exact ⟨kept.1, kept.2 ▸ read⟩
  | streamRouted target task id route here waiting =>
    refine moved (some task) here rfl rfl rfl fun input packets kept => ?_
    rw [StreamReads, waiting] at kept
    exact ⟨id, task.unread, kept.2, kept.1 ▸ .nil⟩
  | streamQuit target task id here waiting =>
    refine moved (some task) here rfl rfl rfl fun input packets kept => ?_
    rw [StreamReads, waiting] at kept
    exact Or.inl kept.1
  | packetRead target task route data rest here reading read =>
    refine moved (some task) here rfl rfl rfl fun input packets kept => ?_
    rw [StreamReads, reading] at kept
    obtain ⟨id, body, header, earlier⟩ := kept
    exact ⟨id, body, header, .concat earlier read⟩
  | packetRefused target task route data here sending =>
    refine moved (some task) here rfl rfl rfl fun input packets kept => ?_
    rw [StreamReads, sending] at kept
    exact Or.inr ⟨_, List.prefix_append _ _, kept⟩
  | packetDelivered target task route data here sending =>
    have pushed := delivered_push self (Receiver.streamDelivery target task route data) stream
    have silent : arrived ++ (ReceiveAction.deliverPacket target).toStream stream = arrived :=
      List.append_nil _
    by_cases same : target = stream
    · subst target
      rw [here, StreamReads, sending] at reads
      have payload : (Receiver.streamDelivery stream task route data).payloadFrom stream = some data :=
        if_pos rfl
      have grown : (self.push (Receiver.streamDelivery stream task route data)).delivered stream =
          self.delivered stream ++ [data] := by
        rw [pushed, payload, Option.toList_some]
      rw [Receiver.setStream_self, silent]
      exact grown ▸ reads
    · have payload : (Receiver.streamDelivery target task route data).payloadFrom stream = none :=
        if_neg same
      have kept : (self.push (Receiver.streamDelivery target task route data)).delivered stream =
          self.delivered stream := by
        rw [pushed, payload, Option.toList_none, List.append_nil]
      rw [Receiver.setStream_ne _ (Ne.symm same), silent]
      exact kept ▸ reads
  | streamFailed target text task here waits =>
    refine moved (some task) here rfl rfl rfl fun input packets kept => ?_
    rcases waits with header | ⟨route, reading⟩
    · rw [StreamReads, header] at kept
      exact Or.inl kept.1
    · rw [StreamReads, reading] at kept
      exact Or.inr ⟨packets, List.prefix_refl _, kept⟩
  | _ => exact quiet rfl rfl rfl

end Steps

section Runs
variable {dispatch : Dispatch} {actions : List ReceiveAction} {receiver : Receiver}

theorem run_controlReads (execution : Transition.run (receiveStep dispatch) .initial actions = some receiver)
    (association : Nat) :
    ControlReads (arrivedControl association actions) (receiver.controls association) := by
  refine Transition.run_induction
    (P := fun actions state => ControlReads (arrivedControl association actions)
      (state.controls association)) (by rfl) ?_ execution
  intro actions middle action final _ reads stepped
  rw [arrivedControl, List.flatMap_append, List.flatMap_singleton]
  exact receiveStep_controlReads reads stepped

theorem run_streamReads (execution : Transition.run (receiveStep dispatch) .initial actions = some receiver)
    (stream : Nat) : StreamReads (arrivedStream stream actions) (receiver.delivered stream)
      (receiver.streams stream) := by
  refine Transition.run_induction
    (P := fun actions state => StreamReads (arrivedStream stream actions) (state.delivered stream)
      (state.streams stream)) (by exact ⟨rfl, rfl⟩) ?_ execution
  intro actions middle action final _ reads stepped
  rw [arrivedStream, List.flatMap_append, List.flatMap_singleton]
  exact receiveStep_streamReads reads stepped

end Runs

/-- A record of a control stream; nothing for a destination that cannot be encoded. -/
def pairBytes (pair : Address × UInt16) : Bytes :=
  match encodeAddress pair.1 with
  | .ok address => encodeRecord address pair.2
  | .error _ => []

/-- A record as the peer reads it. -/
def canonicalPair (pair : Address × UInt16) : Address × UInt16 := (canonical pair.1, pair.2)

/-- A step of the receiving side itself. -/
def Undisturbed (_ : Receiver) (action : ReceiveAction) : Prop := action.arrival = false

/-- However much of a control stream of these records has arrived, and in whatever
parts: its task registers the records that have arrived as a whole and no others, in
order, has registered all of them once it waits for more bytes, and gets there without
any if it still runs. -/
def RegistersExactly (pairs : List (Address × UInt16)) : Prop :=
  ∀ (dispatch : Dispatch) (actions : List ReceiveAction) (receiver : Receiver) (association : Nat)
    (task : ControlTask), Transition.run (receiveStep dispatch) .initial actions = some receiver →
    receiver.controls association = some task →
    arrivedControl association actions <+: pairs.flatMap pairBytes →
    let whole := (wholeFrames pairBytes (arrivedControl association actions).length pairs).map canonicalPair
    task.records <+: whole ∧ (readRecord task.unread = .more → task.records = whole) ∧
      (task.running = true → ∃ final later,
        Transition.Can (receiveStep dispatch) Undisturbed receiver final ∧
        final.controls association = some later ∧ later.records = whole)

/-- However much of a unidirectional stream with these bytes has arrived, and in
whatever parts: its handler delivers those of the payloads that have arrived as a whole
and nothing else, in order, has delivered all of them once it waits for more bytes, and
gets there without any if the queue of its route is still there. -/
def DeliversExactly (bytes : Bytes) (payloads : List Bytes) : Prop :=
  ∀ (dispatch : Dispatch) (actions : List ReceiveAction) (receiver : Receiver) (stream : Nat)
    (task : IncomingStream), Transition.run (receiveStep dispatch) .initial actions = some receiver →
    receiver.streams stream = some task → arrivedStream stream actions <+: bytes →
    let whole := wholeFrames encodePacket ((arrivedStream stream actions).length - 2) payloads
    receiver.delivered stream <+: whole ∧
      (∀ route, task.state = .reading route → readPacket task.unread = .more →
        receiver.delivered stream = whole) ∧
      (∀ route, task.state = .reading route → receiver.dropped route.sender = false → ∃ final,
        Transition.Can (receiveStep dispatch) Undisturbed receiver final ∧
        final.delivered stream = whole)

section Framed
variable {dispatch : Dispatch} {association stream : Nat} {input : Bytes}

theorem readRecord_pairBytes {pair : Address × UInt16}
    (encodable : ∃ address, encodeAddress pair.1 = .ok address) (rest : Bytes) :
    readRecord (pairBytes pair ++ rest) = .done (canonicalPair pair) rest := by
  obtain ⟨address, encoded⟩ := encodable
  rw [pairBytes, encoded]
  exact readRecord_encodeRecord encoded _ rest

/-- A running task registers every record that has arrived. -/
theorem can_register {pairs : List (Address × UInt16)} {receiver : Receiver} {task : ControlTask}
    (encodable : ∀ pair ∈ pairs, ∃ address, encodeAddress pair.1 = .ok address)
    (here : receiver.controls association = some task) (running : task.running = true)
    (part : task.unread <+: pairs.flatMap pairBytes)
    (reads : Reads readRecord input task.records task.unread) :
    ∃ final later, Transition.Can (receiveStep dispatch) Undisturbed receiver final ∧
      final.controls association = some later ∧ readRecord later.unread = .more ∧
      Reads readRecord input later.records later.unread := by
  -- one round for each record that is left
  induction pairs generalizing receiver task with
  | nil =>
    rw [List.flatMap_nil, List.prefix_nil] at part
    exact ⟨receiver, task, .refl, here, part ▸ rfl, reads⟩
  | cons pair pairs ih =>
    have decodes : ∀ frame ∈ pair :: pairs, ∀ rest,
        readRecord (pairBytes frame ++ rest) = .done (canonicalPair frame) rest :=
      fun frame member => readRecord_pairBytes (encodable frame member)
    rcases readRecord_stable.frames rfl decodes part with
      more | ⟨frame, _, rest, same, _, read, onward⟩
    · exact ⟨receiver, task, .refl, here, more, reads⟩
    · obtain ⟨rfl, rfl⟩ := List.cons.inj same
      have rule : Receiver.Rule dispatch receiver _ _ :=
        .registered association task _ _ rest here running read
      have registered : (receiver.register association task (canonicalPair pair).1 (canonicalPair pair).2
          rest).controls association = some { task with
            unread := rest, records := task.records ++ [canonicalPair pair] } :=
        Function.update_self _ _ _
      obtain ⟨final, later, can, there, stuck, all⟩ :=
        ih (fun frame member => encodable frame (List.mem_cons_of_mem _ member)) registered running onward
          (.concat reads read)
      have own : Undisturbed receiver (.record association) := rfl
      exact ⟨final, later, .head own rule.step can, there, stuck, all⟩

/-- The records of a control stream are registered exactly, up to the text of IP
literals. -/
theorem registers_exactly {pairs : List (Address × UInt16)}
    (encodable : ∀ pair ∈ pairs, ∃ address, encodeAddress pair.1 = .ok address) :
    RegistersExactly pairs := by
  intro dispatch actions receiver association task execution here part
  have reads := run_controlReads execution association
  rw [here] at reads
  have decodes : ∀ pair ∈ pairs, ∀ rest,
      readRecord (pairBytes pair ++ rest) = .done (canonicalPair pair) rest :=
    fun pair member => readRecord_pairBytes (encodable pair member)
  obtain ⟨consumed, later, split, records, arrived, onward⟩ := reads.frames readRecord_stable rfl decodes part
  refine ⟨?_, fun stuck => reads.whole readRecord_stable rfl decodes part stuck, fun running => ?_⟩
  · rw [split, arrived, List.length_append, wholeFrames_append, List.map_append, records]
    exact List.prefix_append _ _
  · have left : ∀ pair ∈ later, ∃ address, encodeAddress pair.1 = .ok address :=
      fun pair member => encodable pair (split ▸ List.mem_append_right _ member)
    obtain ⟨final, after, can, there, stuck, all⟩ := can_register left here running onward reads
    exact ⟨final, after, can, there, all.whole readRecord_stable rfl decodes part stuck⟩

/-- A handler with a route delivers the next packet, once the application has made
room on the queue. -/
theorem can_deliverNext {receiver : Receiver} {task : IncomingStream} {route : IncomingUdpRoute}
    {data rest : Bytes} (here : receiver.streams stream = some task)
    (reading : task.state = .reading route) (held : receiver.dropped route.sender = false)
    (read : readPacket task.unread = .done data rest) :
    ∃ final later, Transition.Can (receiveStep dispatch) Undisturbed receiver final ∧
      final.streams stream = some later ∧ later.state = .reading route ∧ later.unread = rest ∧
      final.dropped = receiver.dropped ∧ final.delivered stream = receiver.delivered stream ++ [data] := by
  have first : Receiver.Rule dispatch receiver (.readPacket stream) _ :=
    .packetRead stream task route data rest here reading read
  let ready : IncomingStream := { task with unread := rest, state := .sending route data }
  obtain ⟨taken, drained, room⟩ :=
    (receiver.setStream stream ready).can_drain dispatch Undisturbed route.sender fun _ => rfl
  have second : Receiver.Rule dispatch { receiver.setStream stream ready with taken }
      (.deliverPacket stream) _ :=
    .packetDelivered stream ready route data (receiver.setStream_self ready) rfl held room
  have own : ∀ state, Undisturbed state (.readPacket stream) ∧ Undisturbed state (.deliverPacket stream) :=
    fun _ => ⟨rfl, rfl⟩
  refine ⟨_, _, .head (own _).1 first.step (drained.trans (.head (own _).2 second.step .refl)),
    Receiver.setStream_self _ _, rfl, rfl, rfl, ?_⟩
  have payload : (Receiver.streamDelivery stream ready route data).payloadFrom stream = some data :=
    if_pos rfl
  have pushed := delivered_push { receiver.setStream stream ready with taken }
    (Receiver.streamDelivery stream ready route data) stream
  rw [payload] at pushed
  exact pushed

/-- A handler with a route delivers every packet that has arrived. -/
theorem can_deliverAll {payloads : List Bytes} {receiver : Receiver} {task : IncomingStream}
    {route : IncomingUdpRoute} (small : ∀ data ∈ payloads, data.length ≤ 65535)
    (here : receiver.streams stream = some task) (reading : task.state = .reading route)
    (held : receiver.dropped route.sender = false)
    (part : task.unread <+: payloads.flatMap encodePacket)
    (reads : Reads readPacket input (receiver.delivered stream) task.unread) :
    ∃ final rest, Transition.Can (receiveStep dispatch) Undisturbed receiver final ∧
      readPacket rest = .more ∧ Reads readPacket input (final.delivered stream) rest := by
  induction payloads generalizing receiver task with
  | nil =>
    rw [List.flatMap_nil, List.prefix_nil] at part
    exact ⟨receiver, task.unread, .refl, part ▸ rfl, reads⟩
  | cons data payloads ih =>
    have decodes : ∀ frame ∈ data :: payloads, ∀ rest,
        readPacket (encodePacket frame ++ rest) = .done (id frame) rest :=
      fun frame member => readPacket_encodePacket (small frame member)
    rcases readPacket_stable.frames rfl decodes part with
      more | ⟨frame, _, rest, same, _, read, onward⟩
    · exact ⟨receiver, task.unread, .refl, more, reads⟩
    · obtain ⟨rfl, rfl⟩ := List.cons.inj same
      obtain ⟨middle, later, first, there, state, rfl, queues, pushed⟩ :=
        can_deliverNext here reading held read
      have longer : Reads readPacket input (middle.delivered stream) later.unread := by
        rw [pushed]
        exact .concat reads read
      obtain ⟨final, left, can, stuck, all⟩ :=
        ih (fun frame member => small frame (List.mem_cons_of_mem _ member)) there state
          (queues ▸ held) onward longer
      exact ⟨final, left, first.trans can, stuck, all⟩

theorem length_idBytes (number : Nat) : (idBytes number).length = 2 := length_bigEndian 2 _

/-- What has arrived of a stream of packets, once its id has been read. -/
theorem PacketReads.body {arrived unread : Bytes} {packets frames : List Bytes} {number : Nat}
    (reads : PacketReads arrived packets unread)
    (part : arrived <+: idBytes number ++ frames.flatMap encodePacket) :
    ∃ body, arrived = idBytes number ++ body ∧ body <+: frames.flatMap encodePacket ∧
      Reads readPacket body packets unread := by
  obtain ⟨id, body, header, rest⟩ := reads
  have size : 2 ≤ arrived.length := by
    by_contra short
    rw [readU16, bind_apply, readExact, if_neg short] at header
    contradiction
  obtain ⟨left, rfl⟩ := List.prefix_of_prefix_length_le (List.prefix_append _ _) part
    ((length_idBytes number).trans_le size)
  rw [idBytes, readU16_append] at header
  obtain ⟨_, rfl⟩ := Read.done.inj header
  exact ⟨left, rfl, (List.prefix_append_right_inj _).mp part, rest⟩

/-- The packets of a stream are delivered exactly, and the beginning of a further one
is not. -/
theorem delivers_exactly {bytes : Bytes} {number : Nat} {payloads extra : List Bytes}
    (small : ∀ data ∈ payloads ++ extra, data.length ≤ 65535)
    (part : bytes <+: idBytes number ++ (payloads ++ extra).flatMap encodePacket)
    (cut : ∀ room, 2 + room ≤ bytes.length →
      wholeFrames encodePacket room (payloads ++ extra) = wholeFrames encodePacket room payloads) :
    DeliversExactly bytes payloads := by
  intro dispatch actions receiver stream task execution here arrived
  have reads := run_streamReads execution stream
  rw [here, StreamReads] at reads
  have decodes : ∀ data ∈ payloads ++ extra, ∀ rest,
      readPacket (encodePacket data ++ rest) = .done (id data) rest :=
    fun data member => readPacket_encodePacket (small data member)
  -- the payloads among the frames are those within the bytes that have been written
  have cut' : ∀ body, arrivedStream stream actions = idBytes number ++ body →
      wholeFrames encodePacket body.length (payloads ++ extra) =
        wholeFrames encodePacket ((arrivedStream stream actions).length - 2) payloads := by
    intro body same
    have size : (arrivedStream stream actions).length = 2 + body.length := by
      rw [same, List.length_append, length_idBytes]
    rw [cut body.length (size ▸ arrived.length_le), size, Nat.add_sub_cancel_left]
  have taken : ∀ {packets unread}, PacketReads (arrivedStream stream actions) packets unread →
      packets <+: wholeFrames encodePacket ((arrivedStream stream actions).length - 2) payloads := by
    intro packets unread partial'
    obtain ⟨body, same, inside, rest⟩ := partial'.body (arrived.trans part)
    obtain ⟨consumed, later, split, rfl, covered, _⟩ := rest.frames readPacket_stable rfl decodes inside
    rw [← cut' body same, split, covered, List.length_append, wholeFrames_append, List.map_id]
    exact List.prefix_append _ _
  have exact' : ∀ {packets unread body}, arrivedStream stream actions = idBytes number ++ body →
      body <+: (payloads ++ extra).flatMap encodePacket → Reads readPacket body packets unread →
      readPacket unread = .more →
      packets = wholeFrames encodePacket ((arrivedStream stream actions).length - 2) payloads := by
    intro packets unread body same inside rest stuck
    rw [← cut' body same, rest.whole readPacket_stable rfl decodes inside stuck, List.map_id]
  refine ⟨?_, fun route reading stuck => ?_, fun route reading held => ?_⟩
  · cases state : task.state with
    | unaccepted => rw [state] at reads; exact reads.1 ▸ List.nil_prefix
    | header => rw [state] at reads; exact reads.1 ▸ List.nil_prefix
    | waiting id => rw [state] at reads; exact reads.1 ▸ List.nil_prefix
    | reading route => rw [state] at reads; exact taken reads
    | sending route data =>
      rw [state] at reads
      exact (List.prefix_append _ _).trans (taken reads)
    | ended result =>
      rw [state] at reads
      rcases reads with none' | ⟨packets, before, rest⟩
      · exact none' ▸ List.nil_prefix
      · exact before.trans (taken rest)
  · rw [reading] at reads
    obtain ⟨body, same, inside, rest⟩ := PacketReads.body reads (arrived.trans part)
    exact exact' same inside rest stuck
  · rw [reading] at reads
    obtain ⟨body, same, inside, rest⟩ := PacketReads.body reads (arrived.trans part)
    obtain ⟨consumed, later, split, _, covered, onward⟩ := rest.frames readPacket_stable rfl decodes inside
    have left : ∀ data ∈ later, data.length ≤ 65535 :=
      fun data member => small data (split ▸ List.mem_append_right _ member)
    obtain ⟨final, unread, can, stuck, all⟩ := can_deliverAll left here reading held onward rest
    exact ⟨final, can, exact' same inside all stuck⟩

end Framed

end SingQuic.ShadowQuic
