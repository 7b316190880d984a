import SingQuic.ShadowQuic.Teardown

/-! The receive loop as one sees it from its inbox: which datagrams it has still to
read, which one it is busy with, and what a step can change about that. -/
namespace SingQuic.ShadowQuic
open Wire

namespace Receiver

/-- What a step can do to the inbox and the handlers of datagrams. -/
inductive LoopChange (dispatch : Dispatch) (self next : Receiver) (action : ReceiveAction) : Prop where
  | quiet (inbox : next.inbox = self.inbox) (datagrams : next.datagrams = self.datagrams)
      (hand : next.hand = self.hand)
      (closed : next.closed = true → self.closed = true ∨ dispatch = .spawned)
      (log : ∀ entry ∈ next.log, entry ∈ self.log ∨ ∃ stream index task,
        entry.origin = .packet stream index ∧ self.streams stream = some task ∧
          task.state ≠ .unaccepted)
      (grown : self.log ⊆ next.log)
      (dropped : ∀ association, self.dropped association = true → next.dropped association = true)
  | arrived (source : Nat) (bytes : Bytes) (absent : self.datagrams source = none)
      (new : source ∉ self.inbox.map Prod.fst)
      (same : next = { self with inbox := self.inbox ++ [(source, bytes)] })
  | read (source : Nat) (bytes : Bytes) (rest : List (Nat × Bytes))
      (asked : action = .readDatagram) (first : self.inbox = (source, bytes) :: rest)
      (ready : self.ready dispatch = true)
      (same : next = { self with inbox := rest }.startDatagram dispatch source bytes)
  | routed (source : Nat) (task : DatagramTask) (route : IncomingUdpRoute)
      (here : self.datagrams source = some task) (waiting : task.state = .waiting)
      (found : self.routes (datagramId task.bytes) = some route)
      (same : next = self.setDatagram source { task with state := .sending route })
  | quit (source : Nat) (task : DatagramTask) (here : self.datagrams source = some task)
      (waiting : task.state = .waiting) (closed : self.closed = true)
      (same : next = self.endDatagram source task (.error .closed))
  | refused (source : Nat) (task : DatagramTask) (route : IncomingUdpRoute)
      (here : self.datagrams source = some task) (sending : task.state = .sending route)
      (gone : self.dropped route.sender = true)
      (same : next = self.endDatagram source task (.error .closed))
  | delivered (source : Nat) (task : DatagramTask) (route : IncomingUdpRoute)
      (here : self.datagrams source = some task) (sending : task.state = .sending route)
      (same : next = (self.push (delivery source task route)).endDatagram source task (.ok ()))

/-- What a step can do to the handlers of streams. -/
inductive StreamChange (dispatch : Dispatch) (self next : Receiver) (action : ReceiveAction) : Prop where
  | quiet (streams : next.streams = self.streams)
  | opened (stream : Nat) (absent : self.streams stream = none)
      (same : next = self.setStream stream ⟨[], .unaccepted, 0⟩)
  | accepted (stream : Nat) (task : IncomingStream) (asked : action = .accept stream)
      (here : self.streams stream = some task) (waiting : task.state = .unaccepted)
      (ready : self.ready dispatch = true)
      (same : next = self.setStream stream { task with state := .header })
  | moved (stream : Nat) (task later : IncomingStream) (here : self.streams stream = some task)
      (kept : task.state = .unaccepted → later.state = .unaccepted)
      (counted : later.count = task.count ∨
        later.count = task.count + 1 ∧ ∃ entry ∈ next.log, entry.origin = .packet stream task.count)
      (finished : ∀ result, later.state = .ended result → task.state = .ended result ∨
        (∃ text, result = .error (.read text)) ∨ self.closed = true ∨
        ∃ route data, task.state = .sending route data ∧ self.dropped route.sender = true)
      (streams : next.streams = Function.update self.streams stream (some later))

/-- Where the handler that a step has left on one stream comes from. -/
inductive StreamPast (dispatch : Dispatch) (self next : Receiver) (action : ReceiveAction) (stream : Nat)
    (task : IncomingStream) : Prop where
  | same (there : self.streams stream = some task)
  | opened (fresh : task = ⟨[], .unaccepted, 0⟩)
  | accepted (earlier : IncomingStream) (asked : action = .accept stream)
      (there : self.streams stream = some earlier) (ready : self.ready dispatch = true)
      (now : task = { earlier with state := .header })
  | moved (earlier : IncomingStream) (there : self.streams stream = some earlier)
      (kept : earlier.state = .unaccepted → task.state = .unaccepted)
      (counted : task.count = earlier.count ∨
        task.count = earlier.count + 1 ∧
          ∃ entry ∈ next.log, entry.origin = .packet stream earlier.count)
      (finished : ∀ result, task.state = .ended result → earlier.state = .ended result ∨
        (∃ text, result = .error (.read text)) ∨ self.closed = true ∨
        ∃ route data, earlier.state = .sending route data ∧ self.dropped route.sender = true)

theorem StreamChange.past {dispatch : Dispatch} {self next : Receiver} {action : ReceiveAction}
    {stream : Nat} {task : IncomingStream} (change : StreamChange dispatch self next action)
    (here : next.streams stream = some task) : StreamPast dispatch self next action stream task := by
  cases change with
  | quiet streams => exact .same (streams ▸ here)
  | opened other absent same =>
    subst next
    by_cases own : stream = other
    · subst other
      exact .opened (Option.some.inj ((self.setStream_self _).symm.trans here)).symm
    · exact .same ((self.setStream_ne own _).symm.trans here)
  | accepted other earlier asked there waiting ready same =>
    subst next
    by_cases own : stream = other
    · subst other
      exact .accepted earlier asked there ready
        (Option.some.inj ((self.setStream_self _).symm.trans here)).symm
    · exact .same ((self.setStream_ne own _).symm.trans here)
  | moved other earlier later there kept counted finished streams =>
    rw [streams] at here
    rcases Table.of_update here with ⟨rfl, rfl⟩ | ⟨_, unchanged⟩
    · exact .moved earlier there kept counted finished
    · exact .same unchanged

end Receiver

theorem receiveStep_loop {dispatch : Dispatch} {self next : Receiver} {action : ReceiveAction}
    (stepped : receiveStep dispatch self action = some next) :
    Receiver.LoopChange dispatch self next action ∧ Receiver.StreamChange dispatch self next action := by
  -- most steps touch neither the inbox nor a stream
  have still : next.inbox = self.inbox → next.datagrams = self.datagrams → next.hand = self.hand →
      next.closed = self.closed → next.log = self.log → next.dropped = self.dropped →
      Receiver.LoopChange dispatch self next action := by
    intro inbox datagrams hand closed log dropped
    exact .quiet inbox datagrams hand (fun shut => Or.inl (closed ▸ shut))
      (fun entry member => Or.inl (log ▸ member)) (fun _ member => log ▸ member)
      fun _ gone => dropped ▸ gone
  -- a stream past its acceptance reads on
  have onward : ∀ {stream : Nat} {task : IncomingStream} (later : IncomingStream),
      self.streams stream = some task → task.state ≠ .unaccepted → later.count = task.count →
      (∀ result, later.state = .ended result → (∃ text, result = .error (.read text)) ∨
        self.closed = true ∨
        ∃ route data, task.state = .sending route data ∧ self.dropped route.sender = true) →
      next.streams = Function.update self.streams stream (some later) →
      Receiver.StreamChange dispatch self next action :=
    fun later here past count finished streams => .moved _ _ later here
      (fun waiting => absurd waiting past) (Or.inl count) (fun result ended => Or.inr (finished result ended))
      streams
  cases receiveStep_rule stepped with
  | datagramArrived source bytes absent new => exact ⟨.arrived source bytes absent new rfl, .quiet rfl⟩
  | datagramRead source bytes rest first ready =>
    refine ⟨.read source bytes rest rfl first ready rfl, .quiet ?_⟩
    unfold Receiver.startDatagram
    split <;> rfl
  | routed source task route here waiting found =>
    exact ⟨.routed source task route here waiting found rfl, .quiet rfl⟩
  | quit source task here waiting shut => exact ⟨.quit source task here waiting shut rfl, .quiet rfl⟩
  | refused source task route here sending gone =>
    exact ⟨.refused source task route here sending gone rfl, .quiet rfl⟩
  | delivered source task route here sending =>
    exact ⟨.delivered source task route here sending rfl, .quiet rfl⟩
  | streamArrived stream absent =>
    exact ⟨still rfl rfl rfl rfl rfl rfl, .opened stream absent rfl⟩
  | bytesArrived stream bytes task here =>
    exact ⟨still rfl rfl rfl rfl rfl rfl,
      .moved stream task { task with unread := task.unread ++ bytes } here
        id (Or.inl rfl) (fun _ => Or.inl) rfl⟩
  | accepted stream task here waiting ready =>
    exact ⟨still rfl rfl rfl rfl rfl rfl, .accepted stream task rfl here waiting ready rfl⟩
  | idRead stream task id rest here header =>
    exact ⟨still rfl rfl rfl rfl rfl rfl, onward { task with unread := rest, state := .waiting id }
      here (by simp [header]) rfl (by simp) rfl⟩
  | streamRouted stream task id route here waiting =>
    exact ⟨still rfl rfl rfl rfl rfl rfl, onward { task with state := .reading route } here
      (by simp [waiting]) rfl (by simp) rfl⟩
  | streamQuit stream task id here waiting shut =>
    exact ⟨still rfl rfl rfl rfl rfl rfl, onward { task with state := .ended (.error .closed) } here
      (by simp [waiting]) rfl (fun _ _ => Or.inr (Or.inl shut)) rfl⟩
  | packetRead stream task route data rest here reading =>
    exact ⟨still rfl rfl rfl rfl rfl rfl, onward { task with
      unread := rest, state := .sending route data } here (by simp [reading]) rfl (by simp) rfl⟩
  | packetRefused stream task route data here sending gone =>
    exact ⟨still rfl rfl rfl rfl rfl rfl, onward { task with state := .ended (.error .closed) } here
      (by simp [sending]) rfl (fun _ _ => Or.inr (Or.inr ⟨route, data, sending, gone⟩)) rfl⟩
  | packetDelivered stream task route data here sending =>
    refine ⟨.quiet rfl rfl rfl Or.inl ?_ (List.subset_append_left _ _) (fun _ => id), ?_⟩
    · intro entry member
      rcases List.mem_append.mp member with earlier | last
      · exact Or.inl earlier
      · rw [List.mem_singleton.mp last]
        exact Or.inr ⟨stream, task.count, task, rfl, here, by simp [sending]⟩
    · exact .moved stream task { task with state := .reading route, count := task.count + 1 } here
        (by simp [sending])
        (Or.inr ⟨rfl, _, List.mem_append_right _ (List.mem_singleton_self _), rfl⟩) (by simp) rfl
  | streamFailed stream text task here reads =>
    refine ⟨still rfl rfl rfl rfl rfl rfl, onward { task with state := .ended (.error (.read text)) } here
      ?_ rfl (fun _ finished => by cases finished; exact Or.inl ⟨text, rfl⟩) rfl⟩
    rcases reads with header | ⟨route, reading⟩
    · simp [header]
    · simp [reading]
  | queueDropped association =>
    refine ⟨.quiet rfl rfl rfl Or.inl (fun _ => Or.inl) (List.Subset.refl _) ?_, .quiet rfl⟩
    intro other gone
    by_cases same : other = association
    · subst other
      exact Function.update_self _ _ _
    · exact (Function.update_of_ne same _ _).trans gone
  | closed spawned =>
    exact ⟨.quiet rfl rfl rfl (fun _ => Or.inr spawned) (fun _ => Or.inl) (List.Subset.refl _)
      (fun _ => id), .quiet rfl⟩
  | _ => exact ⟨still rfl rfl rfl rfl rfl rfl, .quiet rfl⟩

namespace Receiver

/-- How the inbox, the handlers and the loop that handles datagrams itself agree. -/
structure Inline (receiver : Receiver) : Prop where
  fresh : ∀ source bytes, (source, bytes) ∈ receiver.inbox → receiver.datagrams source = none
  once : (receiver.inbox.map Prod.fst).Nodup
  busy : ∀ source, receiver.hand = some source → ∃ task, receiver.datagrams source = some task ∧
    (task.state = .waiting ∨ ∃ route, task.state = .sending route)
  alone : ∀ source task, receiver.datagrams source = some task →
    (∀ result, task.state ≠ .ended result) → receiver.hand = some source
  unsent : ∀ entry ∈ receiver.log, ∀ source, entry.origin = .datagram source →
    ∃ task result, receiver.datagrams source = some task ∧ task.state = .ended result
  opened : receiver.closed = false

variable {self next : Receiver} {source : Nat} {task : DatagramTask}

theorem initial_inline : initial.Inline where
  fresh _ _ member := absurd member List.not_mem_nil
  once := List.nodup_nil
  busy _ held := absurd held (by simp [initial])
  alone _ _ here := absurd here (by simp [initial])
  unsent _ member := absurd member List.not_mem_nil
  opened := rfl

/-- The handler in hand moves on to another state of its own. -/
theorem Inline.step (inline : self.Inline) (here : self.datagrams source = some task)
    (held : self.hand = some source) {later : DatagramTask}
    (running : later.state = .waiting ∨ ∃ route, later.state = .sending route) :
    (self.setDatagram source later).Inline := by
  refine { inline with fresh := ?_, busy := ?_, alone := ?_, unsent := ?_ }
  · intro other bytes member
    have absent := inline.fresh other bytes member
    have different : other ≠ source := by
      rintro rfl
      rw [absent] at here
      contradiction
    exact (self.setDatagram_ne different later).trans absent
  · intro other again
    obtain rfl : source = other := Option.some.inj (held.symm.trans again)
    exact ⟨later, self.setDatagram_self later, running⟩
  · intro other existing there open'
    by_cases same : other = source
    · rw [same]
      exact held
    · exact inline.alone other existing ((self.setDatagram_ne same later).symm.trans there) open'
  · intro entry member other origin
    obtain ⟨existing, result, there, finished⟩ := inline.unsent entry member other origin
    have different : other ≠ source := by
      rintro rfl
      obtain ⟨current, now, active⟩ := inline.busy other held
      cases now.symm.trans there
      rcases active with waiting | ⟨route, sending⟩ <;> simp_all
    exact ⟨existing, result, (self.setDatagram_ne different later).trans there, finished⟩

/-- The handler in hand ends. -/
theorem Inline.finish (inline : self.Inline) (here : self.datagrams source = some task)
    (running : ∀ result, task.state ≠ .ended result) (result : Result Unit) :
    (self.endDatagram source task result).Inline ∧ (self.endDatagram source task result).hand = none := by
  have held := inline.alone source task here running
  have free : (self.endDatagram source task result).hand = none := if_pos held
  refine ⟨{ inline with fresh := ?_, busy := ?_, alone := ?_, unsent := ?_ }, free⟩
  · intro other bytes member
    have absent := inline.fresh other bytes member
    have different : other ≠ source := by
      rintro rfl
      rw [absent] at here
      contradiction
    exact (self.setDatagram_ne different _).trans absent
  · intro other again
    rw [free] at again
    contradiction
  · intro other existing there open'
    by_cases same : other = source
    · subst other
      cases (self.setDatagram_self _).symm.trans there
      exact absurd rfl (open' result)
    · have again := inline.alone other existing ((self.setDatagram_ne same _).symm.trans there) open'
      exact absurd (Option.some.inj (again.symm.trans held)) same
  · intro entry member other origin
    obtain ⟨existing, past, there, finished⟩ := inline.unsent entry member other origin
    have different : other ≠ source := by
      rintro rfl
      cases here.symm.trans there
      exact running past finished
    exact ⟨existing, past, (self.setDatagram_ne different _).trans there, finished⟩

theorem Inline.read (inline : self.Inline) {bytes : Bytes} {rest : List (Nat × Bytes)}
    (first : self.inbox = (source, bytes) :: rest) (free : self.hand = none) :
    ({ self with inbox := rest }.startDatagram .inline source bytes).Inline := by
  have absent := inline.fresh source bytes (by simp [first])
  have once := inline.once
  rw [first, List.map_cons, List.nodup_cons] at once
  have fresh : ∀ (later : DatagramTask) (other : Nat) (content : Bytes), (other, content) ∈ rest →
      (self.setDatagram source later).datagrams other = none := by
    intro later other content member
    have different : other ≠ source := by
      rintro rfl
      exact once.1 (List.mem_map.mpr ⟨_, member, rfl⟩)
    exact (self.setDatagram_ne different later).trans (inline.fresh other content (by simp [first, member]))
  have ended : ∀ (later : DatagramTask) (entry : Delivery), entry ∈ self.log → ∀ other,
      entry.origin = .datagram other → ∃ task result,
        (self.setDatagram source later).datagrams other = some task ∧ task.state = .ended result := by
    intro later entry member other origin
    obtain ⟨existing, result, there, finished⟩ := inline.unsent entry member other origin
    have different : other ≠ source := by
      rintro rfl
      rw [absent] at there
      contradiction
    exact ⟨existing, result, (self.setDatagram_ne different later).trans there, finished⟩
  have idle : ∀ (other : Nat) (existing : DatagramTask), self.datagrams other = some existing →
      (∀ result, existing.state ≠ .ended result) → False := by
    intro other existing there open'
    have held := inline.alone other existing there open'
    rw [free] at held
    contradiction
  unfold startDatagram
  split
  · refine ⟨fresh _, once.2, ?_, ?_, ended _, inline.opened⟩
    · intro other held
      cases free.symm.trans held
    · intro other existing there open'
      by_cases same : other = source
      · subst other
        cases (self.setDatagram_self _).symm.trans there
        exact absurd rfl (open' _)
      · exact absurd open' (idle other existing ((self.setDatagram_ne same _).symm.trans there))
  · refine ⟨fresh _, once.2, ?_, ?_, ended _, inline.opened⟩
    · rintro other ⟨⟩
      exact ⟨_, self.setDatagram_self _, Or.inl rfl⟩
    · intro other existing there open'
      by_cases same : other = source
      · rw [same]
        rfl
      · exact absurd open' (idle other existing ((self.setDatagram_ne same _).symm.trans there))

end Receiver

theorem receiveStep_inline {self next : Receiver} {action : ReceiveAction} (inline : self.Inline)
    (stepped : receiveStep .inline self action = some next) : next.Inline := by
  cases (receiveStep_loop stepped).1 with
  | quiet inbox datagrams hand closed log =>
    refine ⟨?_, inbox ▸ inline.once, ?_, ?_, ?_, ?_⟩
    · rw [inbox, datagrams]
      exact inline.fresh
    · rw [hand, datagrams]
      exact inline.busy
    · rw [hand, datagrams]
      exact inline.alone
    · intro entry member source origin
      rw [datagrams]
      rcases log entry member with old | ⟨stream, index, _, packet, _⟩
      · exact inline.unsent entry old source origin
      · rw [packet] at origin
        contradiction
    · cases shut : next.closed with
      | false => rfl
      | true =>
        rcases closed shut with already | spawned
        · rw [inline.opened] at already
          contradiction
        · contradiction
  | arrived source bytes absent new same =>
    subst next
    refine { inline with fresh := ?_, once := ?_ }
    · intro other content member
      rcases List.mem_append.mp member with old | last
      · exact inline.fresh other content old
      · obtain ⟨rfl, _⟩ := Prod.mk.inj (List.mem_singleton.mp last)
        exact absent
    · dsimp only
      rw [List.map_append, List.map_singleton, List.nodup_append]
      refine ⟨inline.once, List.nodup_singleton _, ?_⟩
      intro other member final last same
      rw [same, List.mem_singleton.mp last] at member
      exact new member
  | read source bytes rest _ first ready same =>
    subst next
    exact inline.read first (by simpa [Receiver.ready] using ready)
  | routed source task route here waiting found same =>
    subst next
    have held := inline.alone source task here (by simp [waiting])
    exact inline.step here held (Or.inr ⟨route, rfl⟩)
  | quit source task here waiting closed same =>
    rw [inline.opened] at closed
    contradiction
  | refused source task route here sending _ same =>
    subst next
    exact (inline.finish here (by simp [sending]) _).1
  | delivered source task route here sending same =>
    subst next
    have ended := (inline.finish here (by simp [sending]) (.ok ())).1
    refine { ended with unsent := ?_ }
    intro entry member other origin
    rcases List.mem_append.mp member with old | last
    · exact ended.unsent entry old other origin
    · rw [List.mem_singleton.mp last] at origin
      obtain rfl : source = other := Origin.datagram.inj origin
      exact ⟨_, _, self.setDatagram_self _, rfl⟩

theorem run_inline {actions : List ReceiveAction} {receiver : Receiver}
    (execution : Transition.run (receiveStep .inline) .initial actions = some receiver) :
    receiver.Inline :=
  Transition.run_invariant (P := Receiver.Inline) receiveStep_inline execution Receiver.initial_inline

end SingQuic.ShadowQuic
