import SingQuic.ShadowQuic.Delivery
import SingQuic.ShadowQuic.ReceiveLoop

/-! What the receiving side of a link owes to what has arrived: every record read is
in the registry while its control stream is open, and a handler that has ended has
delivered its packets unless their queue is gone. -/
namespace SingQuic.ShadowQuic
open Wire

section Steps
variable {dispatch : Dispatch} {self next : Link} {action : LinkAction}

/-- Each step of a link is a step of one of its ends. -/
theorem linkStep_ends (stepped : linkStep dispatch self action = some next) :
    (∃ sent, sendStep self.sender sent = some next.sender ∧ next.receiver = self.receiver) ∨
      (next.sender = self.sender ∧
        ∃ received, receiveStep dispatch self.receiver received = some next.receiver) := by
  cases action with
  | send action =>
    obtain ⟨sender, sent, rfl⟩ := Option.map_eq_some_iff.mp stepped
    exact Or.inl ⟨action, sent, rfl⟩
  | receive action =>
    simp only [linkStep] at stepped
    split at stepped
    · contradiction
    · obtain ⟨receiver, received, rfl⟩ := Option.map_eq_some_iff.mp stepped
      exact Or.inr ⟨rfl, action, received⟩
  | controlArrives association count =>
    obtain ⟨connection, _, arrives⟩ := Option.bind_eq_some_iff.mp stepped
    obtain ⟨receiver, received, rfl⟩ := Option.map_eq_some_iff.mp arrives
    exact Or.inr ⟨rfl, _, received⟩
  | datagramArrives source =>
    obtain ⟨datagram, _, arrives⟩ := Option.bind_eq_some_iff.mp stepped
    obtain ⟨receiver, received, rfl⟩ := Option.map_eq_some_iff.mp arrives
    exact Or.inr ⟨rfl, _, received⟩
  | streamArrives stream =>
    obtain ⟨uni, _, arrives⟩ := Option.bind_eq_some_iff.mp stepped
    obtain ⟨receiver, received, rfl⟩ := Option.map_eq_some_iff.mp arrives
    exact Or.inr ⟨rfl, _, received⟩
  | bytesArrive stream count =>
    obtain ⟨uni, _, arrives⟩ := Option.bind_eq_some_iff.mp stepped
    obtain ⟨receiver, received, rfl⟩ := Option.map_eq_some_iff.mp arrives
    exact Or.inr ⟨rfl, _, received⟩

end Steps

/-- If an open control stream has registered the id, the registry has it under the
name of that stream. -/
def Receiver.Routed (self : Receiver) (id : UInt16) : Prop :=
  ∀ association task, self.controls association = some task → task.running = true →
    ∀ destination, (destination, id) ∈ task.records →
      self.routes id = some ⟨association, destination⟩

/-- How the handlers of a link have ended, and what they have delivered before. -/
structure Outcomes (sender : Sender) (receiver : Receiver) : Prop where
  datagrams : ∀ source task result, receiver.datagrams source = some task →
    task.state = .ended result →
    (∃ entry ∈ receiver.log, entry.origin = .datagram source) ∨ task.bytes.length < 2 ∨
      ∃ route, sender.Announces route (datagramId task.bytes) ∧ receiver.dropped route.sender = true
  packets : ∀ stream task, receiver.streams stream = some task → ∀ index < task.count,
    ∃ entry ∈ receiver.log, entry.origin = .packet stream index
  streams : ∀ stream task result, receiver.streams stream = some task → task.state = .ended result →
    (∃ text, result = .error (.read text)) ∨
      ∃ uni route, sender.unis[stream]? = some uni ∧ sender.Announces route (wireId uni.number) ∧
        receiver.dropped route.sender = true

section Registry
variable {self after : Link}

/-- What a task has registered was announced to it. -/
theorem Link.Sound.registered (sound : self.Sound) {association : Nat} {task : ControlTask}
    (here : self.receiver.controls association = some task) {destination : Address} {id : UInt16}
    (member : (destination, id) ∈ task.records) :
    self.sender.Announces ⟨association, destination⟩ id := by
  obtain ⟨consumed, part, records, _⟩ := sound.controls association task here
  rw [records] at member
  obtain ⟨record, inside, same⟩ := List.mem_map.mp member
  exact ⟨record, part.subset inside, same⟩

theorem Link.Sound.routed {dispatch : Dispatch} {received : ReceiveAction} {id : UInt16}
    (sound : self.Sound) (later : after.Sound) (same : after.sender = self.sender)
    (unshared : after.sender.Unshared id) (routed : self.receiver.Routed id)
    (stepped : receiveStep dispatch self.receiver received = some after.receiver) :
    after.receiver.Routed id := by
  intro association task here running destination member
  cases receiveStep_control stepped with
  | quiet _ routes controls born =>
    rw [routes]
    cases old : self.receiver.controls association with
    | none =>
      rw [(born association task old here).2] at member
      contradiction
    | some earlier =>
      obtain ⟨current, now, runs, records⟩ := controls association earlier old
      cases here.symm.trans now
      exact routed association earlier old (runs ▸ running) destination (records ▸ member)
  | registered other earlier name fresh rest _ _ there _ _ step =>
    -- the record just read is in the registry; another with its id leads to the same place
    have listed : after.receiver.controls other = some { earlier with
        unread := rest, records := earlier.records ++ [(name, fresh)] } := by
      rw [step]
      exact Receiver.setControl_self _ _
    have entered : after.receiver.routes fresh = some ⟨other, name⟩ := by
      rw [step]
      exact Function.update_self _ _ _
    by_cases reused : id = fresh
    · subst fresh
      have last : (name, id) ∈ earlier.records ++ [(name, id)] := by simp
      rw [entered, unshared _ _ (later.registered listed last) (later.registered here member)]
    · have unchanged : after.receiver.routes id = self.receiver.routes id := by
        rw [step]
        exact Function.update_of_ne reused _ _
      rw [unchanged]
      by_cases own : association = other
      · subst other
        cases here.symm.trans listed
        rcases List.mem_append.mp member with old | last
        · exact routed association earlier there running destination old
        · exact absurd (Prod.mk.inj (List.mem_singleton.mp last)).2 reused
      · have old : self.receiver.controls association = some task := by
          rw [step] at here
          exact (Receiver.setControl_ne _ own _).symm.trans here
        exact routed association task old running destination member
  | ended other earlier _ there step =>
    have stopped : after.receiver.controls other = some { earlier with running := false } := by
      rw [step]
      exact Receiver.setControl_self _ _
    have different : association ≠ other := by
      rintro rfl
      cases here.symm.trans stopped
      contradiction
    have old : self.receiver.controls association = some task := by
      rw [step] at here
      exact (Receiver.setControl_ne _ different _).symm.trans here
    have foreign : id ∉ earlier.ids := by
      intro inside
      obtain ⟨⟨name, _⟩, known, rfl⟩ := List.mem_map.mp inside
      have owner := unshared _ _ (same ▸ sound.registered old member) (same ▸ sound.registered there known)
      exact different (IncomingUdpRoute.mk.inj owner).1
    rw [step]
    show (if id ∈ earlier.ids then none else self.receiver.routes id) = _
    rw [if_neg foreign]
    exact routed association task old running destination member

end Registry

section Handlers
variable {self : Link} {next : Receiver} {received : ReceiveAction}

theorem Outcomes.send {sender later : Sender} {receiver : Receiver} (grows : sender.Grows later)
    (outcomes : Outcomes sender receiver) : Outcomes later receiver where
  datagrams source task result here ended := by
    rcases outcomes.datagrams source task result here ended with sent | short | ⟨route, known, gone⟩
    · exact Or.inl sent
    · exact Or.inr (Or.inl short)
    · exact Or.inr (Or.inr ⟨route, known.mono grows, gone⟩)
  packets := outcomes.packets
  streams stream task result here ended := by
    rcases outcomes.streams stream task result here ended with failed | ⟨uni, route, found, known, gone⟩
    · exact Or.inl failed
    · obtain ⟨after, there, number, _⟩ := grows.unis found
      exact Or.inr ⟨after, route, there, number ▸ known.mono grows, gone⟩

/-- A log that grows and queues that stay dropped keep what was said of the handlers
that did not move. -/
theorem Outcomes.of_datagrams {sender : Sender} {receiver : Receiver}
    (outcomes : Outcomes sender receiver) (log : receiver.log ⊆ next.log)
    (dropped : ∀ association, receiver.dropped association = true → next.dropped association = true)
    {source : Nat} {task : DatagramTask} {result : Result Unit}
    (here : receiver.datagrams source = some task) (ended : task.state = .ended result) :
    (∃ entry ∈ next.log, entry.origin = .datagram source) ∨ task.bytes.length < 2 ∨
      ∃ route, sender.Announces route (datagramId task.bytes) ∧ next.dropped route.sender = true := by
  rcases outcomes.datagrams source task result here ended with ⟨entry, member, origin⟩ | short |
    ⟨route, known, gone⟩
  · exact Or.inl ⟨entry, log member, origin⟩
  · exact Or.inr (Or.inl short)
  · exact Or.inr (Or.inr ⟨route, known, dropped _ gone⟩)

/-- The log never shrinks, and a dropped queue stays dropped. -/
theorem receiveStep_keeps {dispatch : Dispatch} {receiver : Receiver}
    (stepped : receiveStep dispatch receiver received = some next) : receiver.log ⊆ next.log ∧
      ∀ association, receiver.dropped association = true → next.dropped association = true := by
  cases (receiveStep_loop stepped).1 with
  | quiet _ _ _ _ _ grown dropped => exact ⟨grown, dropped⟩
  | arrived source bytes _ _ same => exact same ▸ ⟨List.Subset.refl _, fun _ => id⟩
  | read source bytes rest _ _ _ same =>
    rw [same]
    unfold Receiver.startDatagram
    split <;> exact ⟨List.Subset.refl _, fun _ => id⟩
  | routed source task route _ _ _ same => exact same ▸ ⟨List.Subset.refl _, fun _ => id⟩
  | quit source task _ _ _ same => exact same ▸ ⟨List.Subset.refl _, fun _ => id⟩
  | refused source task route _ _ _ same => exact same ▸ ⟨List.Subset.refl _, fun _ => id⟩
  | delivered source task route _ _ same =>
    exact same ▸ ⟨List.subset_append_left _ _, fun _ => id⟩

theorem Link.Sound.datagramOutcomes (sound : self.Sound) (inline : self.receiver.Inline)
    (outcomes : Outcomes self.sender self.receiver)
    (stepped : receiveStep .inline self.receiver received = some next) (source : Nat)
    (task : DatagramTask) (result : Result Unit) (here : next.datagrams source = some task)
    (ended : task.state = .ended result) :
    (∃ entry ∈ next.log, entry.origin = .datagram source) ∨ task.bytes.length < 2 ∨
      ∃ route, self.sender.Announces route (datagramId task.bytes) ∧
        next.dropped route.sender = true := by
  obtain ⟨log, dropped⟩ := receiveStep_keeps stepped
  have old : self.receiver.datagrams source = some task → _ :=
    fun there => outcomes.of_datagrams log dropped there ended
  cases (receiveStep_loop stepped).1 with
  | quiet _ datagrams => exact old (datagrams ▸ here)
  | arrived other bytes _ _ same =>
    subst next
    exact old here
  | read other bytes rest _ _ _ same =>
    by_cases own : source = other
    · subst other
      rw [same, Receiver.startDatagram] at here
      split at here
      · rename_i short
        cases (Receiver.setDatagram_self _ _).symm.trans here
        exact Or.inr (Or.inl short)
      · cases (Receiver.setDatagram_self _ _).symm.trans here
        contradiction
    · refine old ?_
      rw [same, Receiver.startDatagram] at here
      split at here
      · exact (Receiver.setDatagram_ne _ own _).symm.trans here
      · exact (Receiver.setDatagram_ne _ own _).symm.trans here
  | routed other earlier route _ _ _ same =>
    by_cases own : source = other
    · subst other next
      cases (Receiver.setDatagram_self _ _).symm.trans here
      contradiction
    · exact old ((Receiver.setDatagram_ne _ own _).symm.trans (same ▸ here))
  | quit other earlier _ _ closed _ =>
    rw [inline.opened] at closed
    contradiction
  | refused other earlier route there sending gone same =>
    by_cases own : source = other
    · subst other next
      cases (Receiver.setDatagram_self _ _).symm.trans here
      exact Or.inr (Or.inr ⟨route, (sound.datagrams source earlier there).2 route sending, gone⟩)
    · exact old ((Receiver.setDatagram_ne _ own _).symm.trans (same ▸ here))
  | delivered other earlier route there sending same =>
    by_cases own : source = other
    · subst other next
      exact Or.inl ⟨_, List.mem_append_right _ (List.mem_singleton_self _), rfl⟩
    · refine old ?_
      subst next
      exact (Receiver.setDatagram_ne _ own _).symm.trans here

theorem Link.Sound.outcomes (sound : self.Sound) (inline : self.receiver.Inline)
    (outcomes : Outcomes self.sender self.receiver)
    (stepped : receiveStep .inline self.receiver received = some next) :
    Outcomes self.sender next := by
  obtain ⟨log, dropped⟩ := receiveStep_keeps stepped
  have packets : ∀ stream task, self.receiver.streams stream = some task → ∀ index < task.count,
      ∃ entry ∈ next.log, entry.origin = .packet stream index := by
    intro stream task here index less
    obtain ⟨entry, member, origin⟩ := outcomes.packets stream task here index less
    exact ⟨entry, log member, origin⟩
  have ends : ∀ stream task result, self.receiver.streams stream = some task →
      task.state = .ended result → (∃ text, result = .error (.read text)) ∨
        ∃ uni route, self.sender.unis[stream]? = some uni ∧
          self.sender.Announces route (wireId uni.number) ∧ next.dropped route.sender = true := by
    intro stream task result here ended
    rcases outcomes.streams stream task result here ended with failed | ⟨uni, route, found, known, gone⟩
    · exact Or.inl failed
    · exact Or.inr ⟨uni, route, found, known, dropped _ gone⟩
  refine ⟨sound.datagramOutcomes inline outcomes stepped, ?_, ?_⟩
  · intro stream task here index less
    cases (receiveStep_loop stepped).2.past here with
    | same there => exact packets stream task there index less
    | opened fresh =>
      subst task
      contradiction
    | accepted earlier _ there _ now =>
      subst task
      exact packets stream earlier there index less
    | moved earlier there _ counted =>
      rcases counted with same | ⟨one, entry, member, origin⟩
      · exact packets stream earlier there index (same ▸ less)
      · rcases Nat.lt_or_eq_of_le (Nat.lt_succ_iff.mp (one ▸ less)) with small | rfl
        · exact packets stream earlier there index small
        · exact ⟨entry, member, origin⟩
  · intro stream task result here ended
    cases (receiveStep_loop stepped).2.past here with
    | same there => exact ends stream task result there ended
    | opened fresh =>
      subst task
      contradiction
    | accepted earlier _ _ _ now =>
      subst task
      contradiction
    | moved earlier there _ _ finished =>
      rcases finished result ended with already | failed | closed | ⟨route, data, sending, gone⟩
      · exact ends stream earlier result there already
      · exact Or.inl failed
      · rw [inline.opened] at closed
        contradiction
      · obtain ⟨uni, found, _, state⟩ := sound.streams stream earlier there
        rw [sending] at state
        exact Or.inr ⟨uni, route, found, state.1, dropped _ gone⟩

end Handlers

/-- What holds of a link whose receiving side is a client with a receive loop. -/
structure Link.Kept (link : Link) : Prop where
  sound : link.Sound
  inline : link.receiver.Inline
  routed : ∀ id, link.sender.Unshared id → link.receiver.Routed id
  outcomes : Outcomes link.sender link.receiver

theorem Link.initial_kept : Link.initial.Kept where
  sound := Link.initial_sound
  inline := Receiver.initial_inline
  routed _ _ _ _ here := absurd here (by simp [Link.initial, Receiver.initial])
  outcomes := ⟨fun _ _ _ here => absurd here (by simp [Link.initial, Receiver.initial]),
    fun _ _ here => absurd here (by simp [Link.initial, Receiver.initial]),
    fun _ _ _ here => absurd here (by simp [Link.initial, Receiver.initial])⟩

theorem linkStep_kept {self next : Link} {action : LinkAction} (kept : self.Kept)
    (stepped : linkStep .inline self action = some next) : next.Kept := by
  have sound := linkStep_sound kept.sound stepped
  rcases linkStep_ends stepped with ⟨sent, step, same⟩ | ⟨same, received, step⟩
  · have grows := sendStep_grows step
    exact ⟨sound, same ▸ kept.inline, fun id unshared => same ▸ kept.routed id (unshared.mono grows),
      same ▸ kept.outcomes.send grows⟩
  · exact ⟨sound, receiveStep_inline kept.inline step,
      fun id unshared => kept.sound.routed sound same unshared (kept.routed id (same ▸ unshared)) step,
      same ▸ kept.sound.outcomes kept.inline kept.outcomes step⟩

theorem run_kept {actions : List LinkAction} {link : Link}
    (execution : Transition.run (linkStep .inline) .initial actions = some link) : link.Kept :=
  Transition.run_invariant (P := Link.Kept) linkStep_kept execution Link.initial_kept

end SingQuic.ShadowQuic
