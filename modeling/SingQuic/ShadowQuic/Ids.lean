import Mathlib.Data.Nat.ModEq
import SingQuic.ShadowQuic.SendInvariant

/-! Context ids on the wire. Contexts are never evicted while the counter wraps
around after 65536 draws, so two of them share an id exactly when they were drawn
a multiple of 65536 apart. -/
namespace SingQuic.ShadowQuic
open Wire

theorem wireId_eq_iff {first second : Nat} :
    wireId first = wireId second ↔ first ≡ second [MOD 65536] := by
  unfold wireId Nat.ModEq
  rw [← UInt16.toNat_inj, UInt16.toNat_ofNat', UInt16.toNat_ofNat']

namespace Sender

/-- The context of a destination on a packet connection that is still open. -/
def lookup (self : Sender) (association : Nat) (destination : Address) : Option OutgoingUdpContext :=
  (self.connections[association]?).bind fun connection =>
    if connection.live then connection.contexts destination else none

/-- No two contexts of open packet connections carry the same id. -/
def UniqueIds (self : Sender) : Prop :=
  ∀ association destination context other destination' context',
    self.lookup association destination = some context →
    self.lookup other destination' = some context' → context.id = context'.id →
    association = other ∧ destination = destination'

/-- The draw whose context the next step of a call would enter into the map. -/
def entering (self : Sender) : SendAction → Option Nat
  | .proceed association _ => (self.connections[association]?).bind fun connection =>
      match connection.progress, connection.mode with
      | .control _ number, .datagram => some number
      | .header _ number _, _ => some number
      | _, _ => none
  | _ => none

/-- If the step enters a context, no context of an open packet connection was
drawn a multiple of 65536 draws before or after it. -/
def Apart (self : Sender) (action : SendAction) : Prop :=
  ∀ number, self.entering action = some number →
    ∀ association destination context, self.lookup association destination = some context →
      ¬ number ≡ context.number [MOD 65536]

variable {self next : Sender} {association call : Nat} {connection : PacketConnection}

/-- What the map of open connections looks like after one connection changed. -/
theorem lookup_set {later : PacketConnection}
    (found : self.connections[association]? = some connection)
    (connections : next.connections = self.connections.set association later) (other : Nat)
    (destination : Address) : next.lookup other destination =
      if other = association then if later.live then later.contexts destination else none
      else self.lookup other destination := by
  unfold lookup
  rw [connections]
  by_cases same : other = association
  · subst other
    rw [List.getElem?_set_self (List.getElem?_eq_some_iff.mp found).1, if_pos rfl, Option.bind_some]
  · rw [List.getElem?_set_ne (Ne.symm same), if_neg same]

theorem lookup_here (found : self.connections[association]? = some connection)
    (destination : Address) : self.lookup association destination =
      if connection.live then connection.contexts destination else none := by
  rw [lookup, found, Option.bind_some]

/-- A change that keeps the contexts, or closes the connection, enters nothing. -/
theorem lookup_of_set {later : PacketConnection}
    (found : self.connections[association]? = some connection)
    (connections : next.connections = self.connections.set association later)
    (contexts : later.contexts = connection.contexts)
    (live : later.live = true → connection.live = true) (other : Nat) (destination : Address)
    (context : OutgoingUdpContext) (entered : next.lookup other destination = some context) :
    self.lookup other destination = some context := by
  rw [lookup_set found connections] at entered
  split at entered
  · subst other
    split at entered
    · rename_i open'
      rw [lookup_here found, if_pos (live open'), ← contexts, entered]
    · contradiction
  · exact entered

theorem Transmission.connections {data : Bytes} {answer : Except String Unit}
    {context : OutgoingUdpContext}
    (transmitted : Transmission self association connection call data answer context next) :
    ∃ progress, next.connections = self.connections.set association { connection with progress } := by
  cases transmitted <;> exact ⟨_, rfl⟩

theorem Announcement.connections {destination : Address}
    (announced : Announcement self association connection call destination next) :
    ∃ later, next.connections = self.connections.set association later ∧
      later.contexts = connection.contexts ∧ later.live = connection.live := by
  cases announced <;> exact ⟨_, rfl, rfl, rfl⟩

/-- Entering a context for a destination that had none. -/
theorem Transmission.lookup {packet : ShadowQuicPacket} {answer : Except String Unit}
    {context : OutgoingUdpContext}
    (transmitted : Transmission self association { connection with
      contexts := Function.update connection.contexts packet.destination (some context) }
      call packet.data answer context next)
    (found : self.connections[association]? = some connection) (live : connection.live = true)
    (other : Nat) (destination : Address) : next.lookup other destination =
      if other = association ∧ destination = packet.destination then some context
      else self.lookup other destination := by
  obtain ⟨progress, connections⟩ := transmitted.connections
  rw [lookup_set found connections]
  by_cases same : other = association
  · subst other
    rw [if_pos rfl, if_pos live, lookup_here found, if_pos live]
    dsimp only
    by_cases target : destination = packet.destination
    · subst target
      rw [Function.update_self, if_pos ⟨rfl, rfl⟩]
    · rw [Function.update_of_ne target, if_neg (fun both => target both.2)]
  · rw [if_neg same, if_neg (fun both => same both.1)]

/-- What a step can do to the maps of the open connections: enter one new context
or, otherwise, at most lose some. -/
inductive Entry (self next : Sender) (action : SendAction) : Prop where
  | quiet (unchanged : self.entering action = none)
      (kept : ∀ association destination context, next.lookup association destination = some context →
        self.lookup association destination = some context)
  | entered (association : Nat) (destination : Address) (context : OutgoingUdpContext)
      (drawn : self.entering action = some context.number)
      (missing : self.lookup association destination = none)
      (lookup : ∀ other destination', next.lookup other destination' =
        if other = association ∧ destination' = destination then some context
        else self.lookup other destination')

end Sender

theorem sendStep_entry {self next : Sender} {action : SendAction} (valid : self.Valid)
    (stepped : sendStep self action = some next) : Sender.Entry self next action := by
  cases sendStep_rule stepped with
  | associated mode =>
    refine .quiet rfl fun association destination context entered => ?_
    unfold Sender.lookup at entered ⊢
    obtain ⟨connection, here, value⟩ := Option.bind_eq_some_iff.mp entered
    rcases Table.of_concat here with old | ⟨_, rfl⟩
    · rw [old, Option.bind_some, value]
    · contradiction
  | announced association packet answer connection next found live idle missing announced =>
    obtain ⟨later, connections, contexts, live⟩ := announced.connections
    exact .quiet rfl (Sender.lookup_of_set found connections contexts fun open' => live ▸ open')
  | resumed association packet answer connection context next found live idle known transmitted =>
    obtain ⟨progress, connections⟩ := transmitted.connections
    exact .quiet rfl (Sender.lookup_of_set found connections rfl id)
  | flushed association answer connection call number found stage drained mode =>
    exact .quiet (by simp [Sender.entering, found, stage, mode]) (Sender.lookup_of_set found rfl rfl id)
  | refused association text connection call number found stage =>
    exact .quiet (by simp [Sender.entering, found, stage]) (Sender.lookup_of_set found rfl rfl id)
  | opened association connection call number found stage =>
    exact .quiet (by simp [Sender.entering, found, stage]) (Sender.lookup_of_set found rfl rfl id)
  | entered association answer connection call sent context next found stage called transmitted =>
    have progress := (valid.connection _ _ found).progress
    -- either way the call is pending with the draw of the context
    obtain ⟨pending, drawn⟩ : self.Pending association connection call context.number ∧
        self.entering (.proceed association answer) = some context.number := by
      rcases stage with ⟨control, _, mode, _⟩ | ⟨stream, _, header, _⟩
      · rw [control] at progress
        exact ⟨progress, by simp [Sender.entering, found, control, mode]⟩
      · rw [header] at progress
        exact ⟨progress.1, by simp [Sender.entering, found, header]⟩
    obtain ⟨packet, same, missing, _⟩ := pending.packet
    obtain rfl := Option.some.inj (called.symm.trans same)
    refine .entered association packet.destination context drawn ?_
      (transmitted.lookup found pending.live)
    rw [Sender.lookup_here found, if_pos pending.live, missing]
  | completed association answer connection call stream uni found stage =>
    exact .quiet (by simp [Sender.entering, found, stage]) (Sender.lookup_of_set found rfl rfl id)
  | controlFlowed association count connection found =>
    exact .quiet rfl (Sender.lookup_of_set found rfl rfl id)
  | uniFlowed stream count uni here => exact .quiet rfl fun _ _ _ entered => entered
  | controlFailed association text connection call number found =>
    exact .quiet rfl (Sender.lookup_of_set found rfl rfl id)
  | uniFailed association text connection call stream uni found =>
    exact .quiet rfl (Sender.lookup_of_set found rfl rfl id)
  | closed association connection found =>
    refine .quiet rfl (Sender.lookup_of_set found rfl rfl ?_)
    exact fun open' => absurd open' Bool.false_ne_true

/-- One step from a state with unique ids keeps them unique exactly when it is
apart from every open context. -/
theorem sendStep_unique_iff {self next : Sender} {action : SendAction} (valid : self.Valid)
    (unique : self.UniqueIds) (stepped : sendStep self action = some next) :
    next.UniqueIds ↔ self.Apart action := by
  cases sendStep_entry valid stepped with
  | quiet unchanged kept =>
    refine ⟨fun _ number drawn => by rw [unchanged] at drawn; contradiction, fun _ => ?_⟩
    intro association destination context other destination' context' here here' same
    exact unique _ _ _ _ _ _ (kept _ _ _ here) (kept _ _ _ here') same
  | entered association destination context drawn missing lookup =>
    have now : next.lookup association destination = some context := by
      rw [lookup, if_pos ⟨rfl, rfl⟩]
    have elsewhere : ∀ {other destination' context'},
        self.lookup other destination' = some context' →
        ¬ (other = association ∧ destination' = destination) ∧
          next.lookup other destination' = some context' := by
      intro other destination' context' here
      have different : ¬ (other = association ∧ destination' = destination) := by
        rintro ⟨rfl, rfl⟩
        rw [missing] at here
        contradiction
      exact ⟨different, by rw [lookup, if_neg different, here]⟩
    constructor
    · intro afterwards number drawn' other destination' context' here congruent
      obtain rfl : context.number = number := Option.some.inj (drawn.symm.trans drawn')
      obtain ⟨different, kept⟩ := elsewhere here
      obtain ⟨rfl, rfl⟩ := afterwards _ _ _ _ _ _ now kept (wireId_eq_iff.mpr congruent)
      exact different ⟨rfl, rfl⟩
    · intro apart first destination₁ context₁ second destination₂ context₂ here₁ here₂ same
      rw [lookup] at here₁ here₂
      split at here₁ <;> split at here₂
      · rename_i place₁ place₂
        exact ⟨place₁.1.trans place₂.1.symm, place₁.2.trans place₂.2.symm⟩
      · obtain rfl := Option.some.inj here₁
        exact absurd (wireId_eq_iff.mp same) (apart _ drawn _ _ _ here₂)
      · obtain rfl := Option.some.inj here₂
        exact absurd (wireId_eq_iff.mp same.symm) (apart _ drawn _ _ _ here₁)
      · exact unique _ _ _ _ _ _ here₁ here₂ same

/-- In a run of any length, all states have unique ids exactly when no context is
entered a multiple of 65536 draws away from a context of an open connection. -/
theorem unique_iff_apart {actions : List SendAction} {final : Sender}
    (execution : Transition.run sendStep .initial actions = some final) :
    Transition.Always sendStep Sender.UniqueIds .initial actions ↔
      Transition.Meets sendStep Sender.Apart .initial actions := by
  refine Transition.always_iff_meets (Q := Sender.Valid) sendStep_valid sendStep_unique_iff execution
    Sender.initial_valid ?_
  intro association destination context other destination' context' here
  simp [Sender.lookup, Sender.initial] at here

/-- One datagram context, entered into an empty map. -/
theorem unique_iff_apart_first :
    ∃ final, Transition.run sendStep .initial [.associate .datagram,
        .start 0 ⟨[9], ⟨"a", 1, by decide⟩⟩ (.ok ()), .flowControl 0 8, .proceed 0 (.ok ())] =
          some final ∧
      final.lookup 0 ⟨"a", 1, by decide⟩ = some (.datagram 0) ∧
      Transition.Always sendStep Sender.UniqueIds .initial [.associate .datagram,
        .start 0 ⟨[9], ⟨"a", 1, by decide⟩⟩ (.ok ()), .flowControl 0 8, .proceed 0 (.ok ())] := by
  refine ⟨_, rfl, rfl, (unique_iff_apart rfl).mpr ?_⟩
  refine ⟨fun _ drawn => by contradiction, fun _ opened => ?_⟩
  cases opened
  refine ⟨fun _ drawn => by contradiction, fun _ begun => ?_⟩
  cases begun
  refine ⟨fun _ drawn => by contradiction, fun _ flowed => ?_⟩
  cases flowed
  refine ⟨fun _ _ association destination context here => ?_, fun _ _ => trivial⟩
  cases association <;> contradiction

/-- A connection on which a call may start a context right now. -/
structure PacketConnection.Ready (connection : PacketConnection) : Prop where
  live : connection.live = true
  idle : connection.progress = .idle
  mode : connection.mode = .datagram
  healthy : connection.control.broken = none
  drained : connection.control.pending = []

/-- A failing call burns an id and leaves the connections as they were. -/
theorem run_burn {self : Sender} {association : Nat} {connection : PacketConnection}
    (packet : ShadowQuicPacket) {error : Error}
    (found : self.connections[association]? = some connection) (ready : connection.Ready)
    (missing : connection.contexts packet.destination = none)
    (refused : encodeAddress packet.destination = .error error) (count : Nat) :
    ∃ next, Transition.run sendStep self (List.replicate count (.start association packet (.ok ()))) =
        some next ∧ next.connections = self.connections ∧
      next.allocated = self.allocated + count := by
  induction count generalizing self with
  | zero => exact ⟨self, rfl, rfl, rfl⟩
  | succ count ih =>
    have same : { connection with progress := .idle } = connection := by rw [← ready.idle]
    have unchanged : self.connections.set association connection = self.connections := by
      obtain ⟨inside, rfl⟩ := List.getElem?_eq_some_iff.mp found
      exact List.set_getElem_self inside
    let burnt : Sender := { self with
      allocated := self.allocated + 1
      calls := self.calls ++ [⟨association, packet⟩]
      results := self.results ++ [(self.calls.length, .error error)] }
    have kept : burnt.connections[association]? = some connection := found
    obtain ⟨next, onward, connections, allocated⟩ := ih kept
    refine ⟨next, ?_, connections, by rw [allocated]; dsimp only [burnt]; omega⟩
    rw [List.replicate_succ, Transition.run_cons]
    refine ⟨_, ?_, onward⟩
    rw [sendStep, found, Option.bind_some, if_pos ⟨ready.live, ready.idle⟩]
    simp only [Sender.start, missing, Sender.announce, refused, Sender.finish, Sender.setConnection,
      same, unchanged, burnt]

/-- A successful call enters its context under the next number. -/
theorem run_enter {self : Sender} {association : Nat} {connection : PacketConnection}
    (packet : ShadowQuicPacket) {address : Bytes}
    (found : self.connections[association]? = some connection) (ready : connection.Ready)
    (missing : connection.contexts packet.destination = none)
    (encoded : encodeAddress packet.destination = .ok address) :
    ∃ next later, Transition.run sendStep self [.start association packet (.ok ()),
        .flowControl association (encodeRecord address (wireId self.allocated)).length,
        .proceed association (.ok ())] = some next ∧
      next.allocated = self.allocated + 1 ∧ next.connections[association]? = some later ∧
      later.Ready ∧ later.contexts = Function.update connection.contexts packet.destination
        (some (.datagram self.allocated)) := by
  let record := encodeRecord address (wireId self.allocated)
  let begun : PacketConnection := { connection with
    control := connection.control.writeAll record
    records := connection.records ++ [(packet.destination, self.allocated)]
    progress := .control self.calls.length self.allocated }
  let flushed : PacketConnection := { begun with control := begun.control.flow record.length }
  let first : Sender := { self with
    allocated := self.allocated + 1
    calls := self.calls ++ [⟨association, packet⟩]
    connections := self.connections.set association begun }
  let second : Sender := first.setConnection association flushed
  have inside := (List.getElem?_eq_some_iff.mp found).1
  have started : sendStep self (.start association packet (.ok ())) = some first := by
    rw [sendStep, found, Option.bind_some, if_pos ⟨ready.live, ready.idle⟩]
    simp only [Sender.start, missing, Sender.announce, encoded, ready.healthy, Sender.setConnection]
    rfl
  have here : first.connections[association]? = some begun := List.getElem?_set_self inside
  have flowed : sendStep first (.flowControl association record.length) = some second := by
    rw [sendStep, here, Option.bind_some, if_neg (by
      simp [begun, SendStream.writeAll, ready.healthy])]
  have there : second.connections[association]? = some flushed :=
    List.getElem?_set_self (by simp [first, inside])
  have called : second.calls[self.calls.length]? = some ⟨association, packet⟩ := by
    simp [second, first, Sender.setConnection]
  have empty : flushed.control.pending = [] := by
    simp [flushed, begun, SendStream.flow, SendStream.writeAll, ready.drained]
  have mode : flushed.mode = .datagram := ready.mode
  have progress : flushed.progress = .control self.calls.length self.allocated := rfl
  let entered : PacketConnection := { flushed with
    contexts := Function.update flushed.contexts packet.destination (some (.datagram self.allocated)) }
  let third : Sender := (second.sendDatagram association self.calls.length self.allocated
    packet.data).finish association entered self.calls.length (.ok ())
  have ended : sendStep second (.proceed association (.ok ())) = some third := by
    rw [sendStep, there, Option.bind_some, Sender.proceed, progress]
    dsimp only
    rw [if_neg (by simp [empty]), mode]
    dsimp only
    rw [called, Option.bind_some]
    rfl
  refine ⟨third, { entered with progress := .idle }, ?_, rfl,
    List.getElem?_set_self (by simp [second, first, Sender.sendDatagram, Sender.setConnection, inside]),
    ⟨ready.live, rfl, ready.mode, ready.healthy, empty⟩, rfl⟩
  exact Transition.run_cons.mpr ⟨first, started, Transition.run_cons.mpr ⟨second, flowed,
    Transition.run_cons.mpr ⟨third, ended, rfl⟩⟩⟩

/-- 65535 calls whose address cannot be encoded lie between two good ones: both
contexts are open and share id 0. -/
theorem ids_not_unique :
    let first : ShadowQuicPacket := ⟨[], ⟨"a", 1, by decide⟩⟩
    let refused : ShadowQuicPacket := ⟨[], ⟨"é", 1, by decide⟩⟩
    let second : ShadowQuicPacket := ⟨[], ⟨"b", 1, by decide⟩⟩
    ∃ final, Transition.run sendStep .initial ([.associate .datagram] ++
        [.start 0 first (.ok ()), .flowControl 0 7, .proceed 0 (.ok ())] ++
        List.replicate 65535 (.start 0 refused (.ok ())) ++
        [.start 0 second (.ok ()), .flowControl 0 7, .proceed 0 (.ok ())]) = some final ∧
      ¬ final.UniqueIds := by
  intro first refused second
  have opened : Transition.run sendStep .initial [.associate .datagram] =
      some ⟨0, [.fresh .datagram], [], [], [], []⟩ := rfl
  have start : Sender.connections ⟨0, [.fresh .datagram], [], [], [], []⟩ = [.fresh .datagram] := rfl
  have one : encodeAddress first.destination = .ok [3, 1, 97, 0, 1] := by decide
  have none : encodeAddress refused.destination = .error .invalidAddress := by decide
  have two : encodeAddress second.destination = .ok [3, 1, 98, 0, 1] := by decide
  obtain ⟨state₁, connection₁, run₁, allocated₁, found₁, ready₁, contexts₁⟩ := run_enter first
    (congrArg (·[0]?) start) ⟨rfl, rfl, rfl, rfl, rfl⟩ rfl one
  obtain ⟨state₂, run₂, connections₂, allocated₂⟩ := run_burn refused found₁ ready₁
    (by rw [contexts₁]; decide) none 65535
  obtain ⟨state₃, connection₃, run₃, _, found₃, ready₃, contexts₃⟩ := run_enter second
    (connections₂ ▸ found₁) ready₁ (by rw [contexts₁]; decide) two
  have whole := Transition.run_trans (Transition.run_trans (Transition.run_trans opened run₁) run₂) run₃
  have number : state₂.allocated = 65536 := by rw [allocated₂, allocated₁]
  have old : state₃.lookup 0 first.destination = some (.datagram 0) := by
    rw [Sender.lookup_here found₃, if_pos ready₃.live, contexts₃, contexts₁]
    rfl
  have new : state₃.lookup 0 second.destination = some (.datagram 65536) := by
    rw [Sender.lookup_here found₃, if_pos ready₃.live, contexts₃, number]
    rfl
  refine ⟨state₃, whole, fun unique => ?_⟩
  exact absurd (unique _ _ _ _ _ _ old new (by decide)).2 (by decide)

end SingQuic.ShadowQuic
