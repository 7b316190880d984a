import SingQuic.ShadowQuic.Send

/-! The steps of the sending half as rules, one for each way a step can go, with
everything it requires and the whole state it leads to. What is proved about a step
is proved from its rule. -/
namespace SingQuic.ShadowQuic
open Wire

namespace Sender

/-- The start of a context. The draw is never taken back. -/
inductive Announcement (self : Sender) (association : Nat) (connection : PacketConnection) (call : Nat)
    (destination : Address) : Sender → Prop where
  | unencodable (error : Error) (encoded : encodeAddress destination = .error error) :
      Announcement self association connection call destination
        ({ self with allocated := self.allocated + 1 }.finish association connection call (.error error))
  | broken (address : Bytes) (text : String) (encoded : encodeAddress destination = .ok address)
      (failed : connection.control.broken = some text) :
      Announcement self association connection call destination
        ({ self with allocated := self.allocated + 1 }.finish association connection call
          (.error (.write text)))
  | written (address : Bytes) (encoded : encodeAddress destination = .ok address)
      (healthy : connection.control.broken = none) :
      Announcement self association connection call destination
        ({ self with allocated := self.allocated + 1 }.setConnection association { connection with
          control := connection.control.writeAll (encodeRecord address (wireId self.allocated))
          records := connection.records ++ [(destination, self.allocated)]
          progress := .control call self.allocated })

/-- The second half of `send`. -/
inductive Transmission (self : Sender) (association : Nat) (connection : PacketConnection) (call : Nat)
    (data : Bytes) : Except String Unit → OutgoingUdpContext → Sender → Prop where
  | rejected (number : Nat) (text : String) :
      Transmission self association connection call data (.error text) (.datagram number)
        (self.finish association connection call (.error (.protocol text)))
  | sent (number : Nat) :
      Transmission self association connection call data (.ok ()) (.datagram number)
        ((self.sendDatagram association call number data).finish association connection call (.ok ()))
  | oversized (answer : Except String Unit) (number stream : Nat) (large : maxStreamPacket < data.length) :
      Transmission self association connection call data answer (.stream number stream)
        (self.finish association connection call
          (.error (.protocol "ShadowQuic UDP packet exceeds 65535 bytes")))
  | broken (answer : Except String Unit) (number stream : Nat) (uni : UniStream) (text : String)
      (here : self.unis[stream]? = some uni) (failed : uni.stream.broken = some text) :
      Transmission self association connection call data answer (.stream number stream)
        (self.finish association connection call (.error (.write text)))
  | writing (answer : Except String Unit) (number stream : Nat) (uni : UniStream)
      (small : data.length ≤ maxStreamPacket) (here : self.unis[stream]? = some uni)
      (healthy : uni.stream.broken = none) :
      Transmission self association connection call data answer (.stream number stream)
        (self.writePacket association connection call stream uni data)

inductive Rule (self : Sender) : SendAction → Sender → Prop where
  | associated (mode : UdpMode) :
      Rule self (.associate mode) { self with connections := self.connections ++ [.fresh mode] }
  | announced (association : Nat) (packet : ShadowQuicPacket) (answer : Except String Unit)
      (connection : PacketConnection) (next : Sender)
      (found : self.connections[association]? = some connection) (live : connection.live = true)
      (idle : connection.progress = .idle)
      (missing : connection.contexts packet.destination = none)
      (announced : Announcement { self with calls := self.calls ++ [⟨association, packet⟩] } association
        connection self.calls.length packet.destination next) :
      Rule self (.start association packet answer) next
  | resumed (association : Nat) (packet : ShadowQuicPacket) (answer : Except String Unit)
      (connection : PacketConnection) (context : OutgoingUdpContext) (next : Sender)
      (found : self.connections[association]? = some connection) (live : connection.live = true)
      (idle : connection.progress = .idle)
      (known : connection.contexts packet.destination = some context)
      (transmitted : Transmission { self with calls := self.calls ++ [⟨association, packet⟩] } association
        connection self.calls.length packet.data answer context next) :
      Rule self (.start association packet answer) next
  | flushed (association : Nat) (answer : Except String Unit) (connection : PacketConnection)
      (call number : Nat) (found : self.connections[association]? = some connection)
      (stage : connection.progress = .control call number)
      (drained : connection.control.pending = []) (mode : connection.mode = .stream) :
      Rule self (.proceed association answer)
        (self.setConnection association { connection with progress := .opening call number })
  | refused (association : Nat) (text : String) (connection : PacketConnection) (call number : Nat)
      (found : self.connections[association]? = some connection)
      (stage : connection.progress = .opening call number) :
      Rule self (.proceed association (.error text))
        (self.finish association connection call (.error (.connection text)))
  | opened (association : Nat) (connection : PacketConnection) (call number : Nat)
      (found : self.connections[association]? = some connection)
      (stage : connection.progress = .opening call number) :
      Rule self (.proceed association (.ok ())) (self.openUni association connection call number)
  /-- A new context is entered once its record, and the id on its stream, are written. -/
  | entered (association : Nat) (answer : Except String Unit) (connection : PacketConnection)
      (call : Nat) (sent : SendCall) (context : OutgoingUdpContext) (next : Sender)
      (found : self.connections[association]? = some connection)
      (stage : connection.progress = .control call context.number ∧
          connection.control.pending = [] ∧ connection.mode = .datagram ∧
          context = .datagram context.number ∨
        ∃ stream uni, connection.progress = .header call context.number stream ∧
          self.unis[stream]? = some uni ∧ uni.stream.pending = [] ∧
          context = .stream context.number stream)
      (called : self.calls[call]? = some sent)
      (transmitted : Transmission self association { connection with
        contexts := Function.update connection.contexts sent.packet.destination (some context) }
        call sent.packet.data answer context next) :
      Rule self (.proceed association answer) next
  | completed (association : Nat) (answer : Except String Unit) (connection : PacketConnection)
      (call stream : Nat) (uni : UniStream)
      (found : self.connections[association]? = some connection)
      (stage : connection.progress = .payload call stream) (here : self.unis[stream]? = some uni)
      (drained : uni.stream.pending = []) :
      Rule self (.proceed association answer) (self.finish association connection call (.ok ()))
  | controlFlowed (association count : Nat) (connection : PacketConnection)
      (found : self.connections[association]? = some connection)
      (healthy : connection.control.broken = none) :
      Rule self (.flowControl association count) (self.setConnection association { connection with
        control := connection.control.flow count })
  | uniFlowed (stream count : Nat) (uni : UniStream) (here : self.unis[stream]? = some uni)
      (healthy : uni.stream.broken = none) :
      Rule self (.flowUni stream count) { self with
        unis := self.unis.set stream { uni with stream := uni.stream.flow count } }
  | controlFailed (association : Nat) (text : String) (connection : PacketConnection)
      (call number : Nat) (found : self.connections[association]? = some connection)
      (stage : connection.progress = .control call number)
      (unfinished : connection.control.pending ≠ []) :
      Rule self (.fail association text) (self.finish association { connection with
        control := connection.control.fail text } call (.error (.write text)))
  | uniFailed (association : Nat) (text : String) (connection : PacketConnection) (call stream : Nat)
      (uni : UniStream) (found : self.connections[association]? = some connection)
      (stage : (∃ number, connection.progress = .header call number stream) ∨
        connection.progress = .payload call stream)
      (here : self.unis[stream]? = some uni) (unfinished : uni.stream.pending ≠ []) :
      Rule self (.fail association text)
        ((self.failUni stream uni text).finish association connection call (.error (.write text)))
  | closed (association : Nat) (connection : PacketConnection)
      (found : self.connections[association]? = some connection) (idle : connection.progress = .idle) :
      Rule self (.close association) (self.setConnection association { connection with live := false })

variable {self next : Sender} {association call : Nat} {connection : PacketConnection}

theorem Transmission.allocated {data : Bytes} {answer : Except String Unit} {context : OutgoingUdpContext}
    (transmitted : Transmission self association connection call data answer context next) :
    next.allocated = self.allocated := by
  cases transmitted <;> rfl

theorem Announcement.allocated {destination : Address}
    (announced : Announcement self association connection call destination next) :
    next.allocated = self.allocated + 1 := by
  cases announced <;> rfl

theorem announce_rule (self : Sender) (association : Nat) (connection : PacketConnection) (call : Nat)
    (destination : Address) : Announcement self association connection call destination
      (self.announce association connection call destination) := by
  unfold announce
  dsimp only
  split
  · rename_i error encoded
    exact .unencodable error encoded
  · rename_i address encoded
    split
    · rename_i text failed
      exact .broken address text encoded failed
    · rename_i healthy
      exact .written address encoded healthy

theorem transmit_rule {data : Bytes} {answer : Except String Unit} {context : OutgoingUdpContext}
    (stepped : self.transmit association connection call data answer context = some next) :
    Transmission self association connection call data answer context next := by
  cases context with
  | datagram number =>
    cases answer with
    | error text => exact Option.some.inj stepped ▸ .rejected number text
    | ok => exact Option.some.inj stepped ▸ .sent number
  | stream number stream =>
    simp only [transmit] at stepped
    split at stepped
    · rename_i large
      exact Option.some.inj stepped ▸ .oversized answer number stream large
    · rename_i small
      obtain ⟨uni, here, rfl⟩ := Option.map_eq_some_iff.mp stepped
      split
      · rename_i text failed
        exact .broken answer number stream uni text here failed
      · rename_i healthy
        exact .writing answer number stream uni (Nat.le_of_not_lt small) here healthy

theorem proceed_rule {answer : Except String Unit}
    (found : self.connections[association]? = some connection)
    (stepped : self.proceed association connection answer = some next) :
    Rule self (.proceed association answer) next := by
  unfold proceed at stepped
  split at stepped
  · contradiction
  · rename_i call number stage
    split at stepped
    · contradiction
    · rename_i drained
      rw [ne_eq, not_not] at drained
      split at stepped
      · rename_i mode
        exact Option.some.inj stepped ▸
          .flushed association answer connection call number found stage drained mode
      · rename_i mode
        obtain ⟨sent, called, inserted⟩ := Option.bind_eq_some_iff.mp stepped
        exact .entered association answer connection call sent (.datagram number) next found
          (Or.inl ⟨stage, drained, mode, rfl⟩) called (transmit_rule inserted)
  · rename_i call number stage
    split at stepped
    · rename_i text
      exact Option.some.inj stepped ▸ .refused association text connection call number found stage
    · exact Option.some.inj stepped ▸ .opened association connection call number found stage
  · rename_i call number stream stage
    obtain ⟨uni, here, rest⟩ := Option.bind_eq_some_iff.mp stepped
    split at rest
    · contradiction
    · rename_i drained
      rw [ne_eq, not_not] at drained
      obtain ⟨sent, called, inserted⟩ := Option.bind_eq_some_iff.mp rest
      exact .entered association answer connection call sent (.stream number stream) next found
        (Or.inr ⟨stream, uni, stage, here, drained, rfl⟩) called (transmit_rule inserted)
  · rename_i call stream stage
    obtain ⟨uni, here, rest⟩ := Option.bind_eq_some_iff.mp stepped
    split at rest
    · contradiction
    · rename_i drained
      rw [ne_eq, not_not] at drained
      exact Option.some.inj rest ▸
        .completed association answer connection call stream uni found stage here drained

theorem failWrite_rule {text : String} (found : self.connections[association]? = some connection)
    (stepped : self.failWrite association connection text = some next) :
    Rule self (.fail association text) next := by
  unfold failWrite at stepped
  -- both writes to a unidirectional stream fail alike
  have uni : ∀ {call stream : Nat}, ((∃ number, connection.progress = .header call number stream) ∨
        connection.progress = .payload call stream) →
      ((self.unis[stream]?).bind fun uni => if uni.stream.pending = [] then none else
        some ((self.failUni stream uni text).finish association connection call
          (.error (.write text)))) = some next → Rule self (.fail association text) next := by
    intro call stream stage failed
    obtain ⟨uni, here, rest⟩ := Option.bind_eq_some_iff.mp failed
    split at rest
    · contradiction
    · rename_i unfinished
      exact Option.some.inj rest ▸
        .uniFailed association text connection call stream uni found stage here unfinished
  split at stepped
  · rename_i call number stage
    split at stepped
    · contradiction
    · rename_i unfinished
      exact Option.some.inj stepped ▸
        .controlFailed association text connection call number found stage unfinished
  · rename_i call number stream stage
    exact uni (Or.inl ⟨number, stage⟩) stepped
  · rename_i call stream stage
    exact uni (Or.inr stage) stepped
  · contradiction
  · contradiction

end Sender

/-- Every step follows a rule. -/
theorem sendStep_rule {self next : Sender} {action : SendAction}
    (stepped : sendStep self action = some next) : Sender.Rule self action next := by
  cases action with
  | associate mode => exact Option.some.inj stepped ▸ .associated mode
  | start association packet answer =>
    obtain ⟨connection, found, begun⟩ := Option.bind_eq_some_iff.mp stepped
    split at begun
    · rename_i ready
      unfold Sender.start at begun
      dsimp only at begun
      split at begun
      · rename_i context known
        exact .resumed association packet answer connection context next found ready.1 ready.2 known
          (Sender.transmit_rule begun)
      · rename_i missing
        exact .announced association packet answer connection next found ready.1 ready.2 missing
          (Option.some.inj begun ▸ Sender.announce_rule _ _ _ _ _)
    · contradiction
  | proceed association answer =>
    obtain ⟨connection, found, moved⟩ := Option.bind_eq_some_iff.mp stepped
    exact Sender.proceed_rule found moved
  | flowControl association count =>
    obtain ⟨connection, found, moved⟩ := Option.bind_eq_some_iff.mp stepped
    split at moved
    · contradiction
    · rename_i healthy
      exact Option.some.inj moved ▸ .controlFlowed association count connection found
        (Option.not_isSome_iff_eq_none.mp healthy)
  | flowUni stream count =>
    obtain ⟨uni, here, moved⟩ := Option.bind_eq_some_iff.mp stepped
    split at moved
    · contradiction
    · rename_i healthy
      exact Option.some.inj moved ▸ .uniFlowed stream count uni here
        (Option.not_isSome_iff_eq_none.mp healthy)
  | fail association text =>
    obtain ⟨connection, found, failed⟩ := Option.bind_eq_some_iff.mp stepped
    exact Sender.failWrite_rule found failed
  | close association =>
    obtain ⟨connection, found, closed⟩ := Option.bind_eq_some_iff.mp stepped
    split at closed
    · rename_i idle
      exact Option.some.inj closed ▸ .closed association connection found idle
    · contradiction

end SingQuic.ShadowQuic
