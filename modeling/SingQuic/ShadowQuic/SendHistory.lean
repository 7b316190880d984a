import SingQuic.ShadowQuic.SendRules

/-! What the sending side has handed to the transport is never taken back: records,
written bytes, packets and datagrams are only ever added. -/
namespace SingQuic.ShadowQuic
open Wire

namespace Sender

/-- A connection whose control stream has got longer. -/
def LongerControl (connection later : PacketConnection) : Prop :=
  connection.records <+: later.records ∧ connection.control.written <+: later.control.written

/-- A unidirectional stream that has got longer. -/
def LongerUni (uni later : UniStream) : Prop :=
  later.number = uni.number ∧ uni.packets <+: later.packets ∧
    uni.stream.written <+: later.stream.written

structure Grows (sender next : Sender) : Prop where
  datagrams : sender.datagrams <+: next.datagrams
  connections : ∀ {association : Nat} {connection : PacketConnection},
    sender.connections[association]? = some connection →
    ∃ later, next.connections[association]? = some later ∧ LongerControl connection later
  unis : ∀ {stream : Nat} {uni : UniStream}, sender.unis[stream]? = some uni →
    ∃ later, next.unis[stream]? = some later ∧ LongerUni uni later

variable {self next : Sender} {association call number stream : Nat} {connection : PacketConnection}
  {uni : UniStream} {answer : Except String Unit}

theorem LongerControl.refl (connection : PacketConnection) : LongerControl connection connection :=
  ⟨List.prefix_refl _, List.prefix_refl _⟩

theorem LongerUni.refl (uni : UniStream) : LongerUni uni uni :=
  ⟨rfl, List.prefix_refl _, List.prefix_refl _⟩

theorem grows_unis_of_eq (same : next.unis = self.unis) (here : self.unis[stream]? = some uni) :
    ∃ later, next.unis[stream]? = some later ∧ LongerUni uni later :=
  ⟨uni, by rw [same, here], .refl uni⟩

theorem grows_unis_of_set {target : Nat} {old new : UniStream} (found : self.unis[target]? = some old)
    (unis : next.unis = self.unis.set target new) (longer : LongerUni old new)
    (here : self.unis[stream]? = some uni) :
    ∃ later, next.unis[stream]? = some later ∧ LongerUni uni later := by
  rw [unis]
  exact Table.set_related LongerUni.refl found longer here

theorem Grows.of_set {later : PacketConnection}
    (found : self.connections[association]? = some connection)
    (connections : next.connections = self.connections.set association later)
    (longer : LongerControl connection later) (datagrams : self.datagrams <+: next.datagrams)
    (unis : ∀ {stream : Nat} {uni : UniStream}, self.unis[stream]? = some uni →
      ∃ later, next.unis[stream]? = some later ∧ LongerUni uni later) : Grows self next := by
  refine ⟨datagrams, fun {other existing} here => ?_, unis⟩
  rw [connections]
  exact Table.set_related LongerControl.refl found longer here

theorem Transmission.grows {later : PacketConnection} {data : Bytes} {context : OutgoingUdpContext}
    (transmitted : Transmission self association later call data answer context next)
    (found : self.connections[association]? = some connection)
    (longer : LongerControl connection later) : Grows self next := by
  have finished : ∀ result, Grows self (self.finish association later call result) :=
    fun _ => Grows.of_set found rfl longer (List.prefix_refl _) (grows_unis_of_eq rfl)
  cases transmitted with
  | rejected => exact finished _
  | sent => exact Grows.of_set found rfl longer (List.prefix_append _ _) (grows_unis_of_eq rfl)
  | oversized => exact finished _
  | broken => exact finished _
  | writing answer number stream uni small here =>
    have written : (self.writePacket association later call stream uni data).unis =
        self.unis.set stream { uni with
          stream := uni.stream.writeAll (encodePacket data)
          packets := uni.packets ++ [(call, data)] } := rfl
    exact Grows.of_set found rfl longer (List.prefix_refl _)
      (grows_unis_of_set here written ⟨rfl, List.prefix_append _ _, List.prefix_refl _⟩)

theorem Announcement.grows {destination : Address}
    (announced : Announcement self association connection call destination next)
    (found : self.connections[association]? = some connection) : Grows self next := by
  cases announced with
  | unencodable =>
    exact Grows.of_set found rfl (.refl _) (List.prefix_refl _) (grows_unis_of_eq rfl)
  | broken => exact Grows.of_set found rfl (.refl _) (List.prefix_refl _) (grows_unis_of_eq rfl)
  | written =>
    exact Grows.of_set found rfl ⟨List.prefix_append _ _, List.prefix_refl _⟩ (List.prefix_refl _)
      (grows_unis_of_eq rfl)

end Sender

theorem sendStep_grows {self next : Sender} {action : SendAction}
    (stepped : sendStep self action = some next) : Sender.Grows self next := by
  -- one connection changes, with its control stream as it was
  have same : ∀ {association : Nat} {connection later : PacketConnection} {state : Sender},
      self.connections[association]? = some connection →
      state.connections = self.connections.set association later →
      Sender.LongerControl connection later → state.datagrams = self.datagrams →
      state.unis = self.unis → Sender.Grows self state :=
    fun found connections longer datagrams unis => Sender.Grows.of_set found connections longer
      (by rw [datagrams]) (Sender.grows_unis_of_eq unis)
  cases sendStep_rule stepped with
  | associated mode =>
    exact ⟨List.prefix_refl _, fun {association connection} here =>
      ⟨connection, Table.kept (List.prefix_append _ _) here, .refl _⟩, Sender.grows_unis_of_eq rfl⟩
  | announced association packet answer connection next found live idle missing announced =>
    have grows := announced.grows found
    exact ⟨grows.datagrams, grows.connections, grows.unis⟩
  | resumed association packet answer connection context next found live idle known transmitted =>
    have grows := transmitted.grows found (.refl _)
    exact ⟨grows.datagrams, grows.connections, grows.unis⟩
  | flushed association answer connection call number found => exact same found rfl (.refl _) rfl rfl
  | refused association text connection call number found => exact same found rfl (.refl _) rfl rfl
  | opened association connection call number found =>
    refine Sender.Grows.of_set found rfl (.refl _) (List.prefix_refl _) fun {stream uni} here => ?_
    exact ⟨uni, Table.kept (List.prefix_append _ _) here, .refl uni⟩
  | entered association answer connection call sent context next found stage called transmitted =>
    exact transmitted.grows found ⟨List.prefix_refl _, List.prefix_refl _⟩
  | completed association answer connection call stream uni found =>
    exact same found rfl (.refl _) rfl rfl
  | controlFlowed association count connection found =>
    exact same found rfl ⟨List.prefix_refl _, List.prefix_append _ _⟩ rfl rfl
  | uniFlowed stream count uni here =>
    have flowed : { self with unis := self.unis.set stream { uni with
        stream := uni.stream.flow count } }.unis =
        self.unis.set stream { uni with stream := uni.stream.flow count } := rfl
    exact ⟨List.prefix_refl _, fun {_ connection} found => ⟨connection, found, .refl _⟩,
      Sender.grows_unis_of_set here flowed ⟨rfl, List.prefix_refl _, List.prefix_append _ _⟩⟩
  | controlFailed association text connection call number found => exact same found rfl (.refl _) rfl rfl
  | uniFailed association text connection call stream uni found stage here =>
    have broken : ((self.failUni stream uni text).finish association connection call
        (.error (.write text))).unis = self.unis.set stream { uni with stream := uni.stream.fail text } :=
      rfl
    exact Sender.Grows.of_set found rfl (.refl _) (List.prefix_refl _)
      (Sender.grows_unis_of_set here broken ⟨rfl, List.prefix_refl _, List.prefix_refl _⟩)
  | closed association connection found => exact same found rfl (.refl _) rfl rfl

end SingQuic.ShadowQuic
