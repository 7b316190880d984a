import SingQuic.Hysteria2.Reassembly

/-! How large a packet the reassembly table can return. A reassembled packet is measured
before it is returned; a packet that arrives in one message is not. -/
namespace SingQuic.Hysteria2
open Wire Slots

/-- The call returned no packet, or one within the payload limit. -/
def Outcome.Within (outcome : Outcome) : Prop :=
  ∀ packet, outcome = .ok (some packet) → packet.data.length ≤ maxUdpSize

/-- A message that is returned as it arrived is within the payload limit. -/
def UdpMessage.Fits (message : UdpMessage) : Prop :=
  message.fragmentTotal ≤ 1 → message.data.length ≤ maxUdpSize

theorem FragmentSet.assemble_within {fragment : FragmentSet} {outcome : Outcome}
    (assembled : fragment.assemble = some outcome) : outcome.Within := by
  intro packet returned
  obtain ⟨parts, _, same⟩ := Option.map_eq_some_iff.mp assembled
  rw [returned] at same
  split at same
  · contradiction
  · rename_i small
    obtain rfl := Option.some.inj (Except.ok.inj same)
    rw [List.length_flatten]
    omega

/-- A stored fragment returns a measured packet or none. -/
theorem FragmentSet.accept_within {now : Instant} {message : UdpMessage} {entry after : Option FragmentSet}
    {outcome : Outcome} (accepted : accept now message entry = some (outcome, after)) : outcome.Within := by
  rw [accept_eq] at accepted
  obtain ⟨fragment, _, rest⟩ := Option.bind_eq_some_iff.mp accepted
  split at rest
  · obtain ⟨rfl, _⟩ := Prod.mk.inj (Option.some.inj rest)
    rintro packet ⟨⟩
  · obtain ⟨result, assembled, same⟩ := Option.map_eq_some_iff.mp rest
    obtain ⟨rfl, _⟩ := Prod.mk.inj same
    exact assemble_within assembled

namespace Defragger
variable {self next : Defragger} {now : Instant} {message : UdpMessage} {history : History}

/-- One call keeps the limit exactly if its message does. -/
theorem feed_within_iff {outcome : Outcome} (fed : self.feed now message = some (outcome, next)) :
    outcome.Within ↔ message.Fits := by
  by_cases fits : message.Fragment
  · have several : ¬ message.fragmentTotal ≤ 1 := UInt8.not_le.mpr fits.1
    rw [feed_fragment fits] at fed
    obtain ⟨⟨result, entry⟩, accepted, same⟩ := Option.map_eq_some_iff.mp fed
    obtain ⟨rfl, _⟩ := Prod.mk.inj same
    exact iff_of_true (FragmentSet.accept_within accepted) fun single => absurd single several
  · obtain ⟨result, answered, value⟩ := feed_other self now fits
    obtain ⟨rfl, _⟩ := Prod.mk.inj (Option.some.inj (fed.symm.trans answered))
    subst value
    split
    · rename_i single
      constructor
      · intro within _
        exact within _ rfl
      · rintro measured packet ⟨⟩
        exact measured single
    · rename_i several
      refine iff_of_true ?_ fun single => absurd single several
      rintro packet ⟨⟩

theorem feedAll_within_iff {outcomes : List Outcome} {final : Defragger}
    (fed : self.feedAll history = some (outcomes, final)) :
    (∀ outcome ∈ outcomes, outcome.Within) ↔ ∀ event ∈ history, event.2.Fits := by
  induction history generalizing self outcomes with
  | nil =>
    obtain ⟨rfl, _⟩ := Prod.mk.inj (Option.some.inj fed)
    simp
  | cons event rest ih =>
    obtain ⟨now, message⟩ := event
    obtain ⟨⟨outcome, next⟩, first, later⟩ := Option.bind_eq_some_iff.mp fed
    obtain ⟨⟨others, last⟩, read, same⟩ := Option.map_eq_some_iff.mp later
    obtain ⟨rfl, rfl⟩ := Prod.mk.inj same
    rw [List.forall_mem_cons, List.forall_mem_cons, ih read, feed_within_iff first]

/-- Every history of calls on a new table is answered, and every packet it returns is
within the limit exactly if every message that arrived unfragmented is. -/
theorem returned_within_limit_iff (history : History) : ∃ outcomes final,
    default.feedAll history = some (outcomes, final) ∧
      ((∀ packet, .ok (some packet) ∈ outcomes → packet.data.length ≤ 4096) ↔
        ∀ event ∈ history, event.2.fragmentTotal ≤ 1 → event.2.data.length ≤ 4096) := by
  obtain ⟨outcomes, final, fed, _⟩ := feedAll_wellFormed default_wellFormed history
  refine ⟨outcomes, final, fed, ?_⟩
  rw [show (∀ event ∈ history, event.2.fragmentTotal ≤ 1 → event.2.data.length ≤ 4096) ↔
    ∀ event ∈ history, event.2.Fits from Iff.rfl, ← feedAll_within_iff fed]
  constructor
  · rintro small outcome member packet rfl
    exact small packet member
  · intro within packet member
    exact within _ member packet rfl

end Defragger

/-- A packet in one message, of whatever size. -/
def singleMessage (data : Bytes) : UdpMessage := ⟨1, 1, 0, 1, ⟨"m", 1, by decide⟩, data⟩

theorem decodeMessage_singleMessage (data : Bytes) :
    decodeMessage (encodeMessage 1 1 0 1 "m:1" [3] data) = .ok (singleMessage data) := by
  apply decodeMessage_encodeMessage
  · decide
  · decide
  · decide
  · exact ⟨0, by decide, by decide, rfl⟩

theorem feedAll_singleMessage (data : Bytes) : Defragger.default.feedAll [(0, singleMessage data)] =
    some ([.ok (some ⟨data, (singleMessage data).destination⟩)], Defragger.default) := rfl

/-- A peer can make the table return more than the limit. -/
theorem returned_beyond_limit : ¬ ∀ (history : History) (outcomes : List Outcome) (final : Defragger),
    (∀ event ∈ history, ∃ datagram, decodeMessage datagram = .ok event.2) →
    Defragger.default.feedAll history = some (outcomes, final) →
    ∀ packet, .ok (some packet) ∈ outcomes → packet.data.length ≤ 4096 := by
  intro always
  have decoded : ∀ event ∈ [((0 : Instant), singleMessage (List.replicate 4097 0))],
      ∃ datagram, decodeMessage datagram = .ok event.2 := by
    intro event member
    obtain rfl := List.mem_singleton.mp member
    exact ⟨_, decodeMessage_singleMessage _⟩
  have small := always _ _ _ decoded (feedAll_singleMessage _) _ (List.mem_singleton_self _)
  dsimp only at small
  rw [List.length_replicate] at small
  contradiction

end SingQuic.Hysteria2
