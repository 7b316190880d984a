import SingQuic.Hysteria2.Packet
import SingQuic.Lib.Slots

/-! The reassembly table of one Hysteria2 UDP session. `none` as the outcome of
a call stands for a panic, from an index out of range or a failed `expect`. -/
namespace SingQuic.Hysteria2
open Wire Slots

/-- Nanoseconds of the monotonic clock. -/
abbrev Instant := Nat

def fragmentLifetime : Nat := 10 * 10 ^ 9

structure FragmentSet where
  updatedAt : Instant
  destination : Address
  parts : List (Option Bytes)
  received : Nat
  deriving DecidableEq, Repr

structure Defragger where
  fragments : UInt16 → Option FragmentSet

abbrev Outcome := Result (Option Hysteria2Packet)

namespace FragmentSet

def fresh (now : Instant) (message : UdpMessage) : FragmentSet :=
  ⟨now, message.destination, List.replicate message.fragmentTotal.toNat none, 0⟩

def alive (now : Instant) (fragment : FragmentSet) : Bool :=
  decide (now - fragment.updatedAt ≤ fragmentLifetime)

/-- Store the data unless the slot is taken; a missing slot is a panic. -/
def store (now : Instant) (message : UdpMessage) (fragment : FragmentSet) : Option FragmentSet :=
  match fragment.parts[message.fragmentId.toNat]? with
  | none => none
  | some (some _) => some { fragment with updatedAt := now }
  | some none => some { fragment with
      updatedAt := now
      parts := fragment.parts.set message.fragmentId.toNat (some message.data)
      received := fragment.received + 1 }

/-- Concatenate the parts of a complete set. -/
def assemble (fragment : FragmentSet) : Option Outcome :=
  (collect fragment.parts).map fun parts =>
    if maxUdpSize < (parts.map List.length).sum then
      .error (.protocol "Hysteria2 reassembled UDP packet exceeds 4096 bytes")
    else .ok (some ⟨parts.flatten, fragment.destination⟩)

/-- What a fragment does to the entry of its own packet id. -/
def accept (now : Instant) (message : UdpMessage) (entry : Option FragmentSet) :
    Option (Outcome × Option FragmentSet) :=
  let fragment := entry.getD (fresh now message)
  let fragment :=
    if fragment.parts.length ≠ message.fragmentTotal.toNat then fresh now message else fragment
  match fragment.store now message with
  | none => none
  | some fragment =>
    if fragment.received ≠ message.fragmentTotal.toNat then some (.ok none, some fragment)
    else fragment.assemble.map fun outcome => (outcome, none)

end FragmentSet

namespace Defragger

def default : Defragger := ⟨fun _ => none⟩

def retain (self : Defragger) (now : Instant) : UInt16 → Option FragmentSet :=
  fun id => (self.fragments id).filter (FragmentSet.alive now)

def feed (self : Defragger) (now : Instant) (message : UdpMessage) : Option (Outcome × Defragger) :=
  if message.fragmentTotal ≤ 1 then
    some (.ok (some ⟨message.data, message.destination⟩), self)
  else if message.fragmentTotal ≤ message.fragmentId then
    some (.ok none, self)
  else
    let fragments := self.retain now
    (FragmentSet.accept now message (fragments message.packetId)).map fun (outcome, entry) =>
      (outcome, ⟨Function.update fragments message.packetId entry⟩)

/-- The calls of a whole history, with the clock reading of each. -/
def feedAll : Defragger → List (Instant × UdpMessage) → Option (List Outcome × Defragger)
  | self, [] => some ([], self)
  | self, (now, message) :: rest =>
    (self.feed now message).bind fun (outcome, next) =>
      (feedAll next rest).map fun (outcomes, final) => (outcome :: outcomes, final)

end Defragger

/-- The messages that reach the table at all. -/
def UdpMessage.Fragment (message : UdpMessage) : Prop :=
  1 < message.fragmentTotal ∧ message.fragmentId < message.fragmentTotal

instance (message : UdpMessage) : Decidable message.Fragment := inferInstanceAs (Decidable (_ ∧ _))

/-- A stored set counts its filled slots and still lacks one. -/
structure FragmentSet.Valid (fragment : FragmentSet) : Prop where
  two : 2 ≤ fragment.parts.length
  few : fragment.parts.length ≤ 255
  counted : fragment.received = filled fragment.parts
  lacking : fragment.received < fragment.parts.length

def Defragger.WellFormed (self : Defragger) : Prop :=
  ∀ id fragment, self.fragments id = some fragment → fragment.Valid

namespace FragmentSet
variable {now : Instant} {message : UdpMessage} {fragment : FragmentSet} {entry : Option FragmentSet}

theorem fresh_valid (now : Instant) (wide : 1 < message.fragmentTotal) : (fresh now message).Valid := by
  have bound := message.fragmentTotal.toNat_lt
  have wide := UInt8.lt_iff_toNat_lt.mp wide
  have one : (1 : UInt8).toNat = 1 := rfl
  refine ⟨by simp [fresh]; omega, by simp [fresh]; omega, ?_, by simp [fresh]; omega⟩
  simp [fresh, filled, List.countP_replicate]

/-- The set `accept` stores into: the old entry if its width fits, else a new one. -/
def target (now : Instant) (message : UdpMessage) (entry : Option FragmentSet) : FragmentSet :=
  if (entry.getD (fresh now message)).parts.length ≠ message.fragmentTotal.toNat then
    fresh now message
  else entry.getD (fresh now message)

theorem target_width (now : Instant) (message : UdpMessage) (entry : Option FragmentSet) :
    (target now message entry).parts.length = message.fragmentTotal.toNat := by
  unfold target
  split
  · simp [fresh]
  · rename_i same
    simpa using same

theorem target_valid (now : Instant) (wide : 1 < message.fragmentTotal)
    (valid : ∀ fragment, entry = some fragment → fragment.Valid) : (target now message entry).Valid := by
  unfold target
  split
  · exact fresh_valid now wide
  · cases entry with
    | none => exact fresh_valid now wide
    | some fragment => exact valid fragment rfl

theorem accept_eq (entry : Option FragmentSet) : accept now message entry =
    ((target now message entry).store now message).bind fun fragment =>
      if fragment.received ≠ message.fragmentTotal.toNat then some (.ok none, some fragment)
      else fragment.assemble.map fun outcome => (outcome, none) := by
  unfold accept target
  dsimp only
  split <;> simp_all

/-- Storing keeps the count right and never misses the slot. -/
theorem store_valid (now : Instant) (valid : fragment.Valid)
    (index : message.fragmentId.toNat < fragment.parts.length) :
    ∃ after, fragment.store now message = some after ∧ after.parts.length = fragment.parts.length ∧
      after.received = filled after.parts := by
  unfold store
  rw [List.getElem?_eq_getElem index]
  cases slot : fragment.parts[message.fragmentId.toNat] with
  | some data => exact ⟨_, rfl, rfl, valid.counted⟩
  | none =>
    have vacant : fragment.parts[message.fragmentId.toNat]? = some none := by
      rw [List.getElem?_eq_getElem index, slot]
    refine ⟨_, rfl, by simp, ?_⟩
    rw [filled_set vacant, valid.counted]

/-- On a valid entry, or none, `accept` does not panic and leaves a valid entry. -/
theorem accept_valid (now : Instant) (fits : message.Fragment)
    (valid : ∀ fragment, entry = some fragment → fragment.Valid) :
    ∃ outcome after, accept now message entry = some (outcome, after) ∧
      ∀ fragment, after = some fragment → fragment.Valid := by
  have old := target_valid now fits.1 valid
  have width := target_width now message entry
  have index : message.fragmentId.toNat < (target now message entry).parts.length := by
    rw [width]
    exact UInt8.lt_iff_toNat_lt.mp fits.2
  obtain ⟨after, stored, size, count⟩ := store_valid now old index
  rw [accept_eq, stored, Option.bind_some]
  by_cases complete : after.received = message.fragmentTotal.toNat
  · have all : filled after.parts = after.parts.length := by rw [← count, complete, size, width]
    obtain ⟨values, same⟩ := exists_of_filled all
    rw [if_neg (by simpa using complete), assemble, same, collect_map]
    exact ⟨_, none, rfl, by simp⟩
  · rw [if_pos complete]
    refine ⟨_, some after, rfl, ?_⟩
    rintro fragment ⟨⟩
    have most := filled_le after.parts
    exact ⟨by rw [size]; exact old.two, by rw [size]; exact old.few, count, by omega⟩

/-- The set that holds exactly the seen parts of one packet. -/
def partialOf (updatedAt : Instant) (destination : Address) (parts : List Bytes)
    (seen : Finset Nat) : FragmentSet :=
  ⟨updatedAt, destination, masked parts seen, filled (masked parts seen)⟩

/-- The entry holds the seen parts of one packet; none at all is no entry. -/
def Holds (destination : Address) (parts : List Bytes) (seen : Finset Nat)
    (entry : Option FragmentSet) : Prop :=
  (entry = none ∧ seen = ∅) ∨ ∃ updatedAt, entry = some (partialOf updatedAt destination parts seen)

variable {destination : Address} {parts : List Bytes} {seen : Finset Nat}

theorem fresh_eq_partialOf (width : message.fragmentTotal.toNat = parts.length) :
    fresh now message = partialOf now message.destination parts ∅ := by
  simp [fresh, partialOf, masked_empty, width, filled, List.countP_replicate]

theorem target_partialOf (now : Instant) (width : message.fragmentTotal.toNat = parts.length)
    (holds : Holds message.destination parts seen entry) :
    ∃ updatedAt, target now message entry = partialOf updatedAt message.destination parts seen := by
  unfold target
  rcases holds with ⟨rfl, rfl⟩ | ⟨updatedAt, rfl⟩
  · exact ⟨now, by simp [fresh_eq_partialOf width]⟩
  · exact ⟨updatedAt, by simp [partialOf, width]⟩

theorem store_partialOf {updatedAt : Instant}
    (part : parts[message.fragmentId.toNat]? = some message.data) :
    (partialOf updatedAt destination parts seen).store now message =
      some (partialOf now destination parts (insert message.fragmentId.toNat seen)) := by
  have slot : (masked parts seen)[message.fragmentId.toNat]? =
      some (if message.fragmentId.toNat ∈ seen then some message.data else none) := by
    rw [getElem?_masked, part, Option.map_some]
  unfold store
  by_cases present : message.fragmentId.toNat ∈ seen
  · rw [if_pos present] at slot
    simp only [partialOf, slot, masked_insert_of_mem present]
  · rw [if_neg present] at slot
    simp only [partialOf, slot, ← masked_set part, filled_set slot]

/-- One more part of a packet: the packet itself if no part is missing any more,
otherwise an entry with that part added. -/
theorem accept_holds (width : message.fragmentTotal.toNat = parts.length)
    (part : parts[message.fragmentId.toNat]? = some message.data)
    (small : parts.flatten.length ≤ maxUdpSize)
    (holds : Holds message.destination parts seen entry) :
    accept now message entry = some
      (if ∀ index < parts.length, index ∈ insert message.fragmentId.toNat seen then
        (.ok (some ⟨parts.flatten, message.destination⟩), none)
      else (.ok none,
        some (partialOf now message.destination parts (insert message.fragmentId.toNat seen)))) := by
  obtain ⟨updatedAt, old⟩ := target_partialOf now width holds
  rw [accept_eq, old, store_partialOf part, Option.bind_some, width]
  by_cases all : ∀ index < parts.length, index ∈ insert message.fragmentId.toNat seen
  · have full := filled_masked_iff.mpr all
    have length : (parts.map List.length).sum = parts.flatten.length := by simp
    rw [if_pos all, if_neg (by simpa [partialOf] using full), assemble]
    simp only [partialOf, collect_masked all, Option.map_some, length]
    rw [if_neg (by omega)]
  · have lacking : filled (masked parts (insert message.fragmentId.toNat seen)) ≠ parts.length :=
      fun full => all (filled_masked_iff.mp full)
    rw [if_neg all, if_pos (by simpa [partialOf] using lacking)]

end FragmentSet

namespace Defragger
variable {self : Defragger} {now : Instant} {message : UdpMessage}

theorem default_wellFormed : default.WellFormed := by
  intro id fragment found
  contradiction

theorem retain_eq_some {id : UInt16} {fragment : FragmentSet} :
    self.retain now id = some fragment ↔
      self.fragments id = some fragment ∧ fragment.alive now = true := by
  simp [retain, Option.filter_eq_some_iff]

theorem feed_fragment (fits : message.Fragment) : self.feed now message =
    (FragmentSet.accept now message (self.retain now message.packetId)).map fun (outcome, entry) =>
      (outcome, ⟨Function.update (self.retain now) message.packetId entry⟩) := by
  rw [feed, if_neg (UInt8.not_le.mpr fits.1), if_neg (UInt8.not_le.mpr fits.2)]

/-- A message that is no fragment leaves the whole table as it was. -/
theorem feed_other (self : Defragger) (now : Instant) (whole : ¬ message.Fragment) : ∃ outcome, self.feed now message =
    some (outcome, self) ∧ outcome =
      if message.fragmentTotal ≤ 1 then .ok (some ⟨message.data, message.destination⟩) else .ok none := by
  unfold feed
  by_cases single : message.fragmentTotal ≤ 1
  · exact ⟨_, by rw [if_pos single], by rw [if_pos single]⟩
  · have outside : message.fragmentTotal ≤ message.fragmentId := by
      by_contra inside
      exact whole ⟨UInt8.not_le.mp single, UInt8.not_le.mp inside⟩
    exact ⟨_, by rw [if_neg single, if_pos outside], by rw [if_neg single]⟩

/-- No call panics on a well-formed table, and every call leaves one. -/
theorem feed_wellFormed (now : Instant) (message : UdpMessage) (valid : self.WellFormed) :
    ∃ outcome next, self.feed now message = some (outcome, next) ∧ next.WellFormed := by
  by_cases fits : message.Fragment
  · have kept : ∀ fragment, self.retain now message.packetId = some fragment → fragment.Valid :=
      fun fragment found => valid _ _ (retain_eq_some.mp found).1
    obtain ⟨outcome, entry, accepted, after⟩ := FragmentSet.accept_valid now fits kept
    refine ⟨outcome, ⟨Function.update (self.retain now) message.packetId entry⟩, ?_, ?_⟩
    · rw [feed_fragment fits, accepted, Option.map_some]
    · intro id fragment found
      by_cases same : id = message.packetId
      · subst id
        exact after fragment (by simpa using found)
      · dsimp only at found
        rw [Function.update_of_ne same] at found
        exact valid _ _ (retain_eq_some.mp found).1
  · obtain ⟨outcome, fed, _⟩ := feed_other self now fits
    exact ⟨outcome, self, fed, valid⟩

end Defragger
end SingQuic.Hysteria2
