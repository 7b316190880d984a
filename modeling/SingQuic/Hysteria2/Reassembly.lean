import SingQuic.Hysteria2.Defragger
import SingQuic.Hysteria2.Frames
import Mathlib.Data.List.Chain

/-! Fragmentation followed by reassembly. One packet's fragments and everything
else in the table are independent: each call reads and writes the entry of its
own packet id, and eviction of an entry never changes what a later call sees,
because that call would have evicted it as well. -/
namespace SingQuic.Hysteria2
open Wire Slots

/-- Calls on one table, with their clock readings. -/
abbrev History := List (Instant × UdpMessage)

/-- The clock never runs backwards. -/
def History.Clocked (history : History) : Prop := (history.map Prod.fst).Pairwise (· ≤ ·)

/-- The readings at which messages of one packet id are fed. -/
def History.times (history : History) (id : UInt16) : List Instant :=
  (history.filter (·.2.packetId = id)).map Prod.fst

/-- Fragment numbers fed so far under one packet id. -/
def History.seen (history : History) (id : UInt16) : Finset Nat :=
  ((history.filter (·.2.packetId = id)).map (·.2.fragmentId.toNat)).toFinset

/-- Consecutive messages of one packet id are at most the lifetime apart. -/
def History.Prompt (history : History) (id : UInt16) : Prop :=
  (history.times id).IsChain fun earlier later => later - earlier ≤ fragmentLifetime

/-- The outcomes of the calls with other packet ids. -/
def History.outcomesExcept (history : History) (id : UInt16) (outcomes : List Outcome) : List Outcome :=
  ((history.zip outcomes).filter (·.1.2.packetId ≠ id)).map Prod.snd

/-- A message that carries one of the parts of a packet. -/
structure PartOf (id : UInt16) (destination : Address) (parts : List Bytes) (message : UdpMessage) :
    Prop where
  packetId : message.packetId = id
  destination : message.destination = destination
  total : message.fragmentTotal.toNat = parts.length
  part : parts[message.fragmentId.toNat]? = some message.data

theorem PartOf.of_mem {self : Hysteria2PacketConnection} {destination : Address} {parts : List Bytes}
    {message : UdpMessage} (few : parts.length ≤ 255)
    (member : message ∈ self.messages destination parts) :
    PartOf self.packetId destination parts message := by
  obtain ⟨index, data, here, rfl⟩ := Hysteria2PacketConnection.mem_messages.mp member
  have bound := (List.getElem?_eq_some_iff.mp here).1
  have small : (UInt8.ofNat index).toNat = index := by
    rw [UInt8.toNat_ofNat', Nat.mod_eq_of_lt (by omega)]
  refine ⟨rfl, rfl, ?_, ?_⟩
  · simp only [Hysteria2PacketConnection.fragment]
    rw [UInt8.toNat_ofNat', Nat.mod_eq_of_lt (by omega)]
  · simpa only [Hysteria2PacketConnection.fragment, small] using here

namespace Defragger
variable {self next other : Defragger} {now clock : Instant} {message : UdpMessage} {id : UInt16}
  {history : History}

theorem feedAll_concat (self : Defragger) (history : History) (now : Instant) (message : UdpMessage) :
    self.feedAll (history ++ [(now, message)]) =
      (self.feedAll history).bind fun (outcomes, middle) =>
        (middle.feed now message).map fun (outcome, next) => (outcomes ++ [outcome], next) := by
  induction history generalizing self with
  | nil =>
    simp only [List.nil_append, feedAll, Option.bind_some, Option.map_some]
    cases self.feed now message <;> rfl
  | cons event rest ih =>
    obtain ⟨time, first⟩ := event
    simp only [List.cons_append, feedAll]
    cases self.feed time first with
    | none => rfl
    | some fed =>
      simp only [Option.bind_some, ih]
      cases fed.2.feedAll rest with
      | none => rfl
      | some read => simp [Function.comp_def]

theorem feedAll_wellFormed (valid : self.WellFormed) (history : History) :
    ∃ outcomes final, self.feedAll history = some (outcomes, final) ∧ final.WellFormed := by
  induction history generalizing self with
  | nil => exact ⟨[], self, rfl, valid⟩
  | cons event rest ih =>
    obtain ⟨outcome, next, fed, after⟩ := feed_wellFormed event.1 event.2 valid
    obtain ⟨outcomes, final, read, last⟩ := ih after
    exact ⟨outcome :: outcomes, final, by simp [feedAll, fed, read], last⟩

/-- A table some history of calls on an empty one has produced. -/
def Reachable (self : Defragger) : Prop :=
  ∃ history outcomes, default.feedAll history = some (outcomes, self)

theorem Reachable.wellFormed (reachable : self.Reachable) : self.WellFormed := by
  obtain ⟨history, outcomes, read⟩ := reachable
  obtain ⟨_, final, same, valid⟩ := feedAll_wellFormed default_wellFormed history
  rw [read] at same
  obtain ⟨_, rfl⟩ := Prod.mk.inj (Option.some.inj same)
  exact valid

/-- A call touches no entry but its own, except that it may evict. -/
theorem feed_frame {outcome : Outcome} (fed : self.feed now message = some (outcome, next))
    (different : id ≠ message.packetId) :
    next.fragments id = self.fragments id ∨ next.fragments id = self.retain now id := by
  by_cases fits : message.Fragment
  · rw [feed_fragment fits, Option.map_eq_some_iff] at fed
    obtain ⟨⟨result, entry⟩, _, same⟩ := fed
    obtain ⟨_, rfl⟩ := Prod.mk.inj same
    exact Or.inr (Function.update_of_ne different _ _)
  · obtain ⟨_, same, _⟩ := feed_other self now fits
    rw [same] at fed
    obtain ⟨_, rfl⟩ := Prod.mk.inj (Option.some.inj fed)
    exact Or.inl rfl

theorem alive_antitone {fragment : FragmentSet} (later : clock ≤ now)
    (dead : fragment.alive clock = false) : fragment.alive now = false := by
  simp only [FragmentSet.alive, decide_eq_false_iff_not] at dead ⊢
  exact fun live => dead ((Nat.sub_le_sub_right later _).trans live)

/-- Two tables that differ, outside one packet id, by expired entries only. -/
def Similar (id : UInt16) (clock : Instant) (self other : Defragger) : Prop :=
  ∀ key ≠ id, self.fragments key = other.fragments key ∨
    self.fragments key = none ∧ ∃ fragment, other.fragments key = some fragment ∧
      fragment.alive clock = false

theorem Similar.retain (similar : Similar id clock self other) (later : clock ≤ now) {key : UInt16}
    (different : key ≠ id) : self.retain now key = other.retain now key := by
  unfold Defragger.retain
  rcases similar key different with same | ⟨gone, fragment, kept, dead⟩
  · rw [same]
  · rw [gone, kept]
    simp [Option.filter, alive_antitone later dead]

/-- A call of the packet id in question leaves the tables similar. -/
theorem Similar.skip {outcome : Outcome} (similar : Similar id clock self other) (later : clock ≤ now)
    (own : message.packetId = id) (fed : self.feed now message = some (outcome, next)) :
    Similar id now next other := by
  intro key different
  have stays : self.fragments key = other.fragments key ∨ self.fragments key = none ∧
      ∃ fragment, other.fragments key = some fragment ∧ fragment.alive now = false := by
    rcases similar key different with same | ⟨gone, fragment, kept, dead⟩
    · exact Or.inl same
    · exact Or.inr ⟨gone, fragment, kept, alive_antitone later dead⟩
  rcases feed_frame fed (own ▸ different) with same | swept
  · rw [same]
    exact stays
  · rw [swept]
    rcases stays with same | ⟨gone, fragment, kept, dead⟩
    · cases entry : self.fragments key with
      | none => exact Or.inl (by simp [Defragger.retain, entry, ← same])
      | some fragment =>
        by_cases fresh : fragment.alive now = true
        · exact Or.inl (by simp [Defragger.retain, entry, ← same, Option.filter, fresh])
        · refine Or.inr ⟨by simp [Defragger.retain, entry, Option.filter, fresh], fragment, ?_, ?_⟩
          · rw [← same, entry]
          · simpa using fresh
    · exact Or.inr ⟨by simp [Defragger.retain, gone], fragment, kept, dead⟩

/-- A call of any other packet id has the same outcome on similar tables. -/
theorem Similar.both (similar : Similar id clock self other) (later : clock ≤ now)
    (foreign : message.packetId ≠ id) {outcome : Outcome}
    (fed : self.feed now message = some (outcome, next)) :
    ∃ next', other.feed now message = some (outcome, next') ∧ Similar id now next next' := by
  by_cases fits : message.Fragment
  · rw [feed_fragment fits, similar.retain later foreign, Option.map_eq_some_iff] at fed
    obtain ⟨⟨result, entry⟩, accepted, same⟩ := fed
    obtain ⟨rfl, rfl⟩ := Prod.mk.inj same
    refine ⟨_, by rw [feed_fragment fits, accepted, Option.map_some], ?_⟩
    intro key different
    refine Or.inl ?_
    by_cases here : key = message.packetId
    · subst key
      simp
    · simp only [Function.update_of_ne here]
      exact similar.retain later different
  · obtain ⟨first, same, value⟩ := feed_other self now fits
    obtain ⟨second, same', value'⟩ := feed_other other now fits
    rw [same] at fed
    obtain ⟨rfl, rfl⟩ := Prod.mk.inj (Option.some.inj fed)
    refine ⟨other, by rw [same', value', value], ?_⟩
    intro key different
    rcases similar key different with equal | ⟨gone, fragment, kept, dead⟩
    · exact Or.inl equal
    · exact Or.inr ⟨gone, fragment, kept, alive_antitone later dead⟩

/-- Dropping every message of one packet id from a history changes no outcome of
the others. -/
theorem feedAll_except (clock : Instant) (valid : self.WellFormed) (valid' : other.WellFormed)
    (similar : Similar id clock self other) (clocked : (clock :: history.map Prod.fst).Pairwise (· ≤ ·)) :
    ∃ outcomes final alone final', self.feedAll history = some (outcomes, final) ∧
      other.feedAll (history.filter (·.2.packetId ≠ id)) = some (alone, final') ∧
      history.outcomesExcept id outcomes = alone := by
  induction history generalizing self other clock with
  | nil => exact ⟨[], self, [], other, rfl, rfl, rfl⟩
  | cons event rest ih =>
    obtain ⟨now, message⟩ := event
    obtain ⟨first, tail⟩ := List.pairwise_cons.mp clocked
    have later : clock ≤ now := first now (by simp)
    obtain ⟨outcome, next, fed, after⟩ := feed_wellFormed now message valid
    by_cases own : message.packetId = id
    · obtain ⟨outcomes, final, alone, final', read, read', same⟩ :=
        ih _ after valid' (similar.skip later own fed) tail
      refine ⟨outcome :: outcomes, final, alone, final', by simp [feedAll, fed, read], ?_, ?_⟩
      · simpa [own] using read'
      · simpa [History.outcomesExcept, own] using same
    · obtain ⟨next', fed', following⟩ := similar.both later own fed
      have after' : next'.WellFormed := by
        obtain ⟨_, _, again, good⟩ := feed_wellFormed now message valid'
        rw [fed'] at again
        obtain ⟨_, rfl⟩ := Prod.mk.inj (Option.some.inj again)
        exact good
      obtain ⟨outcomes, final, alone, final', read, read', same⟩ := ih _ after after' following tail
      refine ⟨outcome :: outcomes, final, outcome :: alone, final', by simp [feedAll, fed, read], ?_, ?_⟩
      · simpa [own, feedAll, fed'] using read'
      · simpa [History.outcomesExcept, own] using same

/-- How the entry of a packet develops while parts of it are missing: it holds
what was seen, unless a call later than the lifetime after its last part has
swept it away. -/
def Tracks (destination : Address) (parts : List Bytes) (id : UInt16) (history : History)
    (entry : Option FragmentSet) : Prop :=
  (history.times id = [] ∧ entry = none) ∨ ∃ last, (history.times id).getLast? = some last ∧
    (entry = some (FragmentSet.partialOf last destination parts (history.seen id)) ∨
      entry = none ∧ ∃ event ∈ history, fragmentLifetime < event.1 - last)

end Defragger

namespace History
variable {history : History} {now : Instant} {message : UdpMessage} {id : UInt16}

theorem times_concat (history : History) (now : Instant) (message : UdpMessage) (id : UInt16) :
    times (history ++ [(now, message)]) id =
    if message.packetId = id then history.times id ++ [now] else history.times id := by
  by_cases own : message.packetId = id <;> simp [times, List.filter_append, own]

theorem seen_concat (history : History) (now : Instant) (message : UdpMessage) (id : UInt16) :
    seen (history ++ [(now, message)]) id =
    if message.packetId = id then insert message.fragmentId.toNat (history.seen id)
    else history.seen id := by
  by_cases own : message.packetId = id
  · ext index
    simp [seen, List.filter_append, own]
  · simp [seen, List.filter_append, own]

theorem seen_eq_empty (none : history.times id = []) : history.seen id = ∅ := by
  simp only [times, List.map_eq_nil_iff] at none
  simp [seen, none]

theorem Clocked.concat (clocked : Clocked (history ++ [(now, message)])) :
    history.Clocked ∧ ∀ event ∈ history, event.1 ≤ now := by
  simp only [Clocked, List.map_append, List.map_cons, List.map_nil, List.pairwise_append] at clocked
  refine ⟨clocked.1, fun event member => ?_⟩
  exact clocked.2.2 event.1 (List.mem_map_of_mem member) now (by simp)

theorem Prompt.concat (prompt : Prompt (history ++ [(now, message)]) id)
    (own : message.packetId = id) :
    ∀ last, (history.times id).getLast? = some last → now - last ≤ fragmentLifetime := by
  intro last final
  rw [Prompt, times_concat, if_pos own, List.isChain_append] at prompt
  exact prompt.2.2 last final now rfl

theorem Prompt.before {rest : History} (prompt : Prompt (history ++ rest) id) : history.Prompt id := by
  simp only [Prompt, times, List.filter_append, List.map_append] at prompt
  exact (List.isChain_append.mp prompt).1

theorem Clocked.before {rest : History} (clocked : Clocked (history ++ rest)) : history.Clocked := by
  simp only [Clocked, List.map_append] at clocked
  exact (List.pairwise_append.mp clocked).1

end History

namespace Defragger
variable {self next : Defragger} {now : Instant} {message : UdpMessage} {id : UInt16}
  {history : History} {destination : Address} {parts : List Bytes} {entry : Option FragmentSet}

/-- Calls of other packet ids evict the entry at most when it is too old. -/
theorem Tracks.foreign {outcome : Outcome}
    (tracks : Tracks destination parts id history (self.fragments id))
    (foreign : message.packetId ≠ id) (fed : self.feed now message = some (outcome, next)) :
    Tracks destination parts id (history ++ [(now, message)]) (next.fragments id) := by
  have times := History.times_concat history now message id
  have seen := History.seen_concat history now message id
  rw [if_neg foreign] at times seen
  unfold Tracks
  rw [times, seen]
  rcases feed_frame fed foreign.symm with same | swept
  · rw [same]
    rcases tracks with fresh | ⟨last, final, held | ⟨gone, event, member, late⟩⟩
    · exact Or.inl fresh
    · exact Or.inr ⟨last, final, Or.inl held⟩
    · exact Or.inr ⟨last, final, Or.inr ⟨gone, event, by simp [member], late⟩⟩
  · rw [swept, retain]
    rcases tracks with ⟨unseen, gone⟩ | ⟨last, final, held | ⟨gone, event, member, late⟩⟩
    · exact Or.inl ⟨unseen, by simp [gone]⟩
    · refine Or.inr ⟨last, final, ?_⟩
      rw [held]
      by_cases live : now - last ≤ fragmentLifetime
      · exact Or.inl (by simp [Option.filter, FragmentSet.alive, FragmentSet.partialOf, live])
      · refine Or.inr ⟨by simp [Option.filter, FragmentSet.alive, FragmentSet.partialOf, live], ?_⟩
        exact ⟨(now, message), by simp, Nat.lt_of_not_le live⟩
    · exact Or.inr ⟨last, final, Or.inr ⟨by simp [gone], event, by simp [member], late⟩⟩

/-- Before the next part of a prompt packet is stored, its entry is intact. -/
theorem Tracks.holds (tracks : Tracks destination parts id history (self.fragments id))
    (clocked : History.Clocked (history ++ [(now, message)]))
    (prompt : History.Prompt (history ++ [(now, message)]) id) (own : message.packetId = id) :
    FragmentSet.Holds destination parts (history.seen id) (self.retain now id) := by
  rcases tracks with ⟨unseen, gone⟩ | ⟨last, final, held | ⟨gone, event, member, late⟩⟩
  · exact Or.inl ⟨by simp [retain, gone], History.seen_eq_empty unseen⟩
  · have live := prompt.concat own last final
    refine Or.inr ⟨last, ?_⟩
    rw [retain, held]
    simp [Option.filter, FragmentSet.alive, FragmentSet.partialOf, live]
  · have live := prompt.concat own last final
    have ordered := clocked.concat.2 event member
    exact absurd ((Nat.sub_le_sub_right ordered last).trans live) (Nat.not_le.mpr late)

/-- Every part of the packet is in the set. -/
abbrev Complete (parts : List Bytes) (seen : Finset Nat) : Prop := ∀ index < parts.length, index ∈ seen

/-- The call that feeds one more part: the packet, if that was the last part
missing, and otherwise nothing yet. An unfragmented packet bypasses the table. -/
theorem feed_part {seen : Finset Nat} (part : PartOf id destination parts message)
    (small : parts.flatten.length ≤ maxUdpSize)
    (holds : FragmentSet.Holds destination parts seen (self.retain now id)) :
    ∃ next, self.feed now message = some
        (.ok (if Complete parts (insert message.fragmentId.toNat seen) then
          some ⟨parts.flatten, destination⟩ else none), next) ∧
      (next = self ∧ Complete parts (insert message.fragmentId.toNat seen) ∨
        next.fragments = Function.update (self.retain now) id
          (if Complete parts (insert message.fragmentId.toNat seen) then none
          else some (FragmentSet.partialOf now destination parts
            (insert message.fragmentId.toNat seen)))) := by
  have present := (List.getElem?_eq_some_iff.mp part.part).1
  by_cases single : parts.length = 1
  · have narrow : message.fragmentTotal ≤ 1 := by
      rw [UInt8.le_iff_toNat_le, part.total]
      exact single.le
    have whole : ¬ message.Fragment := fun fits => UInt8.not_le.mpr fits.1 narrow
    obtain ⟨only, rfl⟩ := List.length_eq_one_iff.mp single
    have first : message.fragmentId.toNat = 0 := by simpa using present
    have all : Complete [only] (insert message.fragmentId.toNat seen) := by
      intro index bound
      have zero : index = 0 := by simpa using bound
      simp [zero, first]
    have data : message.data = only := by simpa [first] using part.part.symm
    obtain ⟨outcome, fed, value⟩ := feed_other self now whole
    refine ⟨self, ?_, Or.inl ⟨rfl, all⟩⟩
    rw [fed, value, if_pos narrow, if_pos all, data, part.destination]
    simp
  · have fits : message.Fragment := by
      refine ⟨UInt8.lt_iff_toNat_lt.mpr ?_, UInt8.lt_iff_toNat_lt.mpr (part.total ▸ present)⟩
      rw [part.total]
      show 1 < parts.length
      omega
    rw [feed_fragment fits, part.packetId]
    rw [← part.destination] at holds ⊢
    rw [FragmentSet.accept_holds part.total part.part small holds]
    by_cases all : Complete parts (insert message.fragmentId.toNat seen)
    · rw [if_pos all, if_pos all, if_pos all]
      exact ⟨_, rfl, Or.inr rfl⟩
    · rw [if_neg all, if_neg all, if_neg all]
      exact ⟨_, rfl, Or.inr rfl⟩

theorem Tracks.own (tracks : Tracks destination parts id history (self.fragments id))
    (clocked : History.Clocked (history ++ [(now, message)]))
    (prompt : History.Prompt (history ++ [(now, message)]) id)
    (part : PartOf id destination parts message) (small : parts.flatten.length ≤ maxUdpSize) :
    ∃ next, self.feed now message = some
        (.ok (if Complete parts (History.seen (history ++ [(now, message)]) id) then
          some ⟨parts.flatten, destination⟩ else none), next) ∧
      (Complete parts (History.seen (history ++ [(now, message)]) id) ∨
        Tracks destination parts id (history ++ [(now, message)]) (next.fragments id)) := by
  have holds := tracks.holds clocked prompt part.packetId
  obtain ⟨next, fed, entry⟩ := feed_part part small holds
  rw [History.seen_concat, if_pos part.packetId]
  refine ⟨next, fed, ?_⟩
  by_cases all : Complete parts (insert message.fragmentId.toNat (history.seen id))
  · exact Or.inl all
  · rw [if_neg all] at entry
    rcases entry with ⟨_, complete⟩ | stored
    · exact absurd complete all
    · refine Or.inr (Or.inr ⟨now, ?_, Or.inl ?_⟩)
      · rw [History.times_concat, if_pos part.packetId]
        simp
      · rw [History.seen_concat, if_pos part.packetId, stored]
        simp

/-- The whole run: nothing panics, and the entry is tracked until the packet is
complete. -/
theorem feedAll_tracks (valid : self.WellFormed) (absent : self.fragments id = none)
    (small : parts.flatten.length ≤ maxUdpSize) (clocked : history.Clocked)
    (prompt : history.Prompt id)
    (ours : ∀ event ∈ history, event.2.packetId = id → PartOf id destination parts event.2) :
    ∃ outcomes final, self.feedAll history = some (outcomes, final) ∧ final.WellFormed ∧
      (Complete parts (history.seen id) ∨ Tracks destination parts id history (final.fragments id)) := by
  induction history using List.reverseRecOn with
  | nil => exact ⟨[], self, rfl, valid, Or.inr (Or.inl ⟨rfl, absent⟩)⟩
  | append_singleton history event ih =>
    obtain ⟨now, message⟩ := event
    obtain ⟨outcomes, middle, read, good, progress⟩ := ih clocked.concat.1 prompt.before
      (fun event member => ours event (by simp [member]))
    obtain ⟨outcome, next, fed, after⟩ := feed_wellFormed now message good
    refine ⟨outcomes ++ [outcome], next, by rw [feedAll_concat, read]; simp [fed], after, ?_⟩
    rcases progress with complete | tracks
    · refine Or.inl fun index bound => ?_
      rw [History.seen_concat]
      split
      · exact Finset.mem_insert_of_mem (complete index bound)
      · exact complete index bound
    · by_cases own : message.packetId = id
      · obtain ⟨_, same, result⟩ := tracks.own clocked prompt (ours (now, message) (by simp) own) small
        rw [fed] at same
        obtain ⟨_, rfl⟩ := Prod.mk.inj (Option.some.inj same)
        exact result
      · exact Or.inr (tracks.foreign own fed)

end Defragger

/-- Each of the messages has been fed at least once. -/
def History.Fed (history : History) (messages : List UdpMessage) : Prop :=
  ∀ message ∈ messages, message ∈ history.map Prod.snd

instance (history : History) (messages : List UdpMessage) : Decidable (history.Fed messages) :=
  inferInstanceAs (Decidable (∀ message ∈ messages, _))

theorem History.fed_iff {history : History} {self : Hysteria2PacketConnection} {destination : Address}
    {parts : List Bytes} (few : parts.length ≤ 255)
    (ours : ∀ event ∈ history, event.2.packetId = self.packetId →
      event.2 ∈ self.messages destination parts) :
    history.Fed (self.messages destination parts) ↔
      Defragger.Complete parts (history.seen self.packetId) := by
  constructor
  · intro fed index bound
    have member : self.fragment destination parts.length (parts[index], index) ∈
        self.messages destination parts :=
      Hysteria2PacketConnection.mem_messages.mpr
        ⟨index, parts[index], List.getElem?_eq_getElem bound, rfl⟩
    obtain ⟨event, arrived, same⟩ := List.mem_map.mp (fed _ member)
    simp only [seen, List.mem_toFinset, List.mem_map, List.mem_filter, decide_eq_true_eq]
    refine ⟨event, ⟨arrived, by rw [same]; rfl⟩, ?_⟩
    rw [same]
    simp only [Hysteria2PacketConnection.fragment]
    rw [UInt8.toNat_ofNat', Nat.mod_eq_of_lt (by omega)]
  · intro complete message member
    have part := PartOf.of_mem few member
    have bound := (List.getElem?_eq_some_iff.mp part.part).1
    have found := complete _ bound
    simp only [seen, List.mem_toFinset, List.mem_map, List.mem_filter, decide_eq_true_eq] at found
    obtain ⟨event, ⟨arrived, own⟩, same⟩ := found
    refine List.mem_map.mpr ⟨event, arrived, ?_⟩
    obtain ⟨first, data, here, equal⟩ := Hysteria2PacketConnection.mem_messages.mp (ours event arrived own)
    obtain ⟨second, data', here', equal'⟩ := Hysteria2PacketConnection.mem_messages.mp member
    have bound₁ := (List.getElem?_eq_some_iff.mp here).1
    have bound₂ := (List.getElem?_eq_some_iff.mp here').1
    rw [equal, equal'] at same
    simp only [Hysteria2PacketConnection.fragment] at same
    rw [UInt8.toNat_ofNat', UInt8.toNat_ofNat', Nat.mod_eq_of_lt (by omega),
      Nat.mod_eq_of_lt (by omega)] at same
    subst second
    rw [equal, equal', Option.some.inj (here.symm.trans here')]

/-- Fragmentation is undone by reassembly. The frames of a successful send decode
to messages which, fed in any order, with repetitions and among messages of other
packet ids, yield nothing until the last missing one and the packet on that one;
and the calls of other packet ids return what they return without them. -/
theorem send_reassembles {connection after : Hysteria2PacketConnection} {transport : Transport}
    {packet : Hysteria2Packet} {frames : List Bytes} (roundTrips : packet.destination.RoundTrips)
    (sent : connection.send transport packet = (frames, .ok (), after)) :
    ∃ messages : List UdpMessage, messages ≠ [] ∧ frames.map decodeMessage = messages.map .ok ∧
      ∀ (self : Defragger) (history : History), self.Reachable →
        self.fragments connection.packetId = none → history.Clocked →
        history.Prompt connection.packetId →
        (∀ event ∈ history, event.2.packetId = connection.packetId → event.2 ∈ messages) →
        (∀ before now message rest, history = before ++ (now, message) :: rest →
          message.packetId = connection.packetId → ¬ History.Fed before messages →
          ∃ outcomes middle next, self.feedAll before = some (outcomes, middle) ∧
            middle.feed now message = some
              (.ok (if History.Fed (before ++ [(now, message)]) messages then some packet else none),
                next)) ∧
        ∃ outcomes final alone final', self.feedAll history = some (outcomes, final) ∧
          self.feedAll (history.filter (·.2.packetId ≠ connection.packetId)) = some (alone, final') ∧
          history.outcomesExcept connection.packetId outcomes = alone := by
  rcases Hysteria2PacketConnection.send_spec sent with ⟨_, failed⟩ | ⟨accepted, all, framed, _, whole⟩
  · contradiction
  obtain rfl := whole rfl
  obtain ⟨size, _⟩ := Hysteria2PacketConnection.not_refuses_iff.mp accepted
  obtain ⟨parts, positive, few, joined, decoded⟩ :=
    Hysteria2PacketConnection.frames_spec accepted roundTrips framed
  refine ⟨connection.messages packet.destination parts, ?_, decoded, ?_⟩
  · simpa [Hysteria2PacketConnection.messages, ← List.length_pos_iff] using positive
  intro self history reachable absent clocked prompt ours
  refine ⟨?_, ?_⟩
  · rintro before now message rest rfl own unfed
    have split : before ++ (now, message) :: rest = (before ++ [(now, message)]) ++ rest := by simp
    rw [split] at clocked prompt
    have member : ∀ event ∈ before ++ [(now, message)], event.2.packetId = connection.packetId →
        event.2 ∈ connection.messages packet.destination parts :=
      fun event found => ours event (by rw [split]; exact List.mem_append_left _ found)
    have earlier : ∀ event ∈ before, event.2.packetId = connection.packetId →
        event.2 ∈ connection.messages packet.destination parts :=
      fun event found => member event (List.mem_append_left _ found)
    have small : parts.flatten.length ≤ maxUdpSize := joined ▸ size
    obtain ⟨outcomes, middle, read, _, progress⟩ := Defragger.feedAll_tracks reachable.wellFormed
      absent small clocked.before.before prompt.before.before
      (fun event found own => PartOf.of_mem few (earlier event found own))
    rw [History.fed_iff few earlier] at unfed
    have tracks := progress.resolve_left unfed
    obtain ⟨next, fed, _⟩ := tracks.own clocked.before prompt.before
      (PartOf.of_mem few (member (now, message) (by simp) own)) small
    refine ⟨outcomes, middle, next, read, ?_⟩
    rw [fed, joined]
    simp only [History.fed_iff few member]
  · refine Defragger.feedAll_except 0 reachable.wellFormed reachable.wellFormed
      (fun key _ => Or.inl rfl) (List.pairwise_cons.mpr ⟨fun _ _ => Nat.zero_le _, clocked⟩)

/-- A packet of two fragments, fed in reverse order. -/
theorem send_reassembles_reversed :
    let packet : Hysteria2Packet := ⟨[1, 2, 3], ⟨"a", 1, by decide⟩⟩
    ∃ (frames : List Bytes) (after : Hysteria2PacketConnection) (first second : UdpMessage),
      Hysteria2PacketConnection.send ⟨1, 0⟩ ⟨some 17, fun _ _ => .ok ()⟩ packet =
        (frames, .ok (), after) ∧
      frames.map decodeMessage = [.ok first, .ok second] ∧
      ∃ outcomes middle next, Defragger.default.feedAll [(0, second)] = some (outcomes, middle) ∧
        middle.feed 7 first = some (.ok (some packet), next) := by
  intro packet
  let first : UdpMessage := ⟨1, 1, 0, 2, ⟨"a", 1, by decide⟩, [1, 2]⟩
  let second : UdpMessage := ⟨1, 1, 1, 2, ⟨"a", 1, by decide⟩, [3]⟩
  let frames : List Bytes :=
    [[0, 0, 0, 1, 0, 1, 0, 2, 3, 97, 58, 49, 1, 2], [0, 0, 0, 1, 0, 1, 1, 2, 3, 97, 58, 49, 3]]
  have sent : Hysteria2PacketConnection.send ⟨1, 0⟩ ⟨some 17, fun _ _ => .ok ()⟩ packet =
      (frames, .ok (), ⟨1, 1⟩) := by decide
  have read : frames.map decodeMessage = [.ok first, .ok second] := by decide
  obtain ⟨messages, _, decoded, reassembled⟩ := send_reassembles (by decide) sent
  obtain rfl : [first, second] = messages :=
    List.map_injective_iff.mpr (fun _ _ => Except.ok.inj) (read.symm.trans decoded)
  refine ⟨frames, _, first, second, sent, read, ?_⟩
  have ours : ∀ event ∈ [(0, second), (7, first)], event.2.packetId = (1 : UInt16) →
      event.2 ∈ [first, second] := by decide
  have result := (reassembled Defragger.default [(0, second), (7, first)] ⟨[], [], rfl⟩ rfl
    (by unfold History.Clocked; decide) (by unfold History.Prompt; decide) ours).1
    [(0, second)] 7 first [] rfl (by decide) (by decide)
  rwa [if_pos (by decide)] at result

end SingQuic.Hysteria2
