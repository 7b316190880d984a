import SingQuic.Hysteria2.Reassembly
import SingQuic.Lib.Transition
import Mathlib.Data.List.OfFn

/-! The reassembly table over whole histories, whoever sends the messages. Every
set stays short of one part, and what a completed set holds was fed since its
packet id was last completed, reset or evicted. That all of it was meant for the
set's own destination is up to the sender: a set is found by packet id and width. -/
namespace SingQuic.Hysteria2
open Wire Slots

/-- When the entry of a packet id was last written. Only fragments write. -/
def History.touched (history : History) (id : UInt16) : Option Instant :=
  ((history.filter fun event => event.2.packetId = id ∧ event.2.Fragment).map Prod.fst).getLast?

theorem History.touched_concat (history : History) (now : Instant) (message : UdpMessage)
    (id : UInt16) : touched (history ++ [(now, message)]) id =
      if message.packetId = id ∧ message.Fragment then some now else history.touched id := by
  by_cases own : message.packetId = id ∧ message.Fragment
  · simp [touched, List.filter_append, own]
  · simp only [touched, List.filter_append, List.filter_cons, decide_eq_true_eq, if_neg own,
      List.filter_nil, List.append_nil]

namespace FragmentSet
variable {now : Instant} {message : UdpMessage} {fragment : FragmentSet} {entry : Option FragmentSet}

/-- What one fragment can do to its entry: leave the set it was stored into, or
complete it and remove it. -/
theorem accept_cases {outcome : Outcome} {after : Option FragmentSet}
    (accepted : accept now message entry = some (outcome, after)) :
    ∃ fragment, (target now message entry).store now message = some fragment ∧
      ((fragment.received ≠ message.fragmentTotal.toNat ∧ outcome = .ok none ∧ after = some fragment) ∨
        (fragment.received = message.fragmentTotal.toNat ∧ fragment.assemble = some outcome ∧
          after = none)) := by
  rw [accept_eq, Option.bind_eq_some_iff] at accepted
  obtain ⟨fragment, stored, result⟩ := accepted
  refine ⟨fragment, stored, ?_⟩
  split at result
  · rename_i open'
    obtain ⟨rfl, rfl⟩ := Prod.mk.inj (Option.some.inj result)
    exact Or.inl ⟨open', rfl, rfl⟩
  · rename_i complete
    obtain ⟨value, assembled, same⟩ := Option.map_eq_some_iff.mp result
    obtain ⟨rfl, rfl⟩ := Prod.mk.inj same
    exact Or.inr ⟨not_not.mp complete, assembled, rfl⟩

/-- Storing writes at most the one vacant slot. -/
theorem store_cases {after : FragmentSet} (stored : fragment.store now message = some after) :
    after.updatedAt = now ∧ after.destination = fragment.destination ∧
      after.parts.length = fragment.parts.length ∧
      ((after.parts = fragment.parts ∧ after.received = fragment.received) ∨
        (fragment.parts[message.fragmentId.toNat]? = some none ∧
          after.parts = fragment.parts.set message.fragmentId.toNat (some message.data) ∧
          after.received = fragment.received + 1)) := by
  unfold store at stored
  split at stored
  · contradiction
  · obtain rfl := Option.some.inj stored
    exact ⟨rfl, rfl, rfl, Or.inl ⟨rfl, rfl⟩⟩
  · rename_i vacant
    obtain rfl := Option.some.inj stored
    exact ⟨rfl, rfl, by simp, Or.inr ⟨vacant, rfl, rfl⟩⟩

end FragmentSet

namespace Defragger
variable {self next : Defragger} {now : Instant} {message : UdpMessage} {history : History}

/-- What one fragment does to the table. -/
theorem feed_cases {outcome : Outcome} (fits : message.Fragment)
    (fed : self.feed now message = some (outcome, next)) :
    ∃ entry, FragmentSet.accept now message (self.retain now message.packetId) = some (outcome, entry) ∧
      next.fragments = Function.update (self.retain now) message.packetId entry := by
  rw [feed_fragment fits, Option.map_eq_some_iff] at fed
  obtain ⟨⟨result, entry⟩, accepted, same⟩ := fed
  obtain ⟨rfl, rfl⟩ := Prod.mk.inj same
  exact ⟨entry, accepted, rfl⟩

theorem feed_unchanged {outcome : Outcome} (whole : ¬ message.Fragment)
    (fed : self.feed now message = some (outcome, next)) : next = self := by
  obtain ⟨_, same, _⟩ := feed_other self now whole
  rw [same] at fed
  exact (Prod.mk.inj (Option.some.inj fed)).2.symm

/-- Every entry carries the time of the last fragment of its packet id. -/
def Dated (history : History) (self : Defragger) : Prop :=
  ∀ id fragment, self.fragments id = some fragment → history.touched id = some fragment.updatedAt

theorem Dated.feed {outcome : Outcome} (dated : Dated history self)
    (fed : self.feed now message = some (outcome, next)) :
    Dated (history ++ [(now, message)]) next := by
  intro id fragment found
  rw [History.touched_concat]
  by_cases fits : message.Fragment
  · obtain ⟨entry, accepted, stored⟩ := feed_cases fits fed
    rw [stored] at found
    by_cases own : message.packetId = id
    · subst id
      rw [if_pos ⟨rfl, fits⟩]
      rw [Function.update_self] at found
      subst entry
      obtain ⟨after, written, ⟨_, _, same⟩ | ⟨_, _, gone⟩⟩ := FragmentSet.accept_cases accepted
      · obtain rfl := Option.some.inj same
        rw [(FragmentSet.store_cases written).1]
      · contradiction
    · rw [if_neg fun both => own both.1]
      rw [Function.update_of_ne (Ne.symm own)] at found
      exact dated id fragment (retain_eq_some.mp found).1
  · rw [if_neg fun both => fits both.2]
    rw [feed_unchanged fits fed] at found
    exact dated id fragment found

theorem feedAll_dated {outcomes : List Outcome} {final : Defragger}
    (read : default.feedAll history = some (outcomes, final)) : Dated history final := by
  induction history using List.reverseRecOn generalizing outcomes final with
  | nil =>
    obtain ⟨_, rfl⟩ := Prod.mk.inj (Option.some.inj read)
    intro id fragment found
    contradiction
  | append_singleton history event ih =>
    obtain ⟨now, message⟩ := event
    rw [feedAll_concat, Option.bind_eq_some_iff] at read
    obtain ⟨⟨earlier, middle⟩, before, last⟩ := read
    obtain ⟨⟨outcome, next⟩, fed, same⟩ := Option.map_eq_some_iff.mp last
    obtain ⟨_, rfl⟩ := Prod.mk.inj same
    exact (ih before).feed fed

/-- Entries of other packet ids stay, except that those not written for longer
than the lifetime may go. -/
theorem Dated.frame {outcome : Outcome} {id : UInt16} (dated : Dated history self)
    (fed : self.feed now message = some (outcome, next)) (different : id ≠ message.packetId) :
    next.fragments id = self.fragments id ∨ next.fragments id = none ∧
      ∃ last, history.touched id = some last ∧ fragmentLifetime < now - last := by
  rcases feed_frame fed different with same | swept
  · exact Or.inl same
  rw [swept]
  cases entry : self.fragments id with
  | none => exact Or.inl (by simp [retain, entry])
  | some fragment =>
    by_cases live : fragment.alive now = true
    · exact Or.inl (by simp [retain, entry, Option.filter, live])
    · refine Or.inr ⟨by simp [retain, entry, Option.filter, live], _, dated id fragment entry, ?_⟩
      have late : ¬ now - fragment.updatedAt ≤ fragmentLifetime := by
        simpa only [FragmentSet.alive, decide_eq_true_eq] using live
      exact Nat.lt_of_not_le late

/-- In every table reachable by calls with whatever messages and readings, each
set has between 2 and 255 slots, counts the filled ones and lacks one. No call
panics; one that returns a packet or an error leaves no entry for its packet id,
one without a fragment to store changes nothing, and other entries are left alone
unless they have expired. -/
theorem feedAll_invariant (history : History) : ∃ outcomes self,
    default.feedAll history = some (outcomes, self) ∧ self.WellFormed ∧
    ∀ now message, ∃ outcome next, self.feed now message = some (outcome, next) ∧
      (1 < message.fragmentTotal → outcome ≠ .ok none → next.fragments message.packetId = none) ∧
      (message.fragmentTotal ≤ 1 ∨ message.fragmentTotal ≤ message.fragmentId → next = self) ∧
      ∀ id ≠ message.packetId, next.fragments id = self.fragments id ∨ next.fragments id = none ∧
        ∃ last, history.touched id = some last ∧ fragmentLifetime < now - last := by
  obtain ⟨outcomes, self, read, valid⟩ := feedAll_wellFormed default_wellFormed history
  refine ⟨outcomes, self, read, valid, fun now message => ?_⟩
  obtain ⟨outcome, next, fed, _⟩ := feed_wellFormed now message valid
  refine ⟨outcome, next, fed, ?_, ?_, fun id different => (feedAll_dated read).frame fed different⟩
  · intro wide returned
    by_cases fits : message.Fragment
    · obtain ⟨entry, accepted, stored⟩ := feed_cases fits fed
      rw [stored, Function.update_self]
      obtain ⟨_, _, ⟨_, waiting, _⟩ | ⟨_, _, gone⟩⟩ := FragmentSet.accept_cases accepted
      · exact absurd waiting returned
      · exact gone
    · obtain ⟨result, same, value⟩ := feed_other self now fits
      rw [same] at fed
      obtain ⟨rfl, _⟩ := Prod.mk.inj (Option.some.inj fed)
      rw [if_neg (UInt8.not_le.mpr wide)] at value
      exact absurd value returned
  · intro idle
    refine feed_unchanged (fun fits => ?_) fed
    rcases idle with single | outside
    · exact absurd fits.1 (UInt8.not_lt.mpr single)
    · exact absurd fits.2 (UInt8.not_lt.mpr outside)

/-- A fragment about to be stored into a live set of its packet id and width that
was opened for another destination. -/
def Crosses (self : Defragger) (now : Instant) (message : UdpMessage) : Prop :=
  message.Fragment ∧ ∃ fragment ∈ self.retain now message.packetId,
    fragment.parts.length = message.fragmentTotal.toNat ∧
    fragment.parts[message.fragmentId.toNat]? = some none ∧
    fragment.destination ≠ message.destination

instance (self : Defragger) (now : Instant) (message : UdpMessage) :
    Decidable (self.Crosses now message) :=
  inferInstanceAs (Decidable (_ ∧ _))

end Defragger

/-- A table together with, for each packet id, the fragments fed since its entry
was last completed, reset or evicted. -/
structure Traced where
  table : Defragger
  since : UInt16 → List UdpMessage

namespace Traced

def default : Traced := ⟨Defragger.default, fun _ => []⟩

/-- The earlier fragments of a packet id that are still in the table when a call
stores its own. -/
def kept (self : Traced) (now : Instant) (message : UdpMessage) (id : UInt16) : List UdpMessage :=
  match self.table.retain now id with
  | none => []
  | some fragment =>
    -- a set of another width is replaced, whatever it holds
    if id = message.packetId ∧ fragment.parts.length ≠ message.fragmentTotal.toNat then []
    else self.since id

/-- The fragments of the call's own packet id, the one just fed included. -/
def drawn (self : Traced) (now : Instant) (message : UdpMessage) : List UdpMessage :=
  self.kept now message message.packetId ++ [message]

def feed (self : Traced) (event : Instant × UdpMessage) : Option Traced :=
  (self.table.feed event.1 event.2).map fun (_, next) =>
    if event.2.Fragment then
      ⟨next, fun id =>
        if (next.fragments id).isNone then []
        else if id = event.2.packetId then self.drawn event.1 event.2
        else self.kept event.1 event.2 id⟩
    else ⟨next, self.since⟩

end Traced

/-- A packet put together from one message for each fragment number, all of them
with its destination. -/
structure Assembled (messages : List UdpMessage) (id : UInt16) (total : UInt8)
    (packet : Hysteria2Packet) (parts : List UdpMessage) : Prop where
  count : parts.length = total.toNat
  fed : ∀ part ∈ parts, part ∈ messages
  packetId : ∀ part ∈ parts, part.packetId = id
  total : ∀ part ∈ parts, part.fragmentTotal = total
  numbered : ∀ (index : Nat) (part : UdpMessage), parts[index]? = some part → part.fragmentId.toNat = index
  destination : ∀ part ∈ parts, part.destination = packet.destination
  joined : (parts.map UdpMessage.data).flatten = packet.data

/-- A reassembled packet was assembled from what was fed for its destination since
its packet id was last completed, reset or evicted. -/
def Traced.Unmixed (before : Traced) (event : Instant × UdpMessage) (_ : Traced) : Prop :=
  ∀ packet next, event.2.Fragment →
    before.table.feed event.1 event.2 = some (.ok (some packet), next) →
    ∃ parts, Assembled (before.drawn event.1 event.2) event.2.packetId event.2.fragmentTotal packet parts

/-- The message that filled a slot of a set. -/
structure FragmentSet.Filled (fragment : FragmentSet) (id : UInt16) (index : Nat) (data : Bytes)
    (message : UdpMessage) : Prop where
  packetId : message.packetId = id
  total : message.fragmentTotal.toNat = fragment.parts.length
  number : message.fragmentId.toNat = index
  destination : message.destination = fragment.destination
  data : message.data = data

/-- Every filled slot was filled by one of the messages. -/
def FragmentSet.SourcedIn (fragment : FragmentSet) (id : UInt16) (messages : List UdpMessage) : Prop :=
  ∀ index data, fragment.parts[index]? = some (some data) →
    ∃ message ∈ messages, fragment.Filled id index data message

namespace FragmentSet
variable {now : Instant} {message : UdpMessage} {fragment after : FragmentSet} {id : UInt16}
  {messages : List UdpMessage}

theorem fresh_sourcedIn (now : Instant) (message : UdpMessage) (id : UInt16)
    (messages : List UdpMessage) : (fresh now message).SourcedIn id messages := by
  intro index data here
  rw [fresh, List.getElem?_replicate] at here
  split at here <;> simp at here

theorem Filled.congr {index : Nat} {data : Bytes} (filled : fragment.Filled id index data message)
    (width : after.parts.length = fragment.parts.length)
    (destination : after.destination = fragment.destination) : after.Filled id index data message :=
  ⟨filled.packetId, filled.total.trans width.symm, filled.number,
    filled.destination.trans destination.symm, filled.data⟩

/-- Storing adds the message itself as a source, provided it goes where the set goes. -/
theorem SourcedIn.store (sourced : fragment.SourcedIn message.packetId messages)
    (width : fragment.parts.length = message.fragmentTotal.toNat)
    (same : fragment.parts[message.fragmentId.toNat]? = some none →
      fragment.destination = message.destination)
    (stored : fragment.store now message = some after) :
    after.SourcedIn message.packetId (messages ++ [message]) := by
  obtain ⟨_, destination, length, ⟨unchanged, _⟩ | ⟨vacant, written, _⟩⟩ := store_cases stored
  · intro index data here
    rw [unchanged] at here
    obtain ⟨source, member, filled⟩ := sourced index data here
    exact ⟨source, List.mem_append_left _ member, filled.congr length destination⟩
  · intro index data here
    rw [written, List.getElem?_set] at here
    split at here
    · rename_i own
      subst own
      split at here
      · obtain rfl := Option.some.inj (Option.some.inj here)
        refine ⟨message, by simp, rfl, ?_, rfl, ?_, rfl⟩
        · rw [length, width]
        · rw [destination, same vacant]
      · contradiction
    · obtain ⟨source, member, filled⟩ := sourced index data here
      exact ⟨source, List.mem_append_left _ member, filled.congr length destination⟩

/-- A complete set with a source for every slot. -/
theorem SourcedIn.assembled {outcome : Outcome} {packet : Hysteria2Packet}
    (sourced : fragment.SourcedIn id messages) (width : fragment.parts.length = message.fragmentTotal.toNat)
    (assembled : fragment.assemble = some outcome) (returned : outcome = .ok (some packet)) :
    ∃ parts, Assembled messages id message.fragmentTotal packet parts := by
  subst returned
  obtain ⟨values, collected, result⟩ := Option.map_eq_some_iff.mp assembled
  split at result
  · contradiction
  obtain rfl := Option.some.inj (Except.ok.inj result)
  have slots : fragment.parts = values.map some := eq_map_of_collect collected
  have size : values.length = message.fragmentTotal.toNat := by
    rw [← width, slots, List.length_map]
  have sources : ∀ index : Fin values.length, ∃ source ∈ messages,
      fragment.Filled id index values[index] source := by
    intro index
    apply sourced
    rw [slots, List.getElem?_map, List.getElem?_eq_getElem index.isLt]
    rfl
  choose source member filled using sources
  have found : ∀ part ∈ List.ofFn source, ∃ index, source index = part :=
    fun part here => List.mem_ofFn.mp here
  refine ⟨List.ofFn source, ?_, ?_, ?_, ?_, ?_, ?_, ?_⟩
  · rw [List.length_ofFn, size]
  · intro part here
    obtain ⟨index, rfl⟩ := found part here
    exact member index
  · intro part here
    obtain ⟨index, rfl⟩ := found part here
    exact (filled index).packetId
  · intro part here
    obtain ⟨index, rfl⟩ := found part here
    exact UInt8.toNat_inj.mp ((filled index).total.trans width)
  · intro index part here
    obtain ⟨bound, same⟩ := List.getElem?_eq_some_iff.mp here
    rw [List.getElem_ofFn] at same
    subst part
    exact (filled _).number
  · intro part here
    obtain ⟨index, rfl⟩ := found part here
    exact (filled index).destination
  · have data : UdpMessage.data ∘ source = fun index => values[index.val] :=
      funext fun index => (filled index).data
    rw [List.map_ofFn, data, List.ofFn_getElem]

end FragmentSet

namespace Traced
variable {self after : Traced} {now : Instant} {message : UdpMessage}

/-- Every entry has a source for each of its parts. -/
def Sourced (self : Traced) : Prop :=
  ∀ id fragment, self.table.fragments id = some fragment → fragment.SourcedIn id (self.since id)

theorem Sourced.kept {id : UInt16} {fragment : FragmentSet} (sourced : self.Sourced)
    (live : self.table.retain now id = some fragment)
    (fits : id = message.packetId → fragment.parts.length = message.fragmentTotal.toNat) :
    fragment.SourcedIn id (self.kept now message id) := by
  have same : self.kept now message id = self.since id := by
    rw [Traced.kept, live]
    exact if_neg fun reset => reset.2 (fits reset.1)
  rw [same]
  exact sourced id fragment (Defragger.retain_eq_some.mp live).1

/-- The set a fragment is stored into has a source for each part it holds, and if
the fragment does not cross, it is for the same destination. -/
theorem Sourced.target (sourced : self.Sourced) (fits : message.Fragment)
    (straight : ¬ self.table.Crosses now message) :
    let fragment := FragmentSet.target now message (self.table.retain now message.packetId)
    fragment.SourcedIn message.packetId (self.kept now message message.packetId) ∧
      (fragment.parts[message.fragmentId.toNat]? = some none →
        fragment.destination = message.destination) := by
  intro fragment
  cases live : self.table.retain now message.packetId with
  | none =>
    have opened : fragment = FragmentSet.fresh now message := by
      simp [fragment, FragmentSet.target, live]
    rw [opened]
    exact ⟨FragmentSet.fresh_sourcedIn _ _ _ _, fun _ => rfl⟩
  | some old =>
    by_cases width : old.parts.length = message.fragmentTotal.toNat
    · have joined : fragment = old := by
        simp [fragment, FragmentSet.target, live, width]
      rw [joined]
      refine ⟨sourced.kept live fun _ => width, fun vacant => ?_⟩
      by_contra different
      exact straight ⟨fits, old, live, width, vacant, different⟩
    · have replaced : fragment = FragmentSet.fresh now message := by
        simp [fragment, FragmentSet.target, live, width]
      rw [replaced]
      exact ⟨FragmentSet.fresh_sourcedIn _ _ _ _, fun _ => rfl⟩

/-- What a call with a fragment does to the traced table. -/
theorem feed_fragment_cases (fits : message.Fragment) (fed : self.feed (now, message) = some after) :
    ∃ outcome entry fragment,
      self.table.feed now message = some (outcome, after.table) ∧
      (FragmentSet.target now message (self.table.retain now message.packetId)).store now message =
        some fragment ∧
      after.table.fragments = Function.update (self.table.retain now) message.packetId entry ∧
      (∀ id, after.since id = if (after.table.fragments id).isNone then []
        else if id = message.packetId then self.drawn now message else self.kept now message id) ∧
      ((entry = some fragment ∧ outcome = .ok none) ∨
        (entry = none ∧ fragment.assemble = some outcome)) := by
  obtain ⟨⟨outcome, next⟩, called, same⟩ := Option.map_eq_some_iff.mp fed
  dsimp only at called same
  rw [if_pos fits] at same
  subst after
  obtain ⟨entry, accepted, stored⟩ := Defragger.feed_cases fits called
  obtain ⟨fragment, written, ⟨_, waiting, left⟩ | ⟨_, assembled, gone⟩⟩ :=
    FragmentSet.accept_cases accepted
  · exact ⟨outcome, entry, fragment, called, written, stored, fun _ => rfl, Or.inl ⟨left, waiting⟩⟩
  · exact ⟨outcome, entry, fragment, called, written, stored, fun _ => rfl, Or.inr ⟨gone, assembled⟩⟩

theorem Sourced.stored {fragment : FragmentSet} (sourced : self.Sourced) (fits : message.Fragment)
    (straight : ¬ self.table.Crosses now message)
    (written : (FragmentSet.target now message (self.table.retain now message.packetId)).store now
      message = some fragment) :
    fragment.SourcedIn message.packetId (self.drawn now message) := by
  obtain ⟨source, same⟩ := sourced.target fits straight
  exact source.store (FragmentSet.target_width _ _ _) same written

theorem Sourced.feed (sourced : self.Sourced) (straight : ¬ self.table.Crosses now message)
    (fed : self.feed (now, message) = some after) : after.Sourced := by
  by_cases fits : message.Fragment
  · obtain ⟨_, entry, fragment, _, written, table, since, result⟩ := feed_fragment_cases fits fed
    intro id found here
    rw [since, here, Option.isNone_some, if_neg Bool.false_ne_true]
    rw [table] at here
    by_cases own : id = message.packetId
    · subst id
      rw [if_pos rfl]
      rw [Function.update_self] at here
      rcases result with ⟨left, _⟩ | ⟨gone, _⟩
      · rw [left] at here
        obtain rfl := Option.some.inj here
        exact sourced.stored fits straight written
      · rw [gone] at here
        contradiction
    · rw [if_neg own]
      rw [Function.update_of_ne own] at here
      exact sourced.kept here fun same => absurd same own
  · obtain ⟨⟨outcome, next⟩, called, same⟩ := Option.map_eq_some_iff.mp fed
    dsimp only at called same
    rw [if_neg fits, Defragger.feed_unchanged fits called] at same
    subst after
    exact sourced

theorem Sourced.unmixed (sourced : self.Sourced) (straight : ¬ self.table.Crosses now message)
    (fed : self.feed (now, message) = some after) : Unmixed self (now, message) after := by
  intro packet next fits returned
  obtain ⟨outcome, entry, fragment, called, written, _, _, result⟩ := feed_fragment_cases fits fed
  dsimp only at returned
  rw [returned] at called
  obtain ⟨rfl, _⟩ := Prod.mk.inj (Option.some.inj called)
  rcases result with ⟨_, waiting⟩ | ⟨_, assembled⟩
  · cases Except.ok.inj waiting
  · have width : fragment.parts.length = message.fragmentTotal.toNat := by
      obtain ⟨_, _, length, _⟩ := FragmentSet.store_cases written
      rw [length, FragmentSet.target_width]
    exact (sourced.stored fits straight written).assembled width assembled rfl

end Traced

/-- Whatever is fed, as long as no fragment is stored into a set opened for another
destination, every packet returned is made of one fragment for each number, all
fed for its destination since the packet id was last completed, reset or evicted. -/
theorem reassembly_unmixed (history : History)
    (straight : Transition.Meets Traced.feed
      (fun before event => ¬ before.table.Crosses event.1 event.2) Traced.default history) :
    Transition.Steps Traced.feed Traced.Unmixed Traced.default history := by
  refine Transition.steps_of_meets (Q := Traced.Sourced) ?_ ?_ straight ?_
  · intro before event after sourced met fed
    exact sourced.feed met fed
  · intro before event after sourced met fed
    exact sourced.unmixed met fed
  · intro id fragment found
    contradiction

/-- Two fragments of one packet, the second of which completes it. -/
theorem reassembly_unmixed_pair : Transition.Steps Traced.feed Traced.Unmixed Traced.default
    [(0, ⟨1, 1, 0, 2, ⟨"f", 1, by decide⟩, [3]⟩), (5, ⟨1, 1, 1, 2, ⟨"f", 1, by decide⟩, [4]⟩)] := by
  refine reassembly_unmixed _ ⟨by decide, ?_⟩
  intro next fed
  obtain rfl := Option.some.inj fed
  exact ⟨by decide, fun _ _ => trivial⟩

/-- Two fragments with one packet id and total but different destinations: the
packet goes to the first, with data meant for the second. -/
theorem reassembly_mixed : ¬ ∀ history : History, history.Clocked →
    Transition.Steps Traced.feed Traced.Unmixed Traced.default history := by
  intro unmixed
  let first : UdpMessage := ⟨1, 1, 0, 2, ⟨"g", 1, by decide⟩, [3]⟩
  let second : UdpMessage := ⟨1, 1, 1, 2, ⟨"h", 1, by decide⟩, [4]⟩
  obtain ⟨middle, fed⟩ : ∃ middle, Traced.default.feed (0, first) = some middle := ⟨_, rfl⟩
  obtain ⟨final, completed⟩ : ∃ final, middle.feed (5, second) = some final := by
    obtain rfl := Option.some.inj fed
    exact ⟨_, rfl⟩
  have step := unmixed [(0, first), (5, second)] (by simp [History.Clocked])
    [(0, first)] (5, second) [] middle final rfl (by simp [Transition.run, fed]) completed
  obtain rfl := Option.some.inj fed
  obtain ⟨parts, assembled⟩ := step ⟨[3, 4], ⟨"g", 1, by decide⟩⟩ _ (by decide) rfl
  have size : parts.length = 2 := assembled.count
  obtain ⟨one, two, rfl⟩ := List.length_eq_two.mp size
  have number := assembled.numbered 1 two rfl
  have goal := assembled.destination two (by simp)
  have source : two ∈ [first, second] := assembled.fed two (by simp)
  simp only [List.mem_cons, List.not_mem_nil, or_false] at source
  rcases source with rfl | rfl
  · exact absurd number (by decide)
  · exact absurd goal (by decide)

end SingQuic.Hysteria2
