import SingQuic.Net.Ipv6Text

/-! Printing an IPv6 address and reading it again. Which run of zeros the printed form
leaves out makes no difference to the reader, as long as it is one. -/
namespace SingQuic.Net
open Wire Scan

/-- The separator in front of a group, which the very first does without. -/
def lead (index : Nat) : List Char := if index = 0 then [] else [':']

/-- Groups in hexadecimal, with colons between them. -/
def groupsText : Nat → List Nat → List Char
  | _, [] => []
  | index, group :: groups => lead index ++ (Nat.toDigits 16 group ++ groupsText (index + 1) groups)

/-- Text behind which no further group can be read. -/
def Final (rest : List Char) : Prop := rest = [] ∨ ∃ tail, rest = ':' :: ':' :: tail

theorem readSeparator_lead {α : Type} (index : Nat) (inner : Parser α) (input : List Char) :
    readSeparator ':' index inner (lead index ++ input) = inner input := by
  cases index with
  | zero => rfl
  | succ index => rfl

section Groups
variable {index remaining : Nat} {rest more : List Char}

theorem readEmbedded_hex (group : Nat) (next : more = [] ∨ ∃ tail, more = ':' :: tail) :
    readEmbedded index remaining (lead index ++ (Nat.toDigits 16 group ++ more)) = none := by
  have dotless : '.' ∉ Nat.toDigits 16 group := fun member =>
    absurd (toDigits_numeric (by decide) (by decide) '.' member) (by decide)
  rw [readEmbedded, readSeparator_lead, readIpv4Addr_eq_none dotless next, ite_self]

theorem readGroup_hex {group : Nat} (small : group ≤ 65535)
    (next : more = [] ∨ ∃ tail, more = ':' :: tail) :
    readGroup index (lead index ++ (Nat.toDigits 16 group ++ more)) = some (group, more) := by
  have ends : ∀ c ∈ more.head?, toDigit 16 c = none := by
    rcases next with rfl | ⟨tail, rfl⟩
    · simp
    · rintro c ⟨⟩
      rfl
  have short : ∀ most ∈ some 4, (Nat.toDigits 16 group).length ≤ most := by
    rintro most ⟨⟩
    exact (Nat.length_toDigits_le_iff (by decide) (by decide)).mpr (by omega)
  rw [readGroup, readSeparator_lead]
  exact readNumber_toDigits (by decide) (by decide) small short ends

theorem Final.readSeparator {α : Type} {inner : Parser α} (final : Final rest) (index : Nat)
    (empty : inner [] = none) (colon : ∀ tail, inner (':' :: tail) = none) :
    readSeparator ':' index inner rest = none := by
  cases index with
  | zero =>
    rcases final with rfl | ⟨tail, rfl⟩
    · exact empty
    · exact colon _
  | succ index =>
    rcases final with rfl | ⟨tail, rfl⟩
    · rfl
    · exact colon tail

theorem Final.readEmbedded (final : Final rest) (index remaining : Nat) :
    readEmbedded index remaining rest = none := by
  have colon (tail : List Char) : readIpv4Addr (':' :: tail) = none :=
    readIpv4Addr_eq_none (List.not_mem_nil) (Or.inr ⟨tail, rfl⟩)
  rw [Net.readEmbedded, final.readSeparator index rfl colon, ite_self]

theorem Final.readGroup (final : Final rest) (index : Nat) : readGroup index rest = none :=
  final.readSeparator index rfl fun _ => rfl

theorem groupsText_next (final : Final rest) (index : Nat) (groups : List Nat) :
    groupsText (index + 1) groups ++ rest = [] ∨
      ∃ tail, groupsText (index + 1) groups ++ rest = ':' :: tail := by
  cases groups with
  | nil =>
    rcases final with rfl | ⟨tail, rfl⟩
    · exact Or.inl rfl
    · exact Or.inr ⟨_, rfl⟩
  | cons group groups => exact Or.inr ⟨_, rfl⟩

/-- Printed groups are read back one by one. -/
theorem readGroups_text (final : Final rest) {groups : List Nat} (small : ∀ group ∈ groups, group ≤ 65535)
    (fits : groups.length ≤ remaining) :
    readGroups index remaining (groupsText index groups ++ rest) = (groups, false, rest) := by
  induction groups generalizing index remaining with
  | nil =>
    cases remaining with
    | zero => rfl
    | succ remaining =>
      apply readGroups_end
      · exact final.readEmbedded index remaining
      · exact final.readGroup index
  | cons group groups ih =>
    cases remaining with
    | zero => contradiction
    | succ remaining =>
      have next := groupsText_next final index groups
      have further : readGroups (index + 1) remaining (groupsText (index + 1) groups ++ rest) =
          (groups, false, rest) :=
        ih (fun group member => small group (by simp [member])) (Nat.le_of_succ_le_succ fits)
      rw [groupsText, List.append_assoc, List.append_assoc,
        readGroups_group (readEmbedded_hex group next) (readGroup_hex (small group (by simp)) next),
        further]

end Groups

/-- The printed groups of a chunk of segments. -/
theorem toList_fmtSubslice (chunk : List Nat) : (fmtSubslice chunk).toList = groupsText 0 chunk := by
  have joined : ∀ (groups : List Nat) (group index : Nat), groupsText (index + 1) (group :: groups) =
      ':' :: [':'].intercalate ((group :: groups).map (Nat.toDigits 16)) := by
    intro groups
    induction groups with
    | nil => simp [groupsText, lead]
    | cons next groups ih =>
      intro group index
      rw [groupsText, ih]
      simp [lead]
  have digits : (String.toList ∘ fun segment => String.ofList (Nat.toDigits 16 segment)) =
      Nat.toDigits 16 := by
    funext segment
    exact String.toList_ofList
  rw [fmtSubslice, String.toList_intercalate, List.map_map, digits]
  cases chunk with
  | nil => rfl
  | cons group groups =>
    cases groups with
    | nil => simp [groupsText, lead]
    | cons next groups =>
      rw [groupsText, joined]
      simp [lead]

theorem segmentsOf_le : ∀ octets : Bytes, ∀ segment ∈ segmentsOf octets, segment ≤ 65535
  | [], _, member => by contradiction
  | [_], _, member => by contradiction
  | high :: low :: rest, segment, member => by
    have upper := high.toNat_lt
    have lower := low.toNat_lt
    rcases List.mem_cons.mp member with rfl | later
    · omega
    · exact segmentsOf_le rest segment later

theorem flatMap_segmentsOf : ∀ octets : Bytes, octets.length % 2 = 0 →
    (segmentsOf octets).flatMap (bigEndian 2) = octets
  | [], _ => rfl
  | [_], odd => by contradiction
  | high :: low :: rest, even => by
    have upper := high.toNat_lt
    have lower := low.toNat_lt
    have pair : bigEndian 2 (high.toNat * 256 + low.toNat) = [high, low] := by
      have split : (high.toNat * 256 + low.toNat) = ofBigEndian [high, low] := by
        simp [ofBigEndian, shiftIn]
      rw [split]
      exact bigEndian_ofBigEndian [high, low]
    rw [segmentsOf, List.flatMap_cons, pair, flatMap_segmentsOf rest (by simp at even; omega)]
    rfl

theorem ofSegments_segments (address : Ipv6Addr) : ofSegments address.segments = some address := by
  have octets : address.segments.flatMap (bigEndian 2) = address.octets :=
    flatMap_segmentsOf _ (by rw [address.size])
  unfold ofSegments
  simp only [octets, address.size, dite_true]

/-- Every segment of the span is zero. -/
def ZeroSpan (segments : List Nat) (span : Span) : Prop :=
  ∀ index, span.start ≤ index → index < span.start + span.len → segments[index]? = some 0

theorem ZeroSpan.concat {segments : List Nat} {span : Span} (zeros : ZeroSpan segments span)
    (segment : Nat) : ZeroSpan (segments ++ [segment]) span := by
  intro index lower upper
  have inside := zeros index lower upper
  have bound := (List.getElem?_eq_some_iff.mp inside).1
  rw [List.getElem?_append_left bound, inside]

/-- One step of the scan: the longest run so far, and the run that is still going on. -/
def scanZeros (scan : Span × Span) (segment : Nat × Nat) : Span × Span :=
  if segment.1 = 0 then
    let current : Span := ⟨if scan.2.len = 0 then segment.2 else scan.2.start, scan.2.len + 1⟩
    (if scan.1.len < current.len then current else scan.1, current)
  else (scan.1, ⟨0, 0⟩)

theorem zeroSpan_empty (segments : List Nat) : ZeroSpan segments ⟨0, 0⟩ := by
  intro index _ upper
  simp at upper

theorem scanZeros_zeroSpan (segments : List Nat) :
    ZeroSpan segments (segments.zipIdx.foldl scanZeros (⟨0, 0⟩, ⟨0, 0⟩)).1 ∧
    ZeroSpan segments (segments.zipIdx.foldl scanZeros (⟨0, 0⟩, ⟨0, 0⟩)).2 ∧
    ((segments.zipIdx.foldl scanZeros (⟨0, 0⟩, ⟨0, 0⟩)).2.len = 0 ∨
      (segments.zipIdx.foldl scanZeros (⟨0, 0⟩, ⟨0, 0⟩)).2.start +
        (segments.zipIdx.foldl scanZeros (⟨0, 0⟩, ⟨0, 0⟩)).2.len = segments.length) := by
  induction segments using List.reverseRecOn with
  | nil => exact ⟨zeroSpan_empty [], zeroSpan_empty [], Or.inl rfl⟩
  | append_singleton segments segment ih =>
    have last : (segments ++ [segment]).zipIdx = segments.zipIdx ++ [(segment, segments.length)] := by
      simp [List.zipIdx_append]
    rw [last, List.foldl_append]
    generalize segments.zipIdx.foldl scanZeros (⟨0, 0⟩, ⟨0, 0⟩) = scan at ih
    obtain ⟨longest, current⟩ := scan
    dsimp only at ih
    obtain ⟨longestZeros, currentZeros, reached⟩ := ih
    rw [List.foldl_cons, List.foldl_nil, scanZeros]
    by_cases zero : segment = 0
    · subst segment
      -- the run that is still going on grows by one, or starts here
      obtain ⟨start, begins⟩ : ∃ start, start =
        if current.len = 0 then segments.length else current.start := ⟨_, rfl⟩
      have whole : start + current.len = segments.length := by
        split at begins <;> omega
      have grown : ZeroSpan (segments ++ [0]) ⟨start, current.len + 1⟩ := by
        intro index lower upper
        dsimp only at lower upper
        by_cases here : index = segments.length
        · subst index
          simp
        · rw [if_neg (by omega)] at begins
          exact currentZeros.concat 0 index (by omega) (by omega)
      simp only [if_true, ← begins]
      refine ⟨?_, grown, Or.inr ?_⟩
      · split
        · exact grown
        · exact longestZeros.concat 0
      · rw [List.length_append, List.length_singleton]
        omega
    · simp only [zero, if_false]
      exact ⟨longestZeros.concat segment, zeroSpan_empty _, Or.inl trivial⟩

/-- The segments around the run of zeros that the printed form leaves out. -/
theorem ZeroSpan.split {segments : List Nat} {span : Span} (zeros : ZeroSpan segments span)
    (positive : 0 < span.len) : span.start + span.len ≤ segments.length ∧
      segments = segments.take span.start ++ List.replicate span.len 0 ++
        segments.drop (span.start + span.len) := by
  have last := zeros (span.start + span.len - 1) (by omega) (by omega)
  have bound := (List.getElem?_eq_some_iff.mp last).1
  refine ⟨by omega, ?_⟩
  have middle : (segments.drop span.start).take span.len = List.replicate span.len 0 := by
    rw [List.eq_replicate_iff]
    constructor
    · rw [List.length_take, List.length_drop]
      omega
    · intro segment member
      obtain ⟨index, found⟩ := List.mem_iff_getElem?.mp member
      rw [List.getElem?_take] at found
      split at found
      · rename_i inside
        rw [List.getElem?_drop, zeros _ (by omega) (by omega)] at found
        exact (Option.some.inj found).symm
      · contradiction
  rw [← middle, List.append_assoc, ← List.drop_drop, List.take_append_drop, List.take_append_drop]

/-- Groups around a double colon, with zeros for those left out. -/
theorem readIpv6Addr_compressed {head tail : List Nat} (headSmall : ∀ group ∈ head, group ≤ 65535)
    (tailSmall : ∀ group ∈ tail, group ≤ 65535) (fits : head.length + tail.length ≤ 7) :
    readIpv6Addr (groupsText 0 head ++ ':' :: ':' :: groupsText 0 tail) =
      (ofSegments (head ++ List.replicate (8 - head.length - tail.length) 0 ++ tail)).map (·, []) := by
  have front : readGroups 0 8 (groupsText 0 head ++ ':' :: ':' :: groupsText 0 tail) =
      (head, false, ':' :: ':' :: groupsText 0 tail) :=
    readGroups_text (Or.inr ⟨_, rfl⟩) headSmall (by omega)
  have back : readGroups 0 (7 - head.length) (groupsText 0 tail) = (tail, false, []) := by
    have read : readGroups 0 (7 - head.length) (groupsText 0 tail ++ []) = (tail, false, []) :=
      readGroups_text (Or.inl rfl) tailSmall (by omega)
    rwa [List.append_nil] at read
  unfold readIpv6Addr
  rw [front]
  dsimp only
  rw [if_neg (by omega), if_neg (by decide)]
  simp only [readGivenChar, if_true, Option.bind_eq_bind, Option.bind_some, back]

/-- The groups of an IPv4-mapped address after the double colon. -/
theorem readGroups_mapped {high low : Nat} (highSmall : high ≤ 65535) (lowSmall : low ≤ 65535) :
    readGroups 0 7 ('f' :: 'f' :: 'f' :: 'f' :: ':' ::
      dotted (high / 256) (high % 256) (low / 256) (low % 256)) = ([65535, high, low], true, []) := by
  have byte {value : Nat} (fits : value < 256) : (UInt8.ofNat value).toNat = value := by
    rw [UInt8.toNat_ofNat', Nat.mod_eq_of_lt fits]
  let embedded : Ipv4Addr :=
    ⟨[UInt8.ofNat (high / 256), UInt8.ofNat (high % 256), UInt8.ofNat (low / 256),
      UInt8.ofNat (low % 256)], rfl⟩
  have text : embedded.display.toList = dotted (high / 256) (high % 256) (low / 256) (low % 256) := by
    rw [Ipv4Addr.toList_display, byte (by omega), byte (by omega), byte (by omega), byte (by omega)]
  have read : readEmbedded 1 5 (':' :: dotted (high / 256) (high % 256) (low / 256) (low % 256)) =
      some (embedded, []) := by
    have inner : readIpv4Addr (dotted (high / 256) (high % 256) (low / 256) (low % 256)) =
        some (embedded, []) := readIpv4Addr_iff.mpr ⟨by rw [text, List.append_nil], by simp⟩
    exact inner
  have next : ∃ tail, ':' :: dotted (high / 256) (high % 256) (low / 256) (low % 256) = ':' :: tail :=
    ⟨_, rfl⟩
  have first := @readGroups_group 0 6 _ _ _ (readEmbedded_hex 65535 (Or.inr next))
    (readGroup_hex (by decide) (Or.inr next))
  rw [readGroups_embedded read] at first
  have pair {value : Nat} (fits : value ≤ 65535) :
      ofBigEndian [UInt8.ofNat (value / 256), UInt8.ofNat (value % 256)] = value := by
    simp only [ofBigEndian, List.foldl_cons, List.foldl_nil, shiftIn, byte (show value / 256 < 256 by omega),
      byte (show value % 256 < 256 by omega)]
    omega
  simp only [embedded, List.take_succ_cons, List.take_zero, List.drop_succ_cons, List.drop_zero,
    pair highSmall, pair lowSmall] at first
  exact first

/-- What is printed of an address is read back as that address. -/
theorem readIpv6Addr_display (address : Ipv6Addr) :
    readIpv6Addr address.display.toList = some (address, []) := by
  have count : address.segments.length = 8 := by
    rw [Ipv6Addr.segments, length_segmentsOf, address.size]
  have small : ∀ segment ∈ address.segments, segment ≤ 65535 := segmentsOf_le _
  have built := ofSegments_segments address
  unfold Ipv6Addr.display
  dsimp only
  split
  · rename_i high low mapped
    rw [mapped] at small built
    have text : ("::ffff:" ++ ".".intercalate
        ([high / 256, high % 256, low / 256, low % 256].map toString)).toList =
        ':' :: ':' :: 'f' :: 'f' :: 'f' :: 'f' :: ':' ::
          dotted (high / 256) (high % 256) (low / 256) (low % 256) := by
      simp [dotted]
    have front : readGroups 0 8 (':' :: ':' :: 'f' :: 'f' :: 'f' :: 'f' :: ':' ::
        dotted (high / 256) (high % 256) (low / 256) (low % 256)) =
        ([], false, ':' :: ':' :: 'f' :: 'f' :: 'f' :: 'f' :: ':' ::
          dotted (high / 256) (high % 256) (low / 256) (low % 256)) :=
      @readGroups_text 0 8 _ (Or.inr ⟨_, rfl⟩) [] (by simp) (by simp)
    have back := readGroups_mapped (small high (by simp)) (small low (by simp))
    rw [text]
    unfold readIpv6Addr
    rw [front]
    dsimp only
    rw [if_neg (by decide), if_neg (by decide)]
    simp only [readGivenChar, if_true, Option.bind_eq_bind, Option.bind_some, List.length_nil, Nat.sub_zero,
      back]
    rw [show ([] ++ List.replicate (8 - [65535, high, low].length) 0 ++ [65535, high, low]) =
      [0, 0, 0, 0, 0, 65535, high, low] from rfl, built, Option.map_some]
  · split
    · rename_i long
      have zeros : ZeroSpan address.segments (longestZeros address.segments) :=
        (scanZeros_zeroSpan address.segments).1
      generalize longestZeros address.segments = span at long zeros
      obtain ⟨inside, whole⟩ := zeros.split (by omega)
      have before : (address.segments.take span.start).length = span.start := by
        rw [List.length_take]
        omega
      have after : (address.segments.drop (span.start + span.len)).length =
          8 - (span.start + span.len) := by
        rw [List.length_drop, count]
      have omitted : 8 - span.start - (8 - (span.start + span.len)) = span.len := by omega
      rw [String.toList_append, String.toList_append, toList_fmtSubslice, toList_fmtSubslice,
        List.append_assoc]
      have read := readIpv6Addr_compressed
        (fun segment member => small segment (List.mem_of_mem_take member))
        (fun segment member => small segment (List.mem_of_mem_drop member))
        (show (address.segments.take span.start).length +
          (address.segments.drop (span.start + span.len)).length ≤ 7 by omega)
      rw [before, after, omitted, ← whole, built] at read
      exact read
    · rw [toList_fmtSubslice]
      have read : readGroups 0 8 (groupsText 0 address.segments ++ []) = (address.segments, false, []) :=
        readGroups_text (Or.inl rfl) small (by omega)
      rw [List.append_nil] at read
      unfold readIpv6Addr
      rw [read]
      dsimp only
      rw [if_pos count, built, Option.map_some]

end SingQuic.Net
