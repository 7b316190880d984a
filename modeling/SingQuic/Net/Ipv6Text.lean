import SingQuic.Net.Ipv4Text

/-! The text of an IPv6 address: an address is read back from the text it is printed as,
and from any other text a reading takes hexadecimal digits, colons and dots only, with a
colon among them. -/
namespace SingQuic.Net
open Wire Scan

/-- The characters of IPv6 addresses. -/
def Ipv6Char (c : Char) : Prop := (toDigit 16 c).isSome = true ∨ c = ':' ∨ c = '.'

instance (c : Char) : Decidable (Ipv6Char c) := inferInstanceAs (Decidable (_ ∨ _))

theorem toDigit_ten_of_hex {c : Char} (outside : toDigit 16 c = none) : toDigit 10 c = none := by
  cases read : toDigit 10 c with
  | none => rfl
  | some digit =>
    obtain ⟨small, rfl⟩ := toDigit_ten read
    rw [toDigit_digitChar (by decide) (show digit < 16 by omega)] at outside
    contradiction

/-- The attempt at an embedded IPv4 address, which takes two groups. -/
def readEmbedded (index remaining : Nat) : Parser Ipv4Addr := fun input =>
  if 0 < remaining then readSeparator ':' index readIpv4Addr input else none

def readGroup (index : Nat) : Parser Nat := readSeparator ':' index (readNumber 16 (some 4) true 65535)

section Steps
variable {index remaining : Nat} {input rest : List Char}

theorem readGroups_embedded {address : Ipv4Addr}
    (read : readEmbedded index remaining input = some (address, rest)) :
    readGroups index (remaining + 1) input =
      ([ofBigEndian (address.octets.take 2), ofBigEndian (address.octets.drop 2)], true, rest) := by
  unfold readEmbedded at read
  rw [readGroups]
  dsimp only
  rw [read]

theorem readGroups_end (single : readEmbedded index remaining input = none)
    (read : readGroup index input = none) :
    readGroups index (remaining + 1) input = ([], false, input) := by
  unfold readEmbedded at single
  unfold readGroup at read
  rw [readGroups]
  dsimp only
  rw [single, read]

theorem readGroups_group {group : Nat} (single : readEmbedded index remaining input = none)
    (read : readGroup index input = some (group, rest)) :
    readGroups index (remaining + 1) input = (group :: (readGroups (index + 1) remaining rest).1,
      (readGroups (index + 1) remaining rest).2.1, (readGroups (index + 1) remaining rest).2.2) := by
  unfold readEmbedded at single
  unfold readGroup at read
  rw [readGroups]
  dsimp only
  rw [single, read]

end Steps

section Local
variable {stop : Char}

theorem outside_cases (outside : ¬ Ipv6Char stop) :
    toDigit 16 stop = none ∧ toDigit 10 stop = none ∧ '.' ≠ stop ∧ ':' ≠ stop := by
  have hex : toDigit 16 stop = none := by
    cases read : toDigit 16 stop with
    | none => rfl
    | some digit => exact absurd (Or.inl (by rw [read]; rfl)) outside
  refine ⟨hex, toDigit_ten_of_hex hex, ?_, ?_⟩
  · rintro rfl
    exact outside (by decide)
  · rintro rfl
    exact outside (by decide)

theorem readEmbedded_local (outside : ¬ Ipv6Char stop) (index remaining : Nat) :
    Local stop (readEmbedded index remaining) := by
  obtain ⟨_, decimal, dot, colon⟩ := outside_cases outside
  intro input later
  unfold readEmbedded
  split
  · exact readSeparator_local colon (readIpv4Addr_local decimal dot) input later
  · rfl

theorem readGroup_local (outside : ¬ Ipv6Char stop) (index : Nat) : Local stop (readGroup index) := by
  obtain ⟨hex, _, _, colon⟩ := outside_cases outside
  exact readSeparator_local colon (readNumber_local hex)

theorem readGroups_local (outside : ¬ Ipv6Char stop) (index remaining : Nat) (input later : List Char) :
    readGroups index remaining (input ++ stop :: later) =
      ((readGroups index remaining input).1, (readGroups index remaining input).2.1,
        (readGroups index remaining input).2.2 ++ stop :: later) := by
  induction remaining generalizing index input with
  | zero => rfl
  | succ remaining ih =>
    have address := readEmbedded_local outside index remaining input later
    have number := readGroup_local outside index input later
    cases embedded : readEmbedded index remaining input with
    | some scanned =>
      rw [embedded] at address
      rw [readGroups_embedded embedded, readGroups_embedded address]
    | none =>
      rw [embedded] at address
      cases group : readGroup index input with
      | none =>
        rw [group] at number
        rw [readGroups_end embedded group, readGroups_end address number]
      | some scanned =>
        rw [group] at number
        rw [readGroups_group embedded group, readGroups_group address number, ih]

theorem readIpv6Addr_local (outside : ¬ Ipv6Char stop) : Local stop readIpv6Addr := by
  obtain ⟨_, _, _, colon⟩ := outside_cases outside
  intro input later
  unfold readIpv6Addr
  simp only [readGroups_local outside, Option.bind_eq_bind, (readGivenChar_local colon).bind_apply, extend]
  split
  · rw [Option.map_map]
    rfl
  · split
    · rfl
    · simp only [Option.map_bind, Function.comp_def, Option.map_map, extend]

end Local

theorem readIpv4Addr_takes : Takes Ipv6Char readIpv4Addr := by
  intro input address rest read
  obtain ⟨rfl, _⟩ := readIpv4Addr_iff.mp read
  refine ⟨_, rfl, fun symbol member => ?_⟩
  rcases address.display_chars symbol member with digit | dot
  · obtain ⟨value, read⟩ := Option.isSome_iff_exists.mp digit
    obtain ⟨small, rfl⟩ := toDigit_ten read
    exact Or.inl (by rw [toDigit_digitChar (by decide) (show value < 16 by omega)]; rfl)
  · exact Or.inr (Or.inr dot)

/-- A text that starts with an IPv4 address is no IPv6 address: the embedded form may not
come first. -/
theorem readIpv6Addr_eq_none {input rest : List Char} {address : Ipv4Addr}
    (read : readIpv4Addr input = some (address, rest)) : readIpv6Addr input = none := by
  have embedded : readEmbedded 0 7 input = some (address, rest) := read
  unfold readIpv6Addr
  rw [readGroups_embedded embedded]
  rfl

/-- Behind the first place in the list, a separator is taken along. -/
theorem readSeparator_takes {α : Type} {index : Nat} {inner : Parser α} (takes : Takes Ipv6Char inner)
    {input rest : List Char} {value : α} (read : readSeparator ':' index inner input = some (value, rest)) :
    ∃ taken, input = taken ++ rest ∧ (∀ c ∈ taken, Ipv6Char c) ∧ (index ≠ 0 → ':' ∈ taken) := by
  cases index with
  | zero =>
    obtain ⟨taken, same, only⟩ := takes read
    exact ⟨taken, same, only, by simp⟩
  | succ index =>
    obtain ⟨tail, rfl, inside⟩ := readSeparator_succ_iff.mp read
    obtain ⟨taken, rfl, only⟩ := takes inside
    refine ⟨':' :: taken, rfl, ?_, by simp⟩
    intro c member
    rcases List.mem_cons.mp member with rfl | later
    · decide
    · exact only c later

/-- The groups are read from characters of addresses, with a colon in front of each but
the very first. -/
theorem readGroups_takes (index remaining : Nat) (input : List Char) :
    ∃ taken, input = taken ++ (readGroups index remaining input).2.2 ∧ (∀ c ∈ taken, Ipv6Char c) ∧
      (index ≠ 0 → (readGroups index remaining input).1 ≠ [] → ':' ∈ taken) ∧
      (2 < (readGroups index remaining input).1.length → ':' ∈ taken) := by
  induction remaining generalizing index input with
  | zero => exact ⟨[], rfl, by simp, by simp [readGroups], by simp [readGroups]⟩
  | succ remaining ih =>
    cases embedded : readEmbedded index remaining input with
    | some scanned =>
      rw [readGroups_embedded embedded]
      unfold readEmbedded at embedded
      split at embedded
      · obtain ⟨taken, same, only, colon⟩ := readSeparator_takes readIpv4Addr_takes embedded
        exact ⟨taken, same, only, fun later _ => colon later, by simp⟩
      · contradiction
    | none =>
      cases group : readGroup index input with
      | none =>
        rw [readGroups_end embedded group]
        exact ⟨[], rfl, by simp, by simp, by simp⟩
      | some scanned =>
        have digits : Takes Ipv6Char (readNumber 16 (some 4) true 65535) :=
          readNumber_takes.mono fun c numeric => Or.inl numeric
        obtain ⟨taken, same, only, colon⟩ := readSeparator_takes digits group
        obtain ⟨more, further, only', next, _⟩ := ih (index + 1) scanned.2
        rw [readGroups_group embedded group]
        refine ⟨taken ++ more, ?_, ?_, ?_, ?_⟩
        · rw [List.append_assoc, ← further]
          exact same
        · intro c member
          rcases List.mem_append.mp member with before | after
          · exact only c before
          · exact only' c after
        · intro later _
          exact List.mem_append_left _ (colon later)
        · intro three
          refine List.mem_append_right _ (next (by omega) ?_)
          intro none'
          rw [List.length_cons, none'] at three
          simp at three

/-- A reading takes characters of addresses, a colon among them. -/
theorem readIpv6Addr_takes {input rest : List Char} {address : Ipv6Addr}
    (read : readIpv6Addr input = some (address, rest)) :
    ∃ taken, input = taken ++ rest ∧ (∀ c ∈ taken, Ipv6Char c) ∧ ':' ∈ taken := by
  obtain ⟨head, before, only, _, colon⟩ := readGroups_takes 0 8 input
  unfold readIpv6Addr at read
  dsimp only at read
  split at read
  · rename_i eight
    obtain ⟨whole, _, same⟩ := Option.map_eq_some_iff.mp read
    obtain ⟨_, rfl⟩ := Prod.mk.inj same
    exact ⟨head, before, only, colon (by omega)⟩
  · split at read
    · contradiction
    · simp only [Option.bind_eq_bind, Option.bind_eq_some_iff, Prod.exists] at read
      obtain ⟨_, _, first, _, later, second, built⟩ := read
      obtain ⟨tail, after, only', _, _⟩ := readGroups_takes 0 (7 - (readGroups 0 8 input).1.length) later
      obtain ⟨whole, _, same⟩ := Option.map_eq_some_iff.mp built
      obtain ⟨_, rfl⟩ := Prod.mk.inj same
      rw [readGivenChar_eq_some_iff.mp first, readGivenChar_eq_some_iff.mp second, after] at before
      refine ⟨head ++ ':' :: ':' :: tail, ?_, ?_, by simp⟩
      · rw [List.append_assoc]
        exact before
      · intro c member
        simp only [List.mem_append, List.mem_cons] at member
        rcases member with front | rfl | rfl | back
        · exact only c front
        · decide
        · decide
        · exact only' c back

end SingQuic.Net
