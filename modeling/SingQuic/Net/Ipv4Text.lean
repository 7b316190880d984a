import SingQuic.Net.Digits

/-! The text of an IPv4 address: it is read from the text it is printed as and from no
other, and wherever that text ends. -/
namespace SingQuic.Net
open Wire Scan

theorem readGivenChar_eq_some_iff {target : Char} {input rest : List Char} {value : Unit} :
    readGivenChar target input = some (value, rest) ↔ input = target :: rest := by
  cases input with
  | nil => simp [readGivenChar]
  | cons c input =>
    simp only [readGivenChar, List.cons.injEq]
    split
    · simp [*]
    · simp [*]

theorem readGivenChar_local {target stop : Char} (other : target ≠ stop) :
    Local stop (readGivenChar target) := by
  intro input later
  cases input with
  | nil => exact if_neg other.symm
  | cons c input =>
    rw [List.cons_append, readGivenChar, readGivenChar]
    split <;> rfl

theorem readSeparator_zero {α : Type} (separator : Char) (inner : Parser α) :
    readSeparator separator 0 inner = inner := rfl

theorem readSeparator_succ_iff {α : Type} {separator : Char} {index : Nat} {inner : Parser α}
    {input rest : List Char} {value : α} :
    readSeparator separator (index + 1) inner input = some (value, rest) ↔
      ∃ tail, input = separator :: tail ∧ inner tail = some (value, rest) := by
  rw [readSeparator, if_neg (by omega), Option.bind_eq_some_iff]
  constructor
  · rintro ⟨⟨_, tail⟩, given, read⟩
    exact ⟨tail, readGivenChar_eq_some_iff.mp given, read⟩
  · rintro ⟨tail, same, read⟩
    exact ⟨((), tail), readGivenChar_eq_some_iff.mpr same, read⟩

theorem readSeparator_local {α : Type} {separator stop : Char} {index : Nat} {inner : Parser α}
    (other : separator ≠ stop) (base : Local stop inner) :
    Local stop (readSeparator separator index inner) := by
  cases index with
  | zero => exact base
  | succ index =>
    intro input later
    simp only [readSeparator, Nat.succ_ne_zero, if_false, (readGivenChar_local other).bind_apply,
      extend, base _ _, Option.map_bind, Function.comp_def]

/-- The four octets in decimal, with dots between them. -/
def dotted (a b c d : Nat) : List Char :=
  Nat.toDigits 10 a ++ '.' :: (Nat.toDigits 10 b ++ '.' :: (Nat.toDigits 10 c ++ '.' :: Nat.toDigits 10 d))

theorem Ipv4Addr.toList_display {a b c d : UInt8} (size : [a, b, c, d].length = 4) :
    (Ipv4Addr.display ⟨[a, b, c, d], size⟩).toList = dotted a.toNat b.toNat c.toNat d.toNat := by
  simp [Ipv4Addr.display, dotted]

theorem octet_short : ∀ value ≤ 255, ∀ most ∈ some 3, (Nat.toDigits 10 value).length ≤ most := by
  rintro value small most ⟨⟩
  exact (Nat.length_toDigits_le_iff (by decide) (by decide)).mpr (by omega)

theorem readOctet_zero_iff {input rest : List Char} {value : Nat} :
    readOctet 0 input = some (value, rest) ↔ value ≤ 255 ∧ input = Nat.toDigits 10 value ++ rest ∧
      ∀ c ∈ rest.head?, toDigit 10 c = none := by
  rw [readOctet, readSeparator_zero, readNumber_ten_iff octet_short]

theorem readOctet_succ_iff {index : Nat} {input rest : List Char} {value : Nat} :
    readOctet (index + 1) input = some (value, rest) ↔ value ≤ 255 ∧
      input = '.' :: (Nat.toDigits 10 value ++ rest) ∧ ∀ c ∈ rest.head?, toDigit 10 c = none := by
  rw [readOctet, readSeparator_succ_iff]
  constructor
  · rintro ⟨tail, rfl, read⟩
    obtain ⟨small, rfl, ends⟩ := (readNumber_ten_iff octet_short).mp read
    exact ⟨small, rfl, ends⟩
  · rintro ⟨small, rfl, ends⟩
    exact ⟨_, rfl, (readNumber_ten_iff octet_short).mpr ⟨small, rfl, ends⟩⟩

theorem readOctet_local {stop : Char} (outside : toDigit 10 stop = none) (dot : '.' ≠ stop) (index : Nat) :
    Local stop (readOctet index) :=
  readSeparator_local dot (readNumber_local outside)

theorem readIpv4Addr_local {stop : Char} (outside : toDigit 10 stop = none) (dot : '.' ≠ stop) :
    Local stop readIpv4Addr := by
  intro input later
  simp only [readIpv4Addr, Option.bind_eq_bind, (readOctet_local outside dot _).bind_apply, extend,
    Option.map_bind, Function.comp_def, Option.map_some]

/-- An IPv4 address is read from its printed text only. -/
theorem readIpv4Addr_iff {input rest : List Char} {address : Ipv4Addr} :
    readIpv4Addr input = some (address, rest) ↔
      input = address.display.toList ++ rest ∧ ∀ c ∈ rest.head?, toDigit 10 c = none := by
  unfold readIpv4Addr
  simp only [Option.bind_eq_bind, Option.bind_eq_some_iff, Prod.exists]
  constructor
  · rintro ⟨a, _, first, b, _, second, c, _, third, d, _, fourth, same⟩
    obtain ⟨smallA, rfl, _⟩ := readOctet_zero_iff.mp first
    obtain ⟨smallB, rfl, _⟩ := readOctet_succ_iff.mp second
    obtain ⟨smallC, rfl, _⟩ := readOctet_succ_iff.mp third
    obtain ⟨smallD, rfl, ends⟩ := readOctet_succ_iff.mp fourth
    obtain ⟨rfl, rfl⟩ := Prod.mk.inj (Option.some.inj same)
    have byte {value : Nat} (small : value ≤ 255) : (UInt8.ofNat value).toNat = value := by
      rw [UInt8.toNat_ofNat', Nat.mod_eq_of_lt (by omega)]
    refine ⟨?_, ends⟩
    simp only [List.map_cons, List.map_nil, Ipv4Addr.toList_display, byte smallA, byte smallB,
      byte smallC, byte smallD, dotted, List.append_assoc, List.cons_append]
  · rintro ⟨rfl, ends⟩
    obtain ⟨octets, size⟩ := address
    obtain ⟨a, b, c, d, rfl⟩ := List.length_eq_four.mp size
    have bound (octet : UInt8) : octet.toNat ≤ 255 := by
      have := octet.toNat_lt
      omega
    have dot (rest : List Char) : ∀ c ∈ ('.' :: rest).head?, toDigit 10 c = none := by
      rintro c ⟨⟩
      rfl
    rw [Ipv4Addr.toList_display, dotted]
    simp only [List.append_assoc, List.cons_append]
    refine ⟨a.toNat, _, readOctet_zero_iff.mpr ⟨bound a, rfl, dot _⟩,
      b.toNat, _, readOctet_succ_iff.mpr ⟨bound b, rfl, dot _⟩,
      c.toNat, _, readOctet_succ_iff.mpr ⟨bound c, rfl, dot _⟩,
      d.toNat, _, readOctet_succ_iff.mpr ⟨bound d, rfl, ends⟩, ?_⟩
    simp

/-- Digits and dots are all that is printed. -/
theorem Ipv4Addr.display_chars (address : Ipv4Addr) :
    ∀ c ∈ address.display.toList, (toDigit 10 c).isSome = true ∨ c = '.' := by
  obtain ⟨octets, size⟩ := address
  obtain ⟨a, b, c, d, rfl⟩ := List.length_eq_four.mp size
  have digit (octet : UInt8) : ∀ c ∈ Nat.toDigits 10 octet.toNat, (toDigit 10 c).isSome = true ∨ c = '.' :=
    fun c member => Or.inl (toDigits_numeric (by decide) (by decide) c member)
  intro symbol member
  rw [toList_display, dotted] at member
  simp only [List.mem_append, List.mem_cons] at member
  rcases member with first | dot | second | dot | third | dot | fourth
  · exact digit a symbol first
  · exact Or.inr dot
  · exact digit b symbol second
  · exact Or.inr dot
  · exact digit c symbol third
  · exact Or.inr dot
  · exact digit d symbol fourth

/-- Where a colon or the end comes before any dot, no IPv4 address can be read. -/
theorem readIpv4Addr_eq_none {before after : List Char} (dotless : '.' ∉ before)
    (next : after = [] ∨ ∃ rest, after = ':' :: rest) : readIpv4Addr (before ++ after) = none := by
  cases read : readIpv4Addr (before ++ after) with
  | none => rfl
  | some scanned =>
    obtain ⟨address, rest⟩ := scanned
    obtain ⟨octets, size⟩ := address
    obtain ⟨a, b, c, d, rfl⟩ := List.length_eq_four.mp size
    obtain ⟨same, _⟩ := readIpv4Addr_iff.mp read
    rw [Ipv4Addr.toList_display, dotted, List.append_assoc, List.cons_append] at same
    have colonless : ':' ∉ Nat.toDigits 10 a.toNat := fun member =>
      absurd (toDigits_numeric (by decide) (by decide) ':' member) (by decide)
    -- the dot after the first number cannot stand where the dotless part stops
    have undotted : ∀ tail : List Char, after ≠ '.' :: tail := by
      rintro tail rfl
      rcases next with next | ⟨rest, next⟩
      · contradiction
      · exact absurd (List.cons.inj next).1 (by decide)
    rcases List.append_eq_append_iff.mp same with ⟨middle, first, later⟩ | ⟨middle, rfl, later⟩
    · cases middle with
      | nil => exact absurd later (undotted _)
      | cons symbol middle =>
        rcases next with rfl | ⟨tail, rfl⟩
        · contradiction
        · obtain ⟨rfl, _⟩ := List.cons.inj later
          exact absurd (first ▸ by simp) colonless
    · cases middle with
      | nil => exact absurd later.symm (undotted _)
      | cons symbol middle =>
        obtain ⟨rfl, _⟩ := List.cons.inj later
        exact absurd (by simp) dotless

end SingQuic.Net
