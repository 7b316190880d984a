import SingQuic.Lib.Scan
import SingQuic.Net.IpText
import Mathlib.Tactic.IntervalCases
import Mathlib.Tactic.SplitIfs

/-! Numerals: a printed number is read back, in decimal it is the only text that is read
so, and a number is read without regard to what follows its digits. -/
namespace SingQuic.Net
open Wire Scan

theorem toDigit_digitChar {radix digit : Nat} (narrow : radix ≤ 16) (small : digit < radix) :
    toDigit radix digit.digitChar = some digit := by
  have value : ∀ digit < 16, (if '0' ≤ digit.digitChar ∧ digit.digitChar ≤ '9' then
      digit.digitChar.toNat - '0'.toNat
    else if 'a' ≤ digit.digitChar ∧ digit.digitChar ≤ 'z' then digit.digitChar.toNat - 'a'.toNat + 10
    else if 'A' ≤ digit.digitChar ∧ digit.digitChar ≤ 'Z' then digit.digitChar.toNat - 'A'.toNat + 10
    else radix) = digit := by
    intro digit small
    interval_cases digit <;> rfl
  unfold toDigit
  rw [value digit (by omega)]
  exact if_pos small

theorem mem_toDigits {radix value : Nat} {c : Char} (wide : 1 < radix)
    (member : c ∈ Nat.toDigits radix value) : ∃ digit < radix, c = digit.digitChar := by
  induction value using Nat.strongRecOn with
  | ind value ih =>
    rw [Nat.toDigits_eq_if wide] at member
    split at member
    · rename_i small
      exact ⟨value, small, by simpa using member⟩
    · rename_i large
      rcases List.mem_append.mp member with before | last
      · exact ih (value / radix) (Nat.div_lt_self (by omega) wide) before
      · exact ⟨value % radix, Nat.mod_lt _ (by omega), by simpa using last⟩

theorem digitsValue_concat (radix : Nat) (digits : List Char) (c : Char) :
    digitsValue radix (digits ++ [c]) = digitsValue radix digits * radix + (toDigit radix c).getD 0 := by
  rw [digitsValue, List.foldl_append]
  rfl

theorem digitsValue_toDigits {radix : Nat} (wide : 1 < radix) (narrow : radix ≤ 16) (value : Nat) :
    digitsValue radix (Nat.toDigits radix value) = value := by
  induction value using Nat.strongRecOn with
  | ind value ih =>
    rw [Nat.toDigits_eq_if wide]
    split
    · rename_i small
      rw [digitsValue, List.foldl_cons, List.foldl_nil, toDigit_digitChar narrow small,
        Option.getD_some, Nat.zero_mul, Nat.zero_add]
    · rename_i large
      rw [digitsValue_concat, ih _ (Nat.div_lt_self (by omega) wide),
        toDigit_digitChar narrow (Nat.mod_lt _ (by omega)), Option.getD_some, Nat.div_add_mod']

theorem toDigits_numeric {radix value : Nat} (wide : 1 < radix) (narrow : radix ≤ 16) :
    ∀ c ∈ Nat.toDigits radix value, (toDigit radix c).isSome = true := by
  intro c member
  obtain ⟨digit, small, rfl⟩ := mem_toDigits wide member
  rw [toDigit_digitChar narrow small, Option.isSome_some]

/-- Only the number zero is printed with a zero in front. -/
theorem toDigits_head_zero {radix value : Nat} {rest : List Char} (wide : 1 < radix)
    (leading : Nat.toDigits radix value = '0' :: rest) : value = 0 := by
  induction value using Nat.strongRecOn generalizing rest with
  | ind value ih =>
    rw [Nat.toDigits_eq_if wide] at leading
    split at leading
    · exact Nat.digitChar_eq_zero.mp (List.cons.inj leading).1
    · rename_i large
      obtain ⟨c, front, same⟩ := List.exists_cons_of_ne_nil (Nat.toDigits_ne_nil (n := value / radix) (b := radix))
      rw [same, List.cons_append] at leading
      obtain ⟨rfl, _⟩ := List.cons.inj leading
      have zero := ih (value / radix) (Nat.div_lt_self (by omega) wide) same
      have positive : 0 < value / radix := Nat.div_pos (by omega) (by omega)
      omega

/-- The number a run of digits stands for, if the limits on it allow one. -/
def numberOf (radix : Nat) (maxDigits : Option Nat) (allowZeroPrefix : Bool) (limit : Nat)
    (digits : List Char) : Option Nat :=
  if digits = [] then none
  else if maxDigits.any (· < digits.length) then none
  else if !allowZeroPrefix && digits.head? == some '0' && 1 < digits.length then none
  else if limit < digitsValue radix digits then none
  else some (digitsValue radix digits)

section
variable {radix limit : Nat} {maxDigits : Option Nat} {allowZeroPrefix : Bool}

theorem readNumber_eq (input : List Char) : readNumber radix maxDigits allowZeroPrefix limit input =
    (numberOf radix maxDigits allowZeroPrefix limit
      (input.takeWhile fun c => (toDigit radix c).isSome)).map
      fun value => (value, input.dropWhile fun c => (toDigit radix c).isSome) := by
  unfold readNumber numberOf
  dsimp only
  rw [drop_takeWhile]
  generalize input.takeWhile (fun c => (toDigit radix c).isSome) = digits
  split_ifs <;> rfl

/-- A number is read as far as its digits go. -/
theorem readNumber_digits {digits rest : List Char}
    (numeric : ∀ c ∈ digits, (toDigit radix c).isSome = true)
    (ends : ∀ c ∈ rest.head?, toDigit radix c = none) :
    readNumber radix maxDigits allowZeroPrefix limit (digits ++ rest) =
      (numberOf radix maxDigits allowZeroPrefix limit digits).map fun value => (value, rest) := by
  have boundary : ∀ c ∈ rest.head?, (toDigit radix c).isSome = false := by
    intro c first
    rw [ends c first, Option.isSome_none]
  obtain ⟨taken, left⟩ := takeWhile_exact numeric boundary
  rw [readNumber_eq, taken, left]

theorem readNumber_local {stop : Char} (outside : toDigit radix stop = none) :
    Local stop (readNumber radix maxDigits allowZeroPrefix limit) := by
  intro input later
  have stops : (toDigit radix stop).isSome = false := by rw [outside, Option.isSome_none]
  obtain ⟨taken, left⟩ := takeWhile_stop (fun c => (toDigit radix c).isSome) stops input later
  rw [readNumber_eq, taken, left, readNumber_eq, Option.map_map]
  rfl

/-- What a number is read from: digits, and then something else. -/
theorem readNumber_eq_some {input rest : List Char} {value : Nat}
    (read : readNumber radix maxDigits allowZeroPrefix limit input = some (value, rest)) :
    ∃ digits, input = digits ++ rest ∧ (∀ c ∈ digits, (toDigit radix c).isSome = true) ∧
      (∀ c ∈ rest.head?, toDigit radix c = none) ∧
      numberOf radix maxDigits allowZeroPrefix limit digits = some value := by
  rw [readNumber_eq] at read
  obtain ⟨number, counted, same⟩ := Option.map_eq_some_iff.mp read
  obtain ⟨rfl, rfl⟩ := Prod.mk.inj same
  refine ⟨_, List.takeWhile_append_dropWhile.symm, ?_, ?_, counted⟩
  · intro c member
    have selected := List.mem_takeWhile_imp member
    exact selected
  · intro c first
    have outside := head_dropWhile _ input c first
    simpa using outside

theorem readNumber_takes :
    Takes (fun c => (toDigit radix c).isSome = true) (readNumber radix maxDigits allowZeroPrefix limit) := by
  intro input value rest read
  obtain ⟨digits, same, numeric, _, _⟩ := readNumber_eq_some read
  exact ⟨digits, same, numeric⟩

/-- Printed in the radix, a number within the limits is read back. -/
theorem numberOf_toDigits {value : Nat} (wide : 1 < radix) (narrow : radix ≤ 16) (small : value ≤ limit)
    (short : ∀ most ∈ maxDigits, (Nat.toDigits radix value).length ≤ most) :
    numberOf radix maxDigits allowZeroPrefix limit (Nat.toDigits radix value) = some value := by
  have digits : ¬ maxDigits.any (· < (Nat.toDigits radix value).length) = true := by
    cases maxDigits with
    | none => simp
    | some most =>
      have enough := short most rfl
      simpa using enough
  have leading : ¬ (!allowZeroPrefix && (Nat.toDigits radix value).head? == some '0' &&
      decide (1 < (Nat.toDigits radix value).length)) = true := by
    intro refused
    simp only [Bool.and_eq_true, beq_iff_eq, decide_eq_true_eq] at refused
    obtain ⟨⟨_, first⟩, long⟩ := refused
    obtain ⟨rest, same⟩ := List.head?_eq_some_iff.mp first
    obtain rfl := toDigits_head_zero wide same
    rw [Nat.toDigits_zero, List.length_singleton] at long
    omega
  rw [numberOf, if_neg Nat.toDigits_ne_nil, if_neg digits, if_neg leading,
    digitsValue_toDigits wide narrow, if_neg (by omega)]

theorem readNumber_toDigits {value : Nat} {rest : List Char} (wide : 1 < radix) (narrow : radix ≤ 16)
    (small : value ≤ limit) (short : ∀ most ∈ maxDigits, (Nat.toDigits radix value).length ≤ most)
    (ends : ∀ c ∈ rest.head?, toDigit radix c = none) :
    readNumber radix maxDigits allowZeroPrefix limit (Nat.toDigits radix value ++ rest) =
      some (value, rest) := by
  rw [readNumber_digits (toDigits_numeric wide narrow) ends,
    numberOf_toDigits wide narrow small short, Option.map_some]

end

/-- A decimal digit is the character its value is printed as. -/
theorem toDigit_ten {c : Char} {digit : Nat} (read : toDigit 10 c = some digit) :
    digit < 10 ∧ c = digit.digitChar := by
  have zero : '0'.toNat = 48 := rfl
  have nine : '9'.toNat = 57 := rfl
  unfold toDigit at read
  dsimp only at read
  split at read
  · rename_i bounds
    have low : 48 ≤ c.toNat := Char.le_def.mp bounds.1
    have high : c.toNat ≤ 57 := Char.le_def.mp bounds.2
    split at read
    · rename_i small
      obtain rfl := Option.some.inj read
      refine ⟨small, Char.toNat_inj.mp ?_⟩
      rw [Nat.toNat_digitChar_of_lt_ten small]
      omega
    · contradiction
  · -- letters stand for ten and more
    rw [if_neg (by split <;> [omega; split <;> omega])] at read
    contradiction

/-- Without a zero in front, a run of decimal digits is what its value is printed as. -/
theorem toDigits_digitsValue {digits : List Char} (numeric : ∀ c ∈ digits, (toDigit 10 c).isSome = true)
    (nonempty : digits ≠ []) (leading : digits.head? ≠ some '0') :
    0 < digitsValue 10 digits ∧ Nat.toDigits 10 (digitsValue 10 digits) = digits := by
  induction digits using List.reverseRecOn with
  | nil => exact absurd rfl nonempty
  | append_singleton digits c ih =>
    obtain ⟨digit, read⟩ := Option.isSome_iff_exists.mp (numeric c (by simp))
    obtain ⟨small, rfl⟩ := toDigit_ten read
    rw [digitsValue_concat, read, Option.getD_some]
    by_cases first : digits = []
    · subst digits
      have positive : digit ≠ 0 := by
        rintro rfl
        exact leading rfl
      have value : digitsValue 10 [] * 10 + digit = digit := by simp [digitsValue]
      rw [value, Nat.toDigits_of_lt_base small, List.nil_append]
      exact ⟨Nat.pos_of_ne_zero positive, rfl⟩
    · have front : digits.head? ≠ some '0' := by
        rwa [List.head?_append_of_ne_nil _ first] at leading
      obtain ⟨positive, same⟩ := ih (fun c member => numeric c (by simp [member])) first front
      refine ⟨by omega, ?_⟩
      rw [Nat.mul_comm, ← Nat.toDigits_append_toDigits (by decide) positive small, same,
        Nat.toDigits_of_lt_base small]

/-- Where a zero in front is refused, a decimal number is read from the text it is
printed as and from no other. -/
theorem readNumber_ten_iff {maxDigits : Option Nat} {limit value : Nat} {input rest : List Char}
    (short : ∀ value ≤ limit, ∀ most ∈ maxDigits, (Nat.toDigits 10 value).length ≤ most) :
    readNumber 10 maxDigits false limit input = some (value, rest) ↔
      value ≤ limit ∧ input = Nat.toDigits 10 value ++ rest ∧
        ∀ c ∈ rest.head?, toDigit 10 c = none := by
  constructor
  · intro read
    obtain ⟨digits, rfl, numeric, ends, counted⟩ := readNumber_eq_some read
    unfold numberOf at counted
    split at counted
    · contradiction
    rename_i nonempty
    split at counted
    · contradiction
    split at counted
    · contradiction
    rename_i allowed
    split at counted
    · contradiction
    rename_i within
    obtain rfl := Option.some.inj counted
    refine ⟨Nat.le_of_not_lt within, ?_, ends⟩
    congr 1
    by_cases leading : digits.head? = some '0'
    · obtain ⟨others, rfl⟩ := List.head?_eq_some_iff.mp leading
      have single : others = [] := by
        simpa [leading] using allowed
      subst others
      rfl
    · exact (toDigits_digitsValue numeric nonempty leading).2.symm
  · rintro ⟨small, rfl, ends⟩
    exact readNumber_toDigits (by decide) (by decide) small (short value small) ends

end SingQuic.Net
