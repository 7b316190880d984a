import Mathlib.Data.UInt

/-! Decoding of bytes that may not be UTF-8: each maximal ill-formed part becomes one
replacement character, and well-formed text comes back unchanged. -/
namespace Utf8

def replacement : Char := Char.ofNat 0xfffd

def isContinuation (byte : UInt8) : Bool := decide (0x80 ≤ byte.toNat ∧ byte.toNat ≤ 0xbf)

/-- What may follow the lead byte of three or four: no overlong form, no surrogate
and nothing past the last scalar. -/
def admits (lead byte : Nat) : Bool :=
  decide (
    (lead = 0xe0 ∧ 0xa0 ≤ byte ∧ byte ≤ 0xbf) ∨
    (0xe1 ≤ lead ∧ lead ≤ 0xec ∧ 0x80 ≤ byte ∧ byte ≤ 0xbf) ∨
    (lead = 0xed ∧ 0x80 ≤ byte ∧ byte ≤ 0x9f) ∨
    (0xee ≤ lead ∧ lead ≤ 0xef ∧ 0x80 ≤ byte ∧ byte ≤ 0xbf) ∨
    (lead = 0xf0 ∧ 0x90 ≤ byte ∧ byte ≤ 0xbf) ∨
    (0xf1 ≤ lead ∧ lead ≤ 0xf3 ∧ 0x80 ≤ byte ∧ byte ≤ 0xbf) ∨
    (lead = 0xf4 ∧ 0x80 ≤ byte ∧ byte ≤ 0x8f))

/-- The number of bytes a lead byte announces, zero for one that cannot lead. -/
def width (lead : Nat) : Nat :=
  if lead < 0x80 then 1
  else if 0xc2 ≤ lead ∧ lead ≤ 0xdf then 2
  else if 0xe0 ≤ lead ∧ lead ≤ 0xef then 3
  else if 0xf0 ≤ lead ∧ lead ≤ 0xf4 then 4
  else 0

/-- Six more bits of a scalar. -/
def shiftIn (value : Nat) (byte : UInt8) : Nat := value * 64 + byte.toNat % 64

/-- The character at the front, and how many of the bytes after the first belong
to it. -/
def next (first : UInt8) (rest : List UInt8) : Char × Nat :=
  let lead := first.toNat
  match width lead, rest with
  | 1, _ => (Char.ofNat lead, 0)
  | 2, second :: _ =>
    if isContinuation second then (Char.ofNat (shiftIn (lead % 32) second), 1) else (replacement, 0)
  | 3, second :: third :: _ =>
    if !admits lead second.toNat then (replacement, 0)
    else if !isContinuation third then (replacement, 1)
    else (Char.ofNat (shiftIn (shiftIn (lead % 16) second) third), 2)
  | 3, [second] => (replacement, if admits lead second.toNat then 1 else 0)
  | 4, second :: third :: fourth :: _ =>
    if !admits lead second.toNat then (replacement, 0)
    else if !isContinuation third then (replacement, 1)
    else if !isContinuation fourth then (replacement, 2)
    else (Char.ofNat (shiftIn (shiftIn (shiftIn (lead % 8) second) third) fourth), 3)
  | 4, [second, third] =>
    (replacement, if !admits lead second.toNat then 0 else if !isContinuation third then 1 else 2)
  | 4, [second] => (replacement, if admits lead second.toNat then 1 else 0)
  | _, _ => (replacement, 0)

/-- The characters of a byte string from which the first bytes are still to be dropped. -/
def lossy : (skip : Nat) → List UInt8 → List Char
  | _, [] => []
  | skip + 1, _ :: rest => lossy skip rest
  | 0, first :: rest => (next first rest).1 :: lossy (next first rest).2 rest

theorem lossy_append (dropped rest : List UInt8) : lossy dropped.length (dropped ++ rest) = lossy 0 rest := by
  induction dropped with
  | nil => rfl
  | cons byte dropped ih => exact ih

theorem toNat_ofNat {value : Nat} (small : value < 256) : (UInt8.ofNat value).toNat = value := by
  rw [UInt8.toNat_ofNat', Nat.mod_eq_of_lt small]

theorem isContinuation_ofNat (value : Nat) : isContinuation (UInt8.ofNat (value % 64 + 128)) = true := by
  rw [isContinuation, toNat_ofNat (by omega), decide_eq_true_eq]
  omega

theorem shiftIn_ofNat (high low : Nat) : shiftIn high (UInt8.ofNat (low % 64 + 128)) = high * 64 + low % 64 := by
  rw [shiftIn, toNat_ofNat (by omega)]
  omega

/-- An encoded character is read back, whatever follows. -/
theorem next_utf8EncodeChar (c : Char) (rest : List UInt8) : ∃ first tail,
    String.utf8EncodeChar c = first :: tail ∧ next first (tail ++ rest) = (c, tail.length) := by
  have scalar : c.val.toNat < 55296 ∨ 57343 < c.val.toNat ∧ c.val.toNat < 1114112 := c.valid
  have whole : Char.ofNat c.val.toNat = c := Char.ofNat_toNat c
  unfold String.utf8EncodeChar
  generalize c.val.toNat = v at scalar whole
  dsimp only
  by_cases one : v ≤ 0x7f
  · rw [if_pos one]
    refine ⟨_, _, rfl, ?_⟩
    have lead : (UInt8.ofNat v).toNat = v := toNat_ofNat (by omega)
    have size : width v = 1 := if_pos (by omega)
    simp only [next, lead, size, whole, List.length_nil]
  rw [if_neg one]
  by_cases two : v ≤ 0x7ff
  · rw [if_pos two]
    refine ⟨_, _, rfl, ?_⟩
    have lead : (UInt8.ofNat (v / 64 % 0x20 + 0xc0)).toNat = v / 64 + 0xc0 := by
      rw [toNat_ofNat (by omega)]
      omega
    have size : width (v / 64 + 0xc0) = 2 := by
      rw [width, if_neg (by omega), if_pos (by omega)]
    have value : shiftIn ((v / 64 + 0xc0) % 32) (UInt8.ofNat (v % 64 + 128)) = v := by
      rw [shiftIn_ofNat]
      omega
    simp only [next, lead, size, List.cons_append, isContinuation_ofNat, if_true, value, whole,
      List.length_cons, List.length_nil]
  rw [if_neg two]
  by_cases three : v ≤ 0xffff
  · rw [if_pos three]
    refine ⟨_, _, rfl, ?_⟩
    have lead : (UInt8.ofNat (v / 4096 % 0x10 + 0xe0)).toNat = v / 4096 + 0xe0 := by
      rw [toNat_ofNat (by omega)]
      omega
    have size : width (v / 4096 + 0xe0) = 3 := by
      rw [width, if_neg (by omega), if_neg (by omega), if_pos (by omega)]
    have second : admits (v / 4096 + 0xe0) (UInt8.ofNat (v / 64 % 64 + 128)).toNat = true := by
      rw [toNat_ofNat (by omega), admits, decide_eq_true_eq]
      omega
    have value : shiftIn (shiftIn ((v / 4096 + 0xe0) % 16) (UInt8.ofNat (v / 64 % 64 + 128)))
        (UInt8.ofNat (v % 64 + 128)) = v := by
      rw [shiftIn_ofNat, shiftIn_ofNat]
      omega
    simp only [next, lead, size, List.cons_append, second, isContinuation_ofNat, Bool.not_true,
      Bool.false_eq_true, if_false, value, whole, List.length_cons, List.length_nil]
  · rw [if_neg three]
    refine ⟨_, _, rfl, ?_⟩
    have lead : (UInt8.ofNat (v / 262144 % 0x08 + 0xf0)).toNat = v / 262144 + 0xf0 := by
      rw [toNat_ofNat (by omega)]
      omega
    have size : width (v / 262144 + 0xf0) = 4 := by
      rw [width, if_neg (by omega), if_neg (by omega), if_neg (by omega), if_pos (by omega)]
    have second : admits (v / 262144 + 0xf0) (UInt8.ofNat (v / 4096 % 64 + 128)).toNat = true := by
      rw [toNat_ofNat (by omega), admits, decide_eq_true_eq]
      omega
    have value : shiftIn (shiftIn (shiftIn ((v / 262144 + 0xf0) % 8)
        (UInt8.ofNat (v / 4096 % 64 + 128))) (UInt8.ofNat (v / 64 % 64 + 128)))
        (UInt8.ofNat (v % 64 + 128)) = v := by
      rw [shiftIn_ofNat, shiftIn_ofNat, shiftIn_ofNat]
      omega
    simp only [next, lead, size, List.cons_append, second, isContinuation_ofNat, Bool.not_true,
      Bool.false_eq_true, if_false, value, whole, List.length_cons, List.length_nil]

/-- Well-formed text is decoded to itself. -/
theorem lossy_flatMap (characters : List Char) :
    lossy 0 (characters.flatMap String.utf8EncodeChar) = characters := by
  induction characters with
  | nil => rfl
  | cons c rest ih =>
    obtain ⟨first, tail, encoded, read⟩ := next_utf8EncodeChar c (rest.flatMap String.utf8EncodeChar)
    rw [List.flatMap_cons, encoded, List.cons_append, lossy, read, lossy_append, ih]

end Utf8
