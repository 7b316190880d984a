import SingQuic.Qpack.PrefixString
import SingQuic.Qpack.StaticTable

/-! The representations of a header block, as far as a codec without a dynamic table meets
them. The first bits of a field line tell which one follows. -/
namespace SingQuic.Qpack
open Wire

/-- `usize::MAX` where addresses have 64 bits. -/
def usizeMax : Nat := 2 ^ 64 - 1

inductive ParseError where
  | integer (error : PrefixInt.Error)
  | string (error : PrefixString.Error)
  | invalidPrefix (flags : UInt8)
  | invalidBase (base : Int)
  deriving DecidableEq, Repr

/-- The check of every number that becomes an index. -/
def toUsize (value : Nat) : Except ParseError Nat :=
  if usizeMax < value then .error (.integer .overflow) else .ok value

inductive HeaderBlockField where
  | indexed
  | indexedWithPostBase
  | literalWithNameRef
  | literalWithPostBaseNameRef
  | literal
  | unknown
  deriving DecidableEq, Repr

def HeaderBlockField.decode (first : UInt8) : HeaderBlockField :=
  if first &&& 0b1000_0000 ≠ 0 then .indexed
  else if first &&& 0b1111_0000 = 0b0001_0000 then .indexedWithPostBase
  else if first &&& 0b1100_0000 = 0b0100_0000 then .literalWithNameRef
  else if first &&& 0b1111_0000 = 0 then .literalWithPostBaseNameRef
  else if first &&& 0b1110_0000 = 0b0010_0000 then .literal
  else .unknown

structure HeaderPrefix where
  encodedInsertCount : Nat
  signNegative : Bool
  deltaBase : Nat
  deriving DecidableEq, Repr

namespace HeaderPrefix

/-- Without a table every prefix is the same. With one, an insert count above the inserted total
panics. -/
def new (required base totalInserted maxTableSize : Nat) : Option HeaderPrefix :=
  if maxTableSize = 0 then some ⟨0, false, 0⟩
  else if required = 0 then some ⟨0, false, 0⟩
  else if totalInserted < required then none
  else
    let (signNegative, deltaBase) :=
      if base < required then (true, required - base - 1) else (false, base - required)
    let maxEntries := maxTableSize / 32
    some ⟨required % (2 * maxEntries) + 1, signNegative, deltaBase⟩

/-- Without a table nothing is required, whatever the prefix says. -/
def get (self : HeaderPrefix) (totalInserted maxTableSize : Nat) : Except ParseError (Nat × Nat) :=
  if maxTableSize = 0 then .ok (0, 0)
  else
    let required :=
      if self.encodedInsertCount = 0 then 0
      else
        let insertCount := self.encodedInsertCount - 1
        let maxEntries := maxTableSize / 32
        let wrapped := totalInserted % (2 * maxEntries)
        if insertCount + maxEntries ≤ wrapped then insertCount + 2 * maxEntries + totalInserted - wrapped
        else if wrapped + maxEntries < insertCount then
          insertCount + totalInserted - (wrapped + 2 * maxEntries)
        else insertCount + totalInserted - wrapped
    if required = 0 then .ok (required, 0)
    else if !self.signNegative then .ok (required, required + self.deltaBase)
    else if required < self.deltaBase + 1 then
      .error (.invalidBase ((required : Int) - self.deltaBase - 1))
    else .ok (required, required - self.deltaBase - 1)

def decode (buf : Bytes) : Except ParseError (HeaderPrefix × Bytes) := do
  let ((_, encodedInsertCount), buf) ← (PrefixInt.decode 8 buf).mapError .integer
  let ((signNegative, deltaBase), buf) ← (PrefixInt.decode 7 buf).mapError .integer
  let encodedInsertCount ← toUsize encodedInsertCount
  let deltaBase ← toUsize deltaBase
  .ok (⟨encodedInsertCount, signNegative = 1, deltaBase⟩, buf)

def encode (self : HeaderPrefix) : Bytes :=
  let signBit := if self.signNegative then 1 else 0
  PrefixInt.encode 8 0 self.encodedInsertCount ++ PrefixInt.encode 7 signBit self.deltaBase

end HeaderPrefix

inductive Indexed where
  | static (index : Nat)
  | dynamic (index : Nat)
  deriving DecidableEq, Repr

namespace Indexed

def decode (buf : Bytes) : Except ParseError (Indexed × Bytes) := do
  let ((flags, index), buf) ← (PrefixInt.decode 6 buf).mapError .integer
  if flags = 0b11 then do
    let index ← toUsize index
    .ok (.static index, buf)
  else if flags = 0b10 then do
    let index ← toUsize index
    .ok (.dynamic index, buf)
  else .error (.invalidPrefix flags)

def encode : Indexed → Bytes
  | .static index => PrefixInt.encode 6 0b11 index
  | .dynamic index => PrefixInt.encode 6 0b10 index

end Indexed

inductive LiteralWithNameRef where
  | static (index : Nat) (value : Bytes)
  | dynamic (index : Nat) (value : Bytes)
  deriving DecidableEq, Repr

namespace LiteralWithNameRef

def decode (buf : Bytes) : Except ParseError (LiteralWithNameRef × Bytes) := do
  let ((flags, index), buf) ← (PrefixInt.decode 4 buf).mapError .integer
  if flags &&& 0b0101 = 0b0101 then do
    let index ← toUsize index
    let (value, buf) ← (PrefixString.decode 8 buf).mapError .string
    .ok (.static index value, buf)
  else if flags &&& 0b0101 = 0b0100 then do
    let index ← toUsize index
    let (value, buf) ← (PrefixString.decode 8 buf).mapError .string
    .ok (.dynamic index value, buf)
  else .error (.invalidPrefix flags)

def encode : LiteralWithNameRef → Bytes
  | .static index value => PrefixInt.encode 4 0b0101 index ++ PrefixString.encode 8 0 value
  | .dynamic index value => PrefixInt.encode 4 0b0100 index ++ PrefixString.encode 8 0 value

end LiteralWithNameRef

structure Literal where
  name : Bytes
  value : Bytes
  deriving DecidableEq, Repr

namespace Literal

def decode (buf : Bytes) : Except ParseError (Literal × Bytes) := do
  match buf with
  | [] => .error (.integer .unexpectedEnd)
  | first :: _ =>
    if first &&& 0b1110_0000 ≠ 0b0010_0000 then .error (.invalidPrefix first)
    else do
      let (name, buf) ← (PrefixString.decode 4 buf).mapError .string
      let (value, buf) ← (PrefixString.decode 8 buf).mapError .string
      .ok (⟨name, value⟩, buf)

def encode (self : Literal) : Bytes :=
  PrefixString.encode 4 0b0010 self.name ++ PrefixString.encode 8 0 self.value

end Literal

section inversion
variable {ε δ α β : Type}

theorem bind_ok {first : Except ε α} {next : α → Except ε β} {result : β} :
    (first >>= next) = .ok result ↔ ∃ value, first = .ok value ∧ next value = .ok result := by
  cases first <;> simp [bind, Except.bind]

theorem mapError_ok {first : Except δ α} {convert : δ → ε} {result : α} :
    first.mapError convert = .ok result ↔ first = .ok result := by
  cases first <;> simp [Except.mapError]

end inversion

theorem toUsize_ok {value : Nat} (bound : value ≤ usizeMax) : toUsize value = .ok value :=
  if_neg (Nat.not_lt.mpr bound)

theorem PrefixInt.length_decodeTail {buf rest : Bytes} {value power result : Nat}
    (read : decodeTail value power buf = .ok (result, rest)) : rest.length < buf.length := by
  induction buf generalizing value power with
  | nil => cases read
  | cons byte buf ih =>
    rw [decodeTail] at read
    split at read
    · obtain ⟨_, rfl⟩ := Prod.mk.inj (Except.ok.inj read)
      exact Nat.lt_succ_self _
    · split at read
      · cases read
      · exact Nat.lt_succ_of_lt (ih read)

/-- Every reader takes a byte at least. -/
theorem PrefixInt.length_decode {size : Nat} {buf rest : Bytes} {result : UInt8 × Nat}
    (read : decode size buf = .ok (result, rest)) : rest.length < buf.length := by
  cases buf with
  | nil => cases read
  | cons first buf =>
    simp only [decode, getByte, bind_ok, Except.ok.injEq, exists_eq_left'] at read
    split at read
    · obtain ⟨_, rfl⟩ := Prod.mk.inj (Except.ok.inj read)
      exact Nat.lt_succ_self _
    · obtain ⟨⟨value, after⟩, tail, done⟩ := bind_ok.mp read
      obtain ⟨_, rfl⟩ := Prod.mk.inj (Except.ok.inj done)
      exact Nat.lt_succ_of_lt (length_decodeTail tail)

theorem PrefixString.length_decode {size : Nat} {buf rest : Bytes} {value : Bytes}
    (read : decode size buf = .ok (value, rest)) : rest.length < buf.length := by
  rw [decode, bind_ok] at read
  obtain ⟨⟨⟨flags, len⟩, after⟩, number, read⟩ := read
  have shorter := PrefixInt.length_decode (mapError_ok.mp number)
  have tail : (after.drop len).length ≤ after.length := by
    rw [List.length_drop]
    exact Nat.sub_le ..
  dsimp only at read
  split at read
  · cases read
  · split at read
    · obtain ⟨_, rfl⟩ := Prod.mk.inj (Except.ok.inj read)
      omega
    · obtain ⟨decoded, _, done⟩ := bind_ok.mp read
      obtain ⟨_, rfl⟩ := Prod.mk.inj (Except.ok.inj done)
      omega

/-- The first byte of a number carries the flags. -/
theorem PrefixInt.encode_head (size : Nat) (flags : UInt8) (bound : size ≤ 8)
    (fits : flags.toNat < 2 ^ (8 - size)) (value : Nat) :
    ∃ first tail, encode size flags value = first :: tail ∧
      UInt8.ofNat (first.toNat >>> size) = flags := by
  simp only [encode, encode_mask bound]
  split
  · rename_i small
    exact ⟨_, [], rfl, (first_byte bound fits (Nat.le_of_lt small)).1⟩
  · refine ⟨_, _, rfl, ?_⟩
    rw [UInt8.or_comm]
    exact (first_byte bound fits (Nat.le_refl _)).1

end SingQuic.Qpack
