import SingQuic.Error
import SingQuic.Net.Digits

/-! Destination addresses: a host that is either an IP literal or a name, and a
port. Both constructors of the source refuse an empty host, so the type does. -/
namespace SingQuic
open Wire Net

structure Address where
  host : String
  port : UInt16
  nonempty : host ≠ ""
  deriving DecidableEq, Repr

namespace Address

def new (host : String) (port : UInt16) : Result Address :=
  if nonempty : host ≠ "" then .ok ⟨host, port, nonempty⟩ else .error .invalidAddress

/-- `From<SocketAddr>`. -/
def ofSocketAddr (value : SocketAddr) : Address :=
  ⟨value.ip.display, value.port, value.ip.display_ne_empty⟩

/-- `str::rsplit_once`: the text before and after the last separator. -/
def rsplitOnce (separator : Char) (text : List Char) : Option (List Char × List Char) :=
  let after := text.reverse.takeWhile (· ≠ separator)
  if after.length = text.length then none
  else some ((text.reverse.drop (after.length + 1)).reverse, after.reverse)

/-- The host without one enclosing pair of brackets, if it has the whole pair. -/
def stripBrackets (host : List Char) : List Char :=
  match host with
  | '[' :: rest => if rest.getLast? = some ']' then rest.dropLast else host
  | _ => host

/-- `from_str` of the unsigned types: an optional plus sign and at least one
decimal digit, up to the type's maximum. -/
def parseUnsigned (maximum : Nat) (text : List Char) : Option Nat :=
  let digits := match text with
    | '+' :: rest => rest
    | _ => text
  let value := digitsValue 10 digits
  if digits ≠ [] ∧ digits.all (fun c => (toDigit 10 c).isSome) ∧ value ≤ maximum then some value
  else none

def parsePort (text : List Char) : Option UInt16 := (parseUnsigned 65535 text).map UInt16.ofNat

def fromStr (value : String) : Result Address :=
  match SocketAddr.parse value with
  | some socket => .ok (ofSocketAddr socket)
  | none =>
    match rsplitOnce ':' value.toList with
    | none => .error .invalidAddress
    | some (host, port) =>
      match parsePort port with
      | none => .error .invalidAddress
      | some port => new (String.ofList (stripBrackets host)) port

def display (address : Address) : String :=
  if ':' ∈ address.host.toList then "[" ++ address.host ++ "]:" ++ toString address.port.toNat
  else address.host ++ ":" ++ toString address.port.toNat

/-- The text form names the address it was printed from. -/
def RoundTrips (address : Address) : Prop := fromStr address.display = .ok address

instance (address : Address) : Decidable address.RoundTrips :=
  inferInstanceAs (Decidable (_ = _))

example : RoundTrips ⟨"example.com", 443, by decide⟩ := by decide
example : RoundTrips ⟨"2001:db8::1", 8443, by decide⟩ := by decide

/-- A printed number is read back, up to the type's maximum. -/
theorem parseUnsigned_toString {maximum value : Nat} (small : value ≤ maximum) :
    parseUnsigned maximum (toString value).toList = some value := by
  have digits : ∀ c ∈ Nat.toDigits 10 value, (toDigit 10 c).isSome = true :=
    toDigits_numeric (by decide) (by decide)
  have unsigned : ∀ rest, Nat.toDigits 10 value ≠ '+' :: rest := by
    intro rest same
    have plus := digits '+' (by simp [same])
    contradiction
  have number : digitsValue 10 (Nat.toDigits 10 value) = value :=
    digitsValue_toDigits (by decide) (by decide) value
  have numeric : (Nat.toDigits 10 value).all (fun c => (toDigit 10 c).isSome) = true :=
    List.all_eq_true.mpr digits
  rw [Nat.toString_eq_repr, Nat.toList_repr, parseUnsigned]
  · rw [number, if_pos ⟨Nat.toDigits_ne_nil, numeric, small⟩]
  · exact unsigned

theorem rsplitOnce_append {separator : Char} {before after : List Char} (free : separator ∉ after) :
    rsplitOnce separator (before ++ separator :: after) = some (before, after) := by
  have taken : (before ++ separator :: after).reverse.takeWhile (· ≠ separator) = after.reverse := by
    rw [List.reverse_append, List.reverse_cons, List.append_assoc]
    rw [List.takeWhile_append_of_pos (by
      intro c member
      have : c ≠ separator := fun same => free (same ▸ List.mem_reverse.mp member)
      simpa using this)]
    simp
  have rest : (before ++ separator :: after).reverse.drop (after.reverse.length + 1) = before.reverse := by
    rw [List.reverse_append, List.reverse_cons, List.append_assoc, List.drop_length_add_append]
    rfl
  rw [rsplitOnce, taken, if_neg (by simp; omega), rest, List.reverse_reverse, List.reverse_reverse]

theorem parsePort_toString (port : UInt16) : parsePort (toString port.toNat).toList = some port := by
  have bound := port.toNat_lt
  rw [parsePort, parseUnsigned_toString (by omega), Option.map_some, UInt16.ofNat_toNat]

theorem colon_notMem_toString (value : Nat) : ':' ∉ (toString value).toList := by
  rw [Nat.toString_eq_repr, Nat.toList_repr]
  intro member
  have digit := Nat.isDigit_of_mem_toDigits (by omega) (by omega) member
  contradiction

/-- The host as it is printed before the colon and the port. -/
def shown (host : List Char) : List Char := if ':' ∈ host then '[' :: host ++ [']'] else host

theorem toList_display (address : Address) : address.display.toList =
    shown address.host.toList ++ ':' :: (toString address.port.toNat).toList := by
  unfold display shown
  split <;> simp

theorem stripBrackets_enclosed (host : List Char) : stripBrackets ('[' :: host ++ [']']) = host := by
  simp [stripBrackets]

/-- Nothing but an empty pair of brackets is stripped to nothing. -/
theorem stripBrackets_shown {host : List Char} (nonempty : host ≠ []) (odd : host ≠ ['[', ']']) :
    stripBrackets (shown host) ≠ [] := by
  unfold shown
  split
  · rw [stripBrackets_enclosed]
    exact nonempty
  · unfold stripBrackets
    split
    · rename_i rest plain
      split
      · rename_i closed
        intro empty
        have single : rest = [']'] := by
          rw [← List.dropLast_append_getLast? _ closed, empty, List.nil_append]
        exact odd (by rw [single])
      · exact nonempty
    · exact nonempty

/-- A text that names no address is refused with one and the same error. -/
theorem fromStr_error {text : String} {error : Error} (refused : fromStr text = .error error) :
    error = .invalidAddress := by
  unfold fromStr new at refused
  split at refused
  · contradiction
  split at refused
  · exact (Except.error.inj refused).symm
  split at refused
  · exact (Except.error.inj refused).symm
  split at refused
  · contradiction
  · exact (Except.error.inj refused).symm

/-- Every printed address but one parses, though not always to itself. -/
theorem fromStr_display {address : Address} (odd : address.host ≠ "[]") :
    ∃ read, fromStr address.display = .ok read := by
  unfold fromStr
  cases SocketAddr.parse address.display with
  | some socket => exact ⟨_, rfl⟩
  | none =>
    have characters : address.host.toList ≠ ['[', ']'] := by
      intro same
      exact odd (String.toList_injective same)
    have nonempty : address.host.toList ≠ [] := by
      simpa using address.nonempty
    have left : String.ofList (stripBrackets (shown address.host.toList)) ≠ "" := by
      intro empty
      exact stripBrackets_shown nonempty characters (by simpa using congrArg String.toList empty)
    rw [toList_display, rsplitOnce_append (colon_notMem_toString _)]
    simp only [parsePort_toString, new, dif_pos left]
    exact ⟨_, rfl⟩

/-- The host of an empty pair of brackets is printed but not read back. -/
theorem fromStr_display_brackets {address : Address} (odd : address.host = "[]") :
    fromStr address.display = .error .invalidAddress := by
  have text : address.display.toList = '[' :: ']' :: ':' :: (toString address.port.toNat).toList := by
    rw [toList_display, odd]
    rfl
  have literal : SocketAddr.parse address.display = none := by
    rw [SocketAddr.parse, parseWith, text]
    rfl
  have split : rsplitOnce ':' address.display.toList =
      some (['[', ']'], (toString address.port.toNat).toList) := by
    rw [toList_display, rsplitOnce_append (colon_notMem_toString _), odd]
    rfl
  rw [fromStr, literal, split]
  simp only [parsePort_toString]
  rfl

end Address

/-- `str::as_bytes`. -/
def asBytes (text : String) : Bytes := text.toByteArray.data.toList

/-- `str::from_utf8` and `String::from_utf8`. -/
def fromUtf8 (bytes : Bytes) : Option String := String.fromUTF8? ⟨bytes.toArray⟩

@[simp] theorem fromUtf8_asBytes (text : String) : fromUtf8 (asBytes text) = some text := by
  have whole : (⟨(asBytes text).toArray⟩ : ByteArray) = text.toByteArray := by
    simp [asBytes]
  simp only [fromUtf8, whole, String.fromUTF8?, text.isValidUTF8, dite_true, String.fromUTF8]

theorem fromUtf8_eq_some_iff {bytes : Bytes} {text : String} :
    fromUtf8 bytes = some text ↔ bytes = asBytes text := by
  constructor
  · intro decoded
    simp only [fromUtf8, String.fromUTF8?] at decoded
    split at decoded
    · obtain rfl := Option.some.inj decoded
      rfl
    · contradiction
  · rintro rfl
    exact fromUtf8_asBytes text

theorem asBytes_eq (text : String) : asBytes text = text.toList.flatMap String.utf8EncodeChar := by
  rw [asBytes, ← String.utf8Encode_toList, List.utf8Encode]
  simp

end SingQuic
