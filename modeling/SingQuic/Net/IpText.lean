import SingQuic.Lib.Wire

/-! Text forms of IP and socket addresses, as the standard library of the source
language parses and prints them. A parser takes the characters still to be read
and returns its value with the characters after it; failure consumes nothing. -/
namespace SingQuic.Net
open Wire

structure Ipv4Addr where
  octets : Bytes
  size : octets.length = 4
  deriving DecidableEq, Repr

structure Ipv6Addr where
  octets : Bytes
  size : octets.length = 16
  deriving DecidableEq, Repr

inductive IpAddr where
  | v4 (address : Ipv4Addr)
  | v6 (address : Ipv6Addr)
  deriving DecidableEq, Repr

structure SocketAddr where
  ip : IpAddr
  port : UInt16
  deriving DecidableEq, Repr

abbrev Parser (α : Type) := List Char → Option (α × List Char)

def readGivenChar (target : Char) : Parser Unit
  | c :: rest => if c = target then some ((), rest) else none
  | [] => none

def toDigit (radix : Nat) (c : Char) : Option Nat :=
  let value :=
    if '0' ≤ c ∧ c ≤ '9' then c.toNat - '0'.toNat
    else if 'a' ≤ c ∧ c ≤ 'z' then c.toNat - 'a'.toNat + 10
    else if 'A' ≤ c ∧ c ≤ 'Z' then c.toNat - 'A'.toNat + 10
    else radix
  if value < radix then some value else none

def digitsValue (radix : Nat) (digits : List Char) : Nat :=
  digits.foldl (fun value c => value * radix + (toDigit radix c).getD 0) 0

/-- `read_number`: a maximal run of digits. Overflow past `limit`, too many
digits and, where disallowed, a leading zero are all failures of the number. -/
def readNumber (radix : Nat) (maxDigits : Option Nat) (allowZeroPrefix : Bool) (limit : Nat) :
    Parser Nat := fun input =>
  let digits := input.takeWhile fun c => (toDigit radix c).isSome
  let value := digitsValue radix digits
  if digits = [] then none
  else if maxDigits.any (· < digits.length) then none
  else if !allowZeroPrefix && digits.head? == some '0' && 1 < digits.length then none
  else if limit < value then none
  else some (value, input.drop digits.length)

def readSeparator (separator : Char) (index : Nat) (inner : Parser α) : Parser α := fun input =>
  if index = 0 then inner input
  else (readGivenChar separator input).bind fun (_, rest) => inner rest

def readOctet (index : Nat) : Parser Nat :=
  readSeparator '.' index (readNumber 10 (some 3) false 255)

def readIpv4Addr : Parser Ipv4Addr := fun input => do
  let (a, input) ← readOctet 0 input
  let (b, input) ← readOctet 1 input
  let (c, input) ← readOctet 2 input
  let (d, input) ← readOctet 3 input
  some (⟨[a, b, c, d].map UInt8.ofNat, rfl⟩, input)

/-- Up to `remaining` further 16-bit groups, the first of them at `index`. An
embedded IPv4 address counts for two groups and ends the list. -/
def readGroups (index : Nat) : (remaining : Nat) → List Char → List Nat × Bool × List Char
  | 0, input => ([], false, input)
  | remaining + 1, input =>
    let embedded :=
      if 0 < remaining then readSeparator ':' index readIpv4Addr input else none
    match embedded with
    | some (address, rest) =>
      ([ofBigEndian (address.octets.take 2), ofBigEndian (address.octets.drop 2)], true, rest)
    | none =>
      match readSeparator ':' index (readNumber 16 (some 4) true 65535) input with
      | none => ([], false, input)
      | some (group, rest) =>
        let (groups, ipv4, rest) := readGroups (index + 1) remaining rest
        (group :: groups, ipv4, rest)

def ofSegments (segments : List Nat) : Option Ipv6Addr :=
  let octets := segments.flatMap (bigEndian 2)
  if size : octets.length = 16 then some ⟨octets, size⟩ else none

def readIpv6Addr : Parser Ipv6Addr := fun input =>
  let (head, headIpv4, input) := readGroups 0 8 input
  if head.length = 8 then (ofSegments head).map (·, input)
  else if headIpv4 then none
  else do
    let (_, input) ← readGivenChar ':' input
    let (_, input) ← readGivenChar ':' input
    let (tail, _, input) := readGroups 0 (7 - head.length) input
    let zeros := List.replicate (8 - head.length - tail.length) 0
    (ofSegments (head ++ zeros ++ tail)).map (·, input)

def readIpAddr : Parser IpAddr := fun input =>
  match readIpv4Addr input with
  | some (address, rest) => some (.v4 address, rest)
  | none => (readIpv6Addr input).map fun (address, rest) => (.v6 address, rest)

def readPort : Parser UInt16 := fun input => do
  let (_, input) ← readGivenChar ':' input
  let (port, input) ← readNumber 10 none true 65535 input
  some (UInt16.ofNat port, input)

/-- The scope id is read and dropped: no modelled function keeps it. -/
def readScopeId : Parser Nat := fun input => do
  let (_, input) ← readGivenChar '%' input
  readNumber 10 none true (2 ^ 32 - 1) input

def readSocketAddrV4 : Parser SocketAddr := fun input => do
  let (address, input) ← readIpv4Addr input
  let (port, input) ← readPort input
  some (⟨.v4 address, port⟩, input)

def readSocketAddrV6 : Parser SocketAddr := fun input => do
  let (_, input) ← readGivenChar '[' input
  let (address, input) ← readIpv6Addr input
  let input := ((readScopeId input).map Prod.snd).getD input
  let (_, input) ← readGivenChar ']' input
  let (port, input) ← readPort input
  some (⟨.v6 address, port⟩, input)

/-- `parse_with`: the parser must consume the whole text. -/
def parseWith (inner : Parser α) (text : String) : Option α :=
  match inner text.toList with
  | some (value, []) => some value
  | _ => none

def IpAddr.parse (text : String) : Option IpAddr := parseWith readIpAddr text

def SocketAddr.parse (text : String) : Option SocketAddr :=
  parseWith (fun input => (readSocketAddrV4 input).or (readSocketAddrV6 input)) text

def Ipv4Addr.display (address : Ipv4Addr) : String :=
  ".".intercalate (address.octets.map fun octet => toString octet.toNat)

def segmentsOf : Bytes → List Nat
  | high :: low :: rest => (high.toNat * 256 + low.toNat) :: segmentsOf rest
  | _ => []

def Ipv6Addr.segments (address : Ipv6Addr) : List Nat := segmentsOf address.octets

structure Span where
  start : Nat
  len : Nat
  deriving DecidableEq, Repr

/-- The first of the longest runs of zero segments. -/
def longestZeros (segments : List Nat) : Span :=
  let scan := segments.zipIdx.foldl (fun (longest, current) (segment, index) =>
    if segment = 0 then
      let current : Span := ⟨if current.len = 0 then index else current.start, current.len + 1⟩
      (if longest.len < current.len then current else longest, current)
    else (longest, ⟨0, 0⟩)) ((⟨0, 0⟩ : Span), (⟨0, 0⟩ : Span))
  scan.1

def fmtSubslice (chunk : List Nat) : String :=
  ":".intercalate (chunk.map fun segment => String.ofList (Nat.toDigits 16 segment))

def Ipv6Addr.display (address : Ipv6Addr) : String :=
  let segments := address.segments
  match segments with
  | [0, 0, 0, 0, 0, 65535, high, low] =>
    "::ffff:" ++ ".".intercalate
      ([high / 256, high % 256, low / 256, low % 256].map toString)
  | _ =>
    let zeros := longestZeros segments
    if 1 < zeros.len then
      fmtSubslice (segments.take zeros.start) ++ "::" ++
        fmtSubslice (segments.drop (zeros.start + zeros.len))
    else fmtSubslice segments

def IpAddr.display : IpAddr → String
  | .v4 address => address.display
  | .v6 address => address.display

theorem length_segmentsOf : ∀ octets : Bytes, (segmentsOf octets).length = octets.length / 2
  | [] => rfl
  | [_] => by simp [segmentsOf]
  | _ :: _ :: rest => by
    simp only [segmentsOf, List.length_cons, length_segmentsOf rest]
    omega

theorem Ipv4Addr.display_ne_empty (address : Ipv4Addr) : address.display ≠ "" := by
  intro empty
  obtain ⟨octets, size⟩ := address
  obtain ⟨a, b, c, d, rfl⟩ := List.length_eq_four.mp size
  have characters := congrArg String.toList empty
  simp [Ipv4Addr.display] at characters

theorem fmtSubslice_ne_empty {chunk : List Nat} (nonempty : 1 < chunk.length) :
    fmtSubslice chunk ≠ "" := by
  obtain ⟨first, second, rest, rfl⟩ : ∃ first second rest, chunk = first :: second :: rest := by
    match chunk, nonempty with
    | first :: second :: rest, _ => exact ⟨first, second, rest, rfl⟩
  intro empty
  have characters := congrArg String.toList empty
  simp [fmtSubslice] at characters

theorem Ipv6Addr.display_ne_empty (address : Ipv6Addr) : address.display ≠ "" := by
  have count : address.segments.length = 8 := by
    rw [Ipv6Addr.segments, length_segmentsOf, address.size]
  unfold Ipv6Addr.display
  dsimp only
  split
  · intro empty
    have characters := congrArg String.toList empty
    simp at characters
  · split
    · intro empty
      have characters := congrArg String.toList empty
      simp at characters
    · exact fmtSubslice_ne_empty (by omega)

theorem IpAddr.display_ne_empty : ∀ address : IpAddr, address.display ≠ ""
  | .v4 address => address.display_ne_empty
  | .v6 address => address.display_ne_empty

end SingQuic.Net
