import SingQuic.Net.Ipv6Display

/-! Which texts are socket addresses: an IPv4 address as it is printed, or any IPv6
literal in brackets, in front of a colon and a port. -/
namespace SingQuic.Net
open Wire Scan

/-- A text the standard library takes for an IPv6 address, or for one with a scope id. -/
def Ipv6Literal (text : List Char) (address : Ipv6Addr) : Prop :=
  readIpv6Addr text = some (address, []) ∨
    ∃ left scope, readIpv6Addr text = some (address, left) ∧ readScopeId left = some (scope, [])

/-- The digits of a port number, zeros in front allowed. -/
def PortText (digits : List Char) (port : UInt16) : Prop :=
  ∃ value, readNumber 10 none true 65535 digits = some (value, []) ∧ port = UInt16.ofNat value

theorem portText_toDigits_iff {port other : UInt16} :
    PortText (Nat.toDigits 10 port.toNat) other ↔ other = port := by
  have bound := port.toNat_lt
  have read : readNumber 10 none true 65535 (Nat.toDigits 10 port.toNat ++ []) =
      some (port.toNat, []) :=
    readNumber_toDigits (by decide) (by decide) (by omega) (by simp) (by simp)
  rw [List.append_nil] at read
  constructor
  · rintro ⟨value, found, rfl⟩
    obtain ⟨rfl, _⟩ := Prod.mk.inj (Option.some.inj (read.symm.trans found))
    rw [UInt16.ofNat_toNat]
  · rintro rfl
    exact ⟨_, read, by rw [UInt16.ofNat_toNat]⟩

theorem PortText.colonless {digits : List Char} {port : UInt16} (text : PortText digits port) :
    ':' ∉ digits := by
  obtain ⟨value, read, _⟩ := text
  obtain ⟨run, same, numeric, _, _⟩ := readNumber_eq_some read
  rw [same, List.append_nil]
  intro member
  exact absurd (numeric ':' member) (by decide)

theorem readPort_eq_some_iff {input : List Char} {port : UInt16} :
    readPort input = some (port, []) ↔ ∃ digits, input = ':' :: digits ∧ PortText digits port := by
  simp only [readPort, Option.bind_eq_bind, Option.bind_eq_some_iff, Prod.exists, Option.some.injEq,
    Prod.mk.injEq]
  constructor
  · rintro ⟨_, digits, given, value, _, read, rfl, rfl⟩
    exact ⟨digits, readGivenChar_eq_some_iff.mp given, value, read, rfl⟩
  · rintro ⟨digits, rfl, value, read, rfl⟩
    exact ⟨(), digits, readGivenChar_eq_some_iff.mpr rfl, value, [], read, rfl, rfl⟩

theorem readSocketAddrV4_iff {input : List Char} {socket : SocketAddr} :
    readSocketAddrV4 input = some (socket, []) ↔ ∃ address digits, socket.ip = .v4 address ∧
      input = address.display.toList ++ ':' :: digits ∧ PortText digits socket.port := by
  simp only [readSocketAddrV4, Option.bind_eq_bind, Option.bind_eq_some_iff, Prod.exists,
    Option.some.injEq, Prod.mk.injEq]
  constructor
  · rintro ⟨address, _, read, port, _, further, rfl, rfl⟩
    obtain ⟨digits, rfl, text⟩ := readPort_eq_some_iff.mp further
    exact ⟨address, digits, rfl, (readIpv4Addr_iff.mp read).1, text⟩
  · rintro ⟨address, digits, same, rfl, text⟩
    obtain ⟨ip, port⟩ := socket
    obtain rfl := same
    refine ⟨address, ':' :: digits, readIpv4Addr_iff.mpr ⟨rfl, ?_⟩, port, [],
      readPort_eq_some_iff.mpr ⟨digits, rfl, text⟩, rfl, rfl⟩
    rintro c ⟨⟩
    rfl

theorem readScopeId_local {stop : Char} (outside : toDigit 10 stop = none) (percent : '%' ≠ stop) :
    Local stop readScopeId := by
  intro input later
  simp only [readScopeId, Option.bind_eq_bind, (readGivenChar_local percent).bind_apply, extend,
    readNumber_local outside _ _, Option.map_bind, Function.comp_def]

theorem readScopeId_takes {input rest : List Char} {scope : Nat}
    (read : readScopeId input = some (scope, rest)) : ∃ taken, input = taken ++ rest := by
  simp only [readScopeId, Option.bind_eq_bind, Option.bind_eq_some_iff, Prod.exists] at read
  obtain ⟨_, tail, given, number⟩ := read
  obtain ⟨digits, rfl, _⟩ := readNumber_eq_some number
  exact ⟨'%' :: digits, readGivenChar_eq_some_iff.mp given⟩

theorem bracket_outside : ¬ Ipv6Char ']' := by decide

/-- What stands between the brackets is read on its own. -/
theorem readBracketed_iff {input later : List Char} {address : Ipv6Addr} :
    (∃ left, readIpv6Addr input = some (address, left) ∧
      ((readScopeId left).map Prod.snd).getD left = ']' :: later) ↔
      ∃ inner, input = inner ++ ']' :: later ∧ Ipv6Literal inner address := by
  have literal := readIpv6Addr_local bracket_outside
  have scope : Local ']' readScopeId := readScopeId_local (by decide) (by decide)
  constructor
  · rintro ⟨left, read, rest⟩
    obtain ⟨taken, rfl, _, _⟩ := readIpv6Addr_takes read
    cases numbered : readScopeId left with
    | none =>
      rw [numbered, Option.map_none, Option.getD_none] at rest
      subst left
      rw [← List.nil_append (']' :: later)] at read
      exact ⟨taken, rfl, Or.inl (literal.before read)⟩
    | some scanned =>
      obtain ⟨number, after⟩ := scanned
      rw [numbered, Option.map_some, Option.getD_some] at rest
      obtain rfl : after = ']' :: later := rest
      obtain ⟨digits, rfl⟩ := readScopeId_takes numbered
      refine ⟨taken ++ digits, by rw [List.append_assoc], Or.inr ⟨digits, number, ?_, ?_⟩⟩
      · rw [← List.append_assoc] at read
        exact literal.before read
      · rw [← List.nil_append (']' :: later)] at numbered
        exact scope.before numbered
  · rintro ⟨inner, rfl, read | ⟨left, number, read, numbered⟩⟩
    · exact ⟨_, literal.whole read later, rfl⟩
    · refine ⟨left ++ ']' :: later, ?_, ?_⟩
      · rw [literal, read]
        rfl
      · rw [scope, numbered]
        rfl

theorem readSocketAddrV6_iff {input : List Char} {socket : SocketAddr} :
    readSocketAddrV6 input = some (socket, []) ↔ ∃ address inner digits, socket.ip = .v6 address ∧
      input = '[' :: (inner ++ ']' :: ':' :: digits) ∧ Ipv6Literal inner address ∧
      PortText digits socket.port := by
  simp only [readSocketAddrV6, Option.bind_eq_bind, Option.bind_eq_some_iff, Prod.exists,
    Option.some.injEq, Prod.mk.injEq]
  constructor
  · rintro ⟨_, tail, opened, address, left, read, _, rest, closed, port, _, further, rfl, rfl⟩
    obtain ⟨digits, rfl, text⟩ := readPort_eq_some_iff.mp further
    obtain rfl := readGivenChar_eq_some_iff.mp opened
    obtain ⟨inner, rfl, literal⟩ :=
      readBracketed_iff.mp ⟨left, read, readGivenChar_eq_some_iff.mp closed⟩
    exact ⟨address, inner, digits, rfl, rfl, literal, text⟩
  · rintro ⟨address, inner, digits, same, rfl, literal, text⟩
    obtain ⟨ip, port⟩ := socket
    obtain rfl := same
    obtain ⟨left, read, rest⟩ := readBracketed_iff.mpr ⟨inner, rfl, literal⟩
    exact ⟨(), _, readGivenChar_eq_some_iff.mpr rfl, address, left, read, (), _,
      readGivenChar_eq_some_iff.mpr rest, port, [], readPort_eq_some_iff.mpr ⟨digits, rfl, text⟩, rfl, rfl⟩

/-- The texts of socket addresses, told by what stands in front of the last colon. -/
theorem SocketAddr.parse_eq_some_iff {text : String} {socket : SocketAddr} :
    SocketAddr.parse text = some socket ↔ ∃ host digits, text.toList = host ++ ':' :: digits ∧
      PortText digits socket.port ∧
      ((∃ address, socket.ip = .v4 address ∧ host = address.display.toList) ∨
        ∃ address inner, socket.ip = .v6 address ∧ host = '[' :: (inner ++ [']']) ∧
          Ipv6Literal inner address) := by
  have whole : SocketAddr.parse text = some socket ↔
      (readSocketAddrV4 text.toList).or (readSocketAddrV6 text.toList) = some (socket, []) := by
    unfold SocketAddr.parse parseWith
    dsimp only
    constructor
    · intro parsed
      split at parsed
      · rename_i read
        rw [read, Option.some.inj parsed]
      · contradiction
    · intro read
      rw [read]
  rw [whole, Option.or_eq_some_iff, readSocketAddrV4_iff, readSocketAddrV6_iff]
  constructor
  · rintro (⟨address, digits, same, split, port⟩ | ⟨_, address, inner, digits, same, split, literal, port⟩)
    · exact ⟨_, digits, split, port, Or.inl ⟨address, same, rfl⟩⟩
    · exact ⟨'[' :: (inner ++ [']']), digits, by simp [split], port,
        Or.inr ⟨address, inner, same, rfl, literal⟩⟩
  · rintro ⟨host, digits, split, port, ⟨address, same, rfl⟩ | ⟨address, inner, same, rfl, literal⟩⟩
    · exact Or.inl ⟨address, digits, same, split, port⟩
    · have text : text.toList = '[' :: (inner ++ ']' :: ':' :: digits) := by simp [split]
      refine Or.inr ⟨?_, address, inner, digits, same, text, literal, port⟩
      rw [text]
      rfl

/-- What is printed of an IP address is read back as that address. -/
theorem IpAddr.parse_display (ip : IpAddr) : IpAddr.parse ip.display = some ip := by
  cases ip with
  | v4 address =>
    have read : readIpv4Addr address.display.toList = some (address, []) :=
      readIpv4Addr_iff.mpr ⟨by rw [List.append_nil], by simp⟩
    rw [IpAddr.parse, parseWith, IpAddr.display, readIpAddr, read]
  | v6 address =>
    have read := readIpv6Addr_display address
    have other : readIpv4Addr address.display.toList = none := by
      cases quad : readIpv4Addr address.display.toList with
      | none => rfl
      | some scanned =>
        rw [readIpv6Addr_eq_none quad] at read
        contradiction
    rw [IpAddr.parse, parseWith, IpAddr.display, readIpAddr, other, read]
    rfl

end SingQuic.Net
