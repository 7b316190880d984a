import SingQuic.Address
import SingQuic.Net.SocketText

/-! Which addresses survive their text form. The printer encloses a host with a colon in
brackets; the parser first tries a socket address, then cuts at the last colon and takes
one pair of brackets off. -/
namespace SingQuic
open Wire Net

namespace Address

/-- A host that already stands in brackets. -/
def Bracketed (host : List Char) : Prop := ∃ inner, host = '[' :: (inner ++ [']'])

/-- A host that comes back unchanged: one without colons or brackets around it, or one
with a colon that is no IPv6 literal but a canonically printed one. -/
def Stable (host : List Char) : Prop :=
  (':' ∉ host ∧ ¬ Bracketed host) ∨
    (':' ∈ host ∧ ¬ ((∃ address, Ipv6Literal host address) ∧
      ¬ ∃ address : Ipv6Addr, host = address.display.toList))

theorem stripBrackets_of_bare {host : List Char} (bare : ¬ Bracketed host) : stripBrackets host = host := by
  unfold stripBrackets
  split
  · rename_i rest
    split
    · rename_i closed
      refine absurd ⟨rest.dropLast, ?_⟩ bare
      rw [List.dropLast_append_getLast? _ closed]
    · rfl
  · rfl

theorem display_v4_bare (address : Ipv4Addr) : ¬ Bracketed address.display.toList := by
  rintro ⟨inner, same⟩
  have opening := address.display_chars '[' (by simp [same])
  revert opening
  decide

theorem display_v4_colonless (address : Ipv4Addr) : ':' ∉ address.display.toList := by
  intro member
  have colon := address.display_chars ':' member
  revert colon
  decide

theorem display_v6_colon (address : Ipv6Addr) : ':' ∈ address.display.toList := by
  obtain ⟨taken, same, _, colon⟩ := readIpv6Addr_takes (readIpv6Addr_display address)
  rw [List.append_nil] at same
  rwa [same]

theorem colon_mem_of_literal {text : List Char} {address : Ipv6Addr} (literal : Ipv6Literal text address) :
    ':' ∈ text := by
  rcases literal with read | ⟨left, scope, read, _⟩
  all_goals
    obtain ⟨taken, rfl, _, colon⟩ := readIpv6Addr_takes read
    exact List.mem_append_left _ colon

/-- A printed IPv6 address is a literal of itself and of no other. -/
theorem literal_display {address other : Ipv6Addr} (literal : Ipv6Literal address.display.toList other) :
    other = address := by
  have whole := readIpv6Addr_display address
  rcases literal with read | ⟨left, scope, read, numbered⟩
  · exact (Prod.mk.inj (Option.some.inj (read.symm.trans whole))).1
  · obtain ⟨_, rfl⟩ := Prod.mk.inj (Option.some.inj (read.symm.trans whole))
    contradiction

/-- Text is cut at its last colon in one way only. -/
theorem last_colon_unique {before after host digits : List Char} (free : ':' ∉ after) (free' : ':' ∉ digits)
    (same : before ++ ':' :: after = host ++ ':' :: digits) : before = host ∧ after = digits := by
  have cut : rsplitOnce ':' (before ++ ':' :: after) = some (before, after) := rsplitOnce_append free
  rw [same, rsplitOnce_append free'] at cut
  obtain ⟨rfl, rfl⟩ := Prod.mk.inj (Option.some.inj cut)
  exact ⟨rfl, rfl⟩

/-- What the printed form of an address is read as by the first of the two parsers. -/
theorem parse_display_iff {address : Address} {socket : SocketAddr} :
    SocketAddr.parse address.display = some socket ↔ socket.port = address.port ∧
      ((∃ ip, socket.ip = .v4 ip ∧ shown address.host.toList = ip.display.toList) ∨
        ∃ ip inner, socket.ip = .v6 ip ∧ shown address.host.toList = '[' :: (inner ++ [']']) ∧
          Ipv6Literal inner ip) := by
  rw [SocketAddr.parse_eq_some_iff, toList_display, Nat.toString_eq_repr, Nat.toList_repr]
  have free := colon_notMem_toString address.port.toNat
  rw [Nat.toString_eq_repr, Nat.toList_repr] at free
  constructor
  · rintro ⟨host, digits, same, port, named⟩
    obtain ⟨rfl, rfl⟩ := last_colon_unique free port.colonless same
    exact ⟨portText_toDigits_iff.mp port, named⟩
  · rintro ⟨port, named⟩
    exact ⟨_, _, rfl, portText_toDigits_iff.mpr port, named⟩

/-- Without a socket address in the printed form, the host is what is left of it between
the brackets. -/
theorem fromStr_display_fallback {address : Address} (plain : SocketAddr.parse address.display = none) :
    fromStr address.display =
      new (String.ofList (stripBrackets (shown address.host.toList))) address.port := by
  rw [fromStr, plain, toList_display, rsplitOnce_append (colon_notMem_toString _)]
  dsimp only
  rw [parsePort_toString]

theorem new_eq_ok_iff {text : List Char} {address : Address} :
    new (String.ofList text) address.port = .ok address ↔ text = address.host.toList := by
  constructor
  · intro built
    unfold new at built
    split at built
    · have same := congrArg host (Except.ok.inj built)
      rw [← same, String.toList_ofList]
    · contradiction
  · rintro rfl
    rw [String.ofList_toList, new, dif_pos address.nonempty]

theorem fromStr_socket {text : String} {socket : SocketAddr} (parsed : SocketAddr.parse text = some socket) :
    fromStr text = .ok (ofSocketAddr socket) := by
  rw [fromStr, parsed]

theorem ofSocketAddr_eq_iff {ip : IpAddr} {address : Address} :
    (.ok (ofSocketAddr ⟨ip, address.port⟩) : Result Address) = .ok address ↔ ip.display = address.host := by
  constructor
  · intro same
    exact congrArg host (Except.ok.inj same)
  · intro same
    obtain ⟨host, port, nonempty⟩ := address
    obtain rfl := same
    rfl

/-- The first parser gives up on a host that is shown neither as an IPv4 address nor as
an IPv6 address in brackets. -/
theorem parse_display_eq_none {address : Address}
    (quad : ¬ ∃ ip : Ipv4Addr, shown address.host.toList = ip.display.toList)
    (literal : ¬ ∃ ip inner, shown address.host.toList = '[' :: (inner ++ [']']) ∧
      Ipv6Literal inner ip) : SocketAddr.parse address.display = none := by
  cases parsed : SocketAddr.parse address.display with
  | none => rfl
  | some socket =>
    obtain ⟨_, ⟨ip, _, same⟩ | ⟨ip, inner, _, same, read⟩⟩ := parse_display_iff.mp parsed
    · exact absurd ⟨ip, same⟩ quad
    · exact absurd ⟨ip, inner, same, read⟩ literal

theorem roundTrips_of_colon {address : Address} (colon : ':' ∈ address.host.toList) :
    address.RoundTrips ↔ ¬ ((∃ ip, Ipv6Literal address.host.toList ip) ∧
      ¬ ∃ ip : Ipv6Addr, address.host.toList = ip.display.toList) := by
  have enclosed : shown address.host.toList = '[' :: (address.host.toList ++ [']']) := if_pos colon
  by_cases literal : ∃ ip, Ipv6Literal address.host.toList ip
  · obtain ⟨ip, read⟩ := literal
    have parsed : SocketAddr.parse address.display = some ⟨.v6 ip, address.port⟩ :=
      parse_display_iff.mpr ⟨rfl, Or.inr ⟨ip, _, rfl, enclosed, read⟩⟩
    rw [RoundTrips, fromStr_socket parsed, ofSocketAddr_eq_iff]
    constructor
    · rintro same ⟨_, foreign⟩
      exact foreign ⟨ip, by rw [← same]; rfl⟩
    · intro canonical
      obtain ⟨other, same⟩ := not_not.mp fun foreign => canonical ⟨⟨ip, read⟩, foreign⟩
      rw [same] at read
      rw [literal_display read]
      exact (String.toList_injective same).symm
  · have plain : SocketAddr.parse address.display = none := by
      apply parse_display_eq_none
      · rintro ⟨ip, same⟩
        exact display_v4_bare ip ⟨_, same.symm.trans enclosed⟩
      · rintro ⟨ip, inner, same, read⟩
        rw [enclosed] at same
        obtain rfl := List.append_cancel_right (List.cons.inj same).2
        exact literal ⟨ip, read⟩
    rw [RoundTrips, fromStr_display_fallback plain, enclosed, ← List.cons_append,
      stripBrackets_enclosed, new_eq_ok_iff]
    exact iff_of_true rfl fun foreign => literal foreign.1

theorem roundTrips_of_colonless {address : Address} (colonless : ':' ∉ address.host.toList) :
    address.RoundTrips ↔ ¬ Bracketed address.host.toList := by
  have bare : shown address.host.toList = address.host.toList := if_neg colonless
  by_cases quad : ∃ ip : Ipv4Addr, address.host.toList = ip.display.toList
  · obtain ⟨ip, same⟩ := quad
    have parsed : SocketAddr.parse address.display = some ⟨.v4 ip, address.port⟩ :=
      parse_display_iff.mpr ⟨rfl, Or.inl ⟨ip, rfl, bare.trans same⟩⟩
    rw [RoundTrips, fromStr_socket parsed, ofSocketAddr_eq_iff, same]
    exact iff_of_true (String.toList_injective same).symm (display_v4_bare ip)
  · have plain : SocketAddr.parse address.display = none := by
      apply parse_display_eq_none
      · rintro ⟨ip, same⟩
        exact quad ⟨ip, bare.symm.trans same⟩
      · rintro ⟨ip, inner, same, read⟩
        have colon := colon_mem_of_literal read
        exact colonless (bare.symm.trans same ▸ by simp [colon])
    rw [RoundTrips, fromStr_display_fallback plain, bare, new_eq_ok_iff]
    constructor
    · rintro same ⟨inner, enclosed⟩
      rw [enclosed, ← List.cons_append, stripBrackets_enclosed] at same
      have size := congrArg List.length same
      simp at size
      omega
    · intro free
      exact stripBrackets_of_bare free

theorem roundTrips_iff_stable (address : Address) : address.RoundTrips ↔ Stable address.host.toList := by
  by_cases colon : ':' ∈ address.host.toList
  · simp only [roundTrips_of_colon colon, Stable, colon, not_true_eq_false, false_and, true_and, false_or]
  · simp only [roundTrips_of_colonless colon, Stable, colon, not_false_eq_true, false_and, true_and,
      or_false]

/-- The exact hosts that the text form carries. -/
theorem fromStr_display_new_iff (host : String) (port : UInt16) (nonempty : host ≠ "") :
    ∃ address, new host port = .ok address ∧ (fromStr address.display = .ok address ↔
      (':' ∉ host.toList ∧ ¬ ∃ inner, host.toList = '[' :: (inner ++ [']'])) ∨
        (':' ∈ host.toList ∧ ¬ ((∃ ip, Ipv6Literal host.toList ip) ∧
          ¬ ∃ ip : Ipv6Addr, host.toList = ip.display.toList))) := by
  refine ⟨⟨host, port, nonempty⟩, dif_pos nonempty, ?_⟩
  exact roundTrips_iff_stable ⟨host, port, nonempty⟩

/-- A host that is neither an IPv4 nor an IPv6 address. -/
theorem fromStr_display_new_iff_name : "p" ≠ "" ∧ ∃ address, new "p" 80 = .ok address ∧
    fromStr address.display = .ok address := by
  obtain ⟨address, built, carried⟩ := fromStr_display_new_iff "p" 80 (by decide)
  refine ⟨by decide, address, built, carried.mpr (Or.inl ⟨by decide, ?_⟩)⟩
  rintro ⟨inner, same⟩
  exact absurd (List.cons.inj same).1 (by decide)

theorem stable_ofSocketAddr (socket : SocketAddr) : Stable (ofSocketAddr socket).host.toList := by
  obtain ⟨ip, port⟩ := socket
  cases ip with
  | v4 ip => exact Or.inl ⟨display_v4_colonless ip, display_v4_bare ip⟩
  | v6 ip => exact Or.inr ⟨display_v6_colon ip, fun foreign => foreign.2 ⟨ip, rfl⟩⟩

/-- What the parser made of a text comes back exactly if the text is a socket address or
the host cut out of it is one that the text form carries. -/
theorem fromStr_normalises_iff (text : String) (address : Address) (parsed : fromStr text = .ok address) :
    fromStr address.display = .ok address ↔ (∃ socket, SocketAddr.parse text = some socket) ∨
      ∃ host port, rsplitOnce ':' text.toList = some (host, port) ∧ Stable (stripBrackets host) := by
  have carried : fromStr address.display = .ok address ↔ Stable address.host.toList :=
    roundTrips_iff_stable address
  rw [carried]
  cases literal : SocketAddr.parse text with
  | some socket =>
    rw [fromStr_socket literal] at parsed
    obtain rfl := Except.ok.inj parsed
    exact iff_of_true (stable_ofSocketAddr socket) (Or.inl ⟨socket, rfl⟩)
  | none =>
    rw [fromStr, literal] at parsed
    dsimp only at parsed
    split at parsed
    · contradiction
    rename_i host digits cut
    split at parsed
    · contradiction
    rename_i port number
    have same : address.host.toList = stripBrackets host := by
      unfold new at parsed
      split at parsed
      · rw [← Except.ok.inj parsed, String.toList_ofList]
      · contradiction
    rw [same]
    constructor
    · intro stable
      exact Or.inr ⟨host, digits, cut, stable⟩
    · rintro (⟨socket, found⟩ | ⟨other, _, found, stable⟩)
      · contradiction
      · obtain ⟨rfl, _⟩ := Prod.mk.inj (Option.some.inj (found.symm.trans cut))
        exact stable

theorem fromStr_normalises_iff_name : fromStr "q:80" = .ok ⟨"q", 80, by decide⟩ ∧
    fromStr (display ⟨"q", 80, by decide⟩) = .ok ⟨"q", 80, by decide⟩ := by
  have parsed : fromStr "q:80" = .ok ⟨"q", 80, by decide⟩ := by decide
  refine ⟨parsed, (fromStr_normalises_iff _ _ parsed).mpr (Or.inr ⟨['q'], ['8', '0'], by decide, ?_⟩)⟩
  refine Or.inl ⟨by decide, ?_⟩
  rintro ⟨inner, same⟩
  exact absurd (List.cons.inj same).1 (by decide)

/-- A second pair of brackets is taken off by the next hop. -/
theorem fromStr_not_normalising : ¬ ∀ text address, fromStr text = .ok address →
    fromStr address.display = .ok address := by
  intro always
  have again := always "[[q]]:80" ⟨"[q]", 80, by decide⟩ (by decide)
  revert again
  decide

end Address
end SingQuic
