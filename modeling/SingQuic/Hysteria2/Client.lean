import SingQuic.Hysteria2.Server

/-! The client's side of the authentication exchange, and the bandwidth both ends
agree on through the two header texts. A rate of zero means "no limit" where it is
configured and "nothing declared" where it is received. -/
namespace SingQuic.Hysteria2
open Wire

/-- `disable_loss_compensation` is left out: the kind of a controller does not show it. -/
structure ClientBandwidth where
  sendBps : Nat
  receiveBps : Nat
  deriving DecidableEq, Repr

/-- An HTTP/3 response, as far as the client looks at it. -/
structure Response where
  status : UInt16
  headers : List (String × Bytes)
  deriving DecidableEq, Repr

def Response.header (response : Response) (name : String) : Option Bytes :=
  (response.headers.find? (·.1 = name)).map Prod.snd

/-- What the server answers an admitted client with. -/
def Admission.response (admission : Admission) (padding : String) : Response :=
  ⟨UInt16.ofNat statusAuthOk, [(headerUdp, asBytes "true"),
    (headerCcRx, asBytes (congestionReceiveValue admission.advertised)),
    (headerPadding, asBytes padding)]⟩

namespace Client

/-- The authentication request, once the HTTP library has taken its header values. -/
def request (password : String) (bandwidth : ClientBandwidth) (padding : String) : Request :=
  ⟨"POST", some urlAuthority, urlPath, [(headerAuth, asBytes password),
    (headerCcRx, asBytes (toString bandwidth.receiveBps)), (headerPadding, asBytes padding)]⟩

def negotiatedSendRate (configuredSendBps : Nat) (remoteReceive : CongestionReceive) : Option Nat :=
  match remoteReceive with
  | .auto => none
  | .rate remoteReceiveBps =>
    let actual :=
      if remoteReceiveBps = 0 ∨ configuredSendBps < remoteReceiveBps then configuredSendBps
      else remoteReceiveBps
    if 0 < actual then some actual else none

/-- What the client makes of the response: the controller afterwards, and the
kind it reports unless it gives the connection up. -/
def authenticate (bandwidth : ClientBandwidth) (response : Response)
    (controller : Option CongestionKind) : Option CongestionKind × Result CongestionKind :=
  if response.status ≠ UInt16.ofNat statusAuthOk then
    (controller, .error (.authenticationFailed response.status))
  else
    let remoteReceive := parseCongestionReceive (response.header headerCcRx)
    let switched := match negotiatedSendRate bandwidth.sendBps remoteReceive with
      | none => (controller, true)
      | some bytesPerSecond => configureConnectionBrutal controller bytesPerSecond
    match switched with
    | (controller, false) => (controller, .error .congestionControl)
    | (none, true) => (none, .error .congestionControl)
    | (some congestion, true) => (some congestion, .ok congestion)

end Client

theorem asBytes_alphanum {text : String} (plain : ∀ c ∈ text.toList, c.isAlphanum = true) :
    ∀ byte ∈ asBytes text, 32 ≤ byte ∧ byte < 127 := by
  intro byte member
  rw [asBytes_eq] at member
  obtain ⟨c, here, inside⟩ := List.mem_flatMap.mp member
  have ⟨low, high⟩ := alphanum_range (plain c here)
  rw [utf8EncodeChar_alphanum (plain c here), List.mem_singleton] at inside
  have value : byte.toNat = c.val.toNat := by
    rw [inside, UInt8.toNat_ofNat', Nat.mod_eq_of_lt (by omega)]
  have lower : (32 : UInt8).toNat = 32 := rfl
  have upper : (127 : UInt8).toNat = 127 := rfl
  exact ⟨UInt8.le_iff_toNat_le.mpr (by omega), UInt8.lt_iff_toNat_lt.mpr (by omega)⟩

theorem alphanum_toString (value : Nat) : ∀ c ∈ (toString value).toList, c.isAlphanum = true := by
  rw [Nat.toString_eq_repr, Nat.toList_repr]
  intro c member
  rw [Char.isAlphanum, Nat.isDigit_of_mem_toDigits (by omega) (by omega) member, Bool.or_true]

theorem headerText_toString (value : Nat) :
    headerText (asBytes (toString value)) = some (toString value) := by
  have visible : (asBytes (toString value)).all (fun byte => (32 ≤ byte ∧ byte < 127) ∨ byte = 9) = true := by
    rw [List.all_eq_true]
    intro byte member
    simpa using Or.inl (asBytes_alphanum (alphanum_toString value) byte member)
  rw [headerText, if_pos visible, fromUtf8_asBytes]

theorem toString_ne_auto (value : Nat) : toString value ≠ "auto" := by
  intro same
  have digit : ('a').isDigit = true := by
    apply Nat.isDigit_of_mem_toDigits (b := 10) (n := value) (by omega) (by omega)
    rw [← Nat.toList_repr, ← Nat.toString_eq_repr, same]
    decide
  contradiction

/-- A declared rate is read as it was written, whichever end wrote it. -/
theorem parseCongestionReceive_toString {rate : Nat} (small : rate < 2 ^ 64) :
    parseCongestionReceive (some (asBytes (toString rate))) = .rate rate := by
  rw [parseCongestionReceive, Option.bind_some, headerText_toString]
  dsimp only
  rw [if_neg (toString_ne_auto rate), Address.parseUnsigned_toString (by omega), Option.getD_some]

theorem parseCongestionReceive_value {receive : CongestionReceive}
    (small : ∀ rate, receive = .rate rate → rate < 2 ^ 64) :
    parseCongestionReceive (some (asBytes (congestionReceiveValue receive))) = receive := by
  cases receive with
  | auto => decide
  | rate rate => exact parseCongestionReceive_toString (small rate rfl)

/-- The rate of the server's controller, if the negotiation sets one. -/
theorem Config.negotiatedSendRate_eq (config : Config) (clientReceiveBps : Nat) :
    config.negotiatedSendRate (.rate clientReceiveBps) =
      if 0 < clientReceiveBps ∧
          ¬ (config.bandwidth.receiveBps = 0 ∧ config.bandwidth.ignoreClientBandwidth = true) then
        some (if config.bandwidth.sendBps = 0 then clientReceiveBps
          else min config.bandwidth.sendBps clientReceiveBps)
      else none := by
  unfold Config.negotiatedSendRate
  by_cases ignored : config.bandwidth.receiveBps = 0 ∧ config.bandwidth.ignoreClientBandwidth = true
  · rw [if_pos ignored, if_neg fun both => both.2 ignored]
  rw [if_neg ignored]
  by_cases undeclared : clientReceiveBps = 0
  · simp [undeclared]
  have declared : 0 < clientReceiveBps ∧
      ¬ (config.bandwidth.receiveBps = 0 ∧ config.bandwidth.ignoreClientBandwidth = true) :=
    ⟨Nat.pos_of_ne_zero undeclared, ignored⟩
  dsimp only
  rw [if_neg undeclared, if_pos declared]
  by_cases smaller : 0 < config.bandwidth.sendBps ∧ config.bandwidth.sendBps < clientReceiveBps
  · rw [if_pos smaller, if_neg smaller.1.ne', Nat.min_eq_left smaller.2.le]
  · rw [if_neg smaller]
    by_cases unlimited : config.bandwidth.sendBps = 0
    · rw [if_pos unlimited]
    · rw [if_neg unlimited, Nat.min_eq_right (by omega)]

/-- The rate of the client's controller, if the server declared one. -/
theorem Client.negotiatedSendRate_eq (configuredSendBps remoteReceiveBps : Nat) :
    negotiatedSendRate configuredSendBps (.rate remoteReceiveBps) =
      if 0 < configuredSendBps then
        some (if remoteReceiveBps = 0 then configuredSendBps
          else min configuredSendBps remoteReceiveBps)
      else none := by
  simp only [negotiatedSendRate]
  by_cases unlimited : remoteReceiveBps = 0
  · simp [unlimited]
  rw [if_neg unlimited]
  by_cases larger : configuredSendBps < remoteReceiveBps
  · rw [if_pos (Or.inr larger), Nat.min_eq_left larger.le]
  · have within : ¬ (remoteReceiveBps = 0 ∨ configuredSendBps < remoteReceiveBps) := by omega
    have configured : 0 < configuredSendBps := by omega
    rw [if_neg within, if_pos configured, if_pos (Nat.pos_of_ne_zero unlimited),
      Nat.min_eq_right (Nat.not_lt.mp larger)]

theorem Config.negotiatedSendRate_pos {config : Config} {clientReceiveBps sendRate : Nat}
    (set : config.negotiatedSendRate (.rate clientReceiveBps) = some sendRate) : 0 < sendRate := by
  rw [Config.negotiatedSendRate_eq] at set
  split at set
  · rename_i declared
    obtain rfl := Option.some.inj set
    split
    · exact declared.1
    · omega
  · contradiction

theorem Client.negotiatedSendRate_pos {configuredSendBps sendRate : Nat} {remoteReceive : CongestionReceive}
    (set : negotiatedSendRate configuredSendBps remoteReceive = some sendRate) : 0 < sendRate := by
  cases remoteReceive with
  | auto => contradiction
  | rate remoteReceiveBps =>
    rw [Client.negotiatedSendRate_eq] at set
    split at set
    · rename_i configured
      obtain rfl := Option.some.inj set
      split
      · exact configured
      · omega
    · contradiction

theorem Client.header_request (password padding : String) (bandwidth : ClientBandwidth) :
    (request password bandwidth padding).header headerCcRx =
      some (asBytes (toString bandwidth.receiveBps)) := by
  simp [request, Request.header, headerAuth, headerCcRx]

theorem Admission.header_response (admission : Admission) (padding : String) :
    (admission.response padding).header headerCcRx =
      some (asBytes (congestionReceiveValue admission.advertised)) := by
  simp [Admission.response, Response.header, headerUdp, headerCcRx]

/-- The controller a negotiated rate leads to, from a connection on BBR. -/
def CongestionKind.ofRate : Option Nat → CongestionKind
  | none => .bbr
  | some bytesPerSecond => .brutal bytesPerSecond

theorem Config.negotiate_eq (config : Config) {request : Request} (user : String) {rate : Nat}
    (declared : parseCongestionReceive (request.header headerCcRx) = .rate rate) :
    config.negotiate request user (some .bbr) =
      (some (CongestionKind.ofRate (config.negotiatedSendRate (.rate rate))),
        .ok ⟨user, CongestionKind.ofRate (config.negotiatedSendRate (.rate rate)),
          match config.negotiatedSendRate (.rate rate) with
          | none => .auto
          | some _ => .rate config.bandwidth.receiveBps⟩) := by
  unfold Config.negotiate
  rw [declared]
  cases sendRate : config.negotiatedSendRate (.rate rate) with
  | none => rfl
  | some bytesPerSecond =>
    have nonzero : bytesPerSecond ≠ 0 := (Config.negotiatedSendRate_pos sendRate).ne'
    simp [configureConnectionBrutal, nonzero, CongestionKind.ofRate]

theorem Client.authenticate_eq (bandwidth : ClientBandwidth) (admission : Admission) (padding : String)
    (small : ∀ rate, admission.advertised = .rate rate → rate < 2 ^ 64) :
    authenticate bandwidth (admission.response padding) (some .bbr) =
      (some (CongestionKind.ofRate (negotiatedSendRate bandwidth.sendBps admission.advertised)),
        .ok (CongestionKind.ofRate (negotiatedSendRate bandwidth.sendBps admission.advertised))) := by
  unfold authenticate
  rw [if_neg (by simp [Admission.response]), Admission.header_response,
    parseCongestionReceive_value small]
  dsimp only
  cases sendRate : negotiatedSendRate bandwidth.sendBps admission.advertised with
  | none => rfl
  | some bytesPerSecond =>
    have nonzero : bytesPerSecond ≠ 0 := (Client.negotiatedSendRate_pos sendRate).ne'
    simp [configureConnectionBrutal, nonzero, CongestionKind.ofRate]

/-- A rate under a cap that zero lifts. -/
theorem capped_le (cap value : Nat) : (if cap = 0 then value else min cap value) ≤ value ∧
    (0 < cap → (if cap = 0 then value else min cap value) ≤ cap) := by
  by_cases unlimited : cap = 0
  · rw [if_pos unlimited]
    exact ⟨le_rfl, fun limited => absurd unlimited limited.ne'⟩
  · rw [if_neg unlimited]
    exact ⟨Nat.min_le_right _ _, fun _ => Nat.min_le_left _ _⟩

/-- What both ends run after the exchange, for all rates the headers can carry, and
when the server sends the client to the masquerade handler instead. -/
theorem bandwidth_negotiation (config : Config) (send receive clientSend clientReceive : UInt64)
    (ignore : Bool) (password user requestPadding responsePadding : String) :
    let config := { config with bandwidth := ⟨send.toNat, receive.toNat, ignore⟩ }
    let client : ClientBandwidth := ⟨clientSend.toNat, clientReceive.toNat⟩
    let request := Client.request password client requestPadding
    (config.diverts request = true ↔
      0 < receive.toNat ∧ ignore = true ∧ clientReceive.toNat = 0) ∧
    (config.diverts request = false → ∃ admission kind,
      config.negotiate request user (some .bbr) = (some admission.congestion, .ok admission) ∧
      Client.authenticate client (admission.response responsePadding) (some .bbr) =
        (some kind, .ok kind) ∧
      admission.congestion =
        (if 0 < clientReceive.toNat ∧ ¬ (receive.toNat = 0 ∧ ignore = true) then
          .brutal (if send.toNat = 0 then clientReceive.toNat else min send.toNat clientReceive.toNat)
        else .bbr) ∧
      kind =
        (if admission.congestion ≠ .bbr ∧ 0 < clientSend.toNat then
          .brutal (if receive.toNat = 0 then clientSend.toNat else min clientSend.toNat receive.toNat)
        else .bbr) ∧
      (∀ rate, admission.congestion = .brutal rate →
        (0 < send.toNat → rate ≤ send.toNat) ∧ (0 < clientReceive.toNat → rate ≤ clientReceive.toNat)) ∧
      (∀ rate, kind = .brutal rate →
        (0 < clientSend.toNat → rate ≤ clientSend.toNat) ∧ (0 < receive.toNat → rate ≤ receive.toNat)) ∧
      (ignore = true ∧ receive.toNat = 0 → admission.congestion = .bbr ∧ kind = .bbr)) := by
  intro config client request
  have declared : parseCongestionReceive (request.header headerCcRx) = .rate clientReceive.toNat := by
    rw [Client.header_request]
    exact parseCongestionReceive_toString clientReceive.toNat_lt
  refine ⟨?_, fun _ => ?_⟩
  · simp only [Config.diverts, declared, Bool.and_eq_true, decide_eq_true_eq, and_assoc, config]
  have agreed := config.negotiate_eq user declared
  have set := config.negotiatedSendRate_eq clientReceive.toNat
  simp only [config] at set
  by_cases brutal : 0 < clientReceive.toNat ∧ ¬ (receive.toNat = 0 ∧ ignore = true)
  · rw [if_pos brutal] at set
    simp only [config, set] at agreed
    let rate := if send.toNat = 0 then clientReceive.toNat else min send.toNat clientReceive.toNat
    have answered := Client.authenticate_eq client ⟨user, .brutal rate, .rate receive.toNat⟩
      responsePadding (by rintro _ ⟨⟩; exact receive.toNat_lt)
    rw [Client.negotiatedSendRate_eq] at answered
    refine ⟨_, _, agreed, answered, (if_pos brutal).symm, ?_, ?_, ?_, ?_⟩
    · by_cases configured : 0 < clientSend.toNat
      · simp [client, configured, CongestionKind.ofRate]
      · simp [client, configured, CongestionKind.ofRate]
    · rintro _ ⟨⟩
      obtain ⟨below, capped⟩ := capped_le send.toNat clientReceive.toNat
      exact ⟨capped, fun _ => below⟩
    · intro used same
      by_cases configured : 0 < clientSend.toNat
      · simp only [client, configured, if_true, CongestionKind.ofRate, CongestionKind.brutal.injEq] at same
        subst used
        obtain ⟨below, capped⟩ := capped_le receive.toNat clientSend.toNat
        rw [Nat.min_comm]
        exact ⟨fun _ => below, capped⟩
      · simp only [client, configured, if_false, CongestionKind.ofRate] at same
        contradiction
    · rintro ⟨ignored, unlimited⟩
      exact absurd ⟨unlimited, ignored⟩ brutal.2
  · rw [if_neg brutal] at set
    simp only [config, set] at agreed
    have answered := Client.authenticate_eq client ⟨user, .bbr, .auto⟩ responsePadding
      (by rintro _ ⟨⟩)
    refine ⟨_, _, agreed, answered, (if_neg brutal).symm, rfl, ?_, ?_, fun _ => ⟨rfl, rfl⟩⟩
    · rintro _ ⟨⟩
    · rintro _ ⟨⟩

end SingQuic.Hysteria2
