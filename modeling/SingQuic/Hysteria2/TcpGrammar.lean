import SingQuic.Hysteria2.Protocol
import SingQuic.Hysteria2.UdpGrammar

/-! What the readers of the TCP handshake frames accept. They cast a declared length to
the pointer width before they compare it with its limit, so a length that does not fit is
compared by its low bits; the UDP decoder converts with a check instead. -/
namespace SingQuic.Hysteria2
open Wire

/-- The wire form of a request: its type, the address as text and the padding, each
length a number of any width. -/
def RequestFrame (frame : Bytes) (destination : Address) : Prop :=
  ∃ kind length text paddingLength padding, Varint.Spells kind 0x401 ∧
    Varint.Spells length (asBytes text).length ∧ 1 ≤ (asBytes text).length ∧
    (asBytes text).length ≤ 2048 ∧ Address.fromStr text = .ok destination ∧
    Varint.Spells paddingLength (List.length padding) ∧ padding.length ≤ 4096 ∧
    frame = kind ++ (length ++ (asBytes text ++ (paddingLength ++ padding)))

/-- The wire form of a response, with the outcome it reports. -/
def ResponseFrame (frame : Bytes) (outcome : Result Unit) : Prop :=
  ∃ status length message paddingLength padding, Varint.Spells length (List.length message) ∧
    message.length ≤ 2048 ∧ Varint.Spells paddingLength (List.length padding) ∧
    padding.length ≤ 4096 ∧ frame = status :: (length ++ (message ++ (paddingLength ++ padding))) ∧
    outcome = if status = 0 then .ok ()
      else .error (.protocol ("remote error: " ++ fromUtf8Lossy message))

/-- What the reader of requests owes on a stream, after each of the bytes that arrive: it
accepts the frames and nothing else, rejects each length beyond its limit as soon as it
is declared, does as a 64-bit target does, and agrees with the UDP decoder on which
lengths an address may have. -/
structure RequestLaw (usizeBits : Nat) (stream : Bytes) : Prop where
  accepts : ∀ arrived, arrived <+: stream → ∀ destination rest,
    readTcpRequest usizeBits arrived = .done destination rest ↔
      ∃ frame, RequestFrame frame destination ∧ arrived = frame ++ rest
  sameWidth : ∀ arrived, arrived <+: stream →
    readTcpRequest usizeBits arrived = readTcpRequest 64 arrived
  rejectsPadding : ∀ kind length address paddingLength declared rest, Varint.Spells kind 0x401 →
    Varint.Spells length (List.length address) → 1 ≤ address.length → address.length ≤ 2048 →
    Varint.Spells paddingLength declared → 4096 < declared →
    kind ++ (length ++ (address ++ (paddingLength ++ rest))) <+: stream →
    readTcpRequest usizeBits (kind ++ (length ++ (address ++ (paddingLength ++ rest)))) =
      .failed (.protocol "request padding is too large")
  agreesWithUdp : ∀ kind length declared header, Varint.Spells kind 0x401 →
    Varint.Spells length declared → kind ++ length <+: stream → List.length header = udpHeaderSize →
    (readTcpRequest usizeBits (kind ++ length) = .failed .invalidAddress ↔
      decodeMessage (header ++ length) = .error .invalidAddress)

/-- The same of the reader of responses. -/
structure ResponseLaw (usizeBits : Nat) (stream : Bytes) : Prop where
  accepts : ∀ arrived, arrived <+: stream → ∀ outcome rest,
    readTcpResponse usizeBits arrived = .done outcome rest ↔
      ∃ frame, ResponseFrame frame outcome ∧ arrived = frame ++ rest
  sameWidth : ∀ arrived, arrived <+: stream →
    readTcpResponse usizeBits arrived = readTcpResponse 64 arrived
  rejectsMessage : ∀ status length declared rest, Varint.Spells length declared → 2048 < declared →
    status :: (length ++ rest) <+: stream →
    readTcpResponse usizeBits (status :: (length ++ rest)) =
      .failed (.protocol "response message is too large")
  rejectsPadding : ∀ status length message paddingLength declared rest,
    Varint.Spells length (List.length message) → message.length ≤ 2048 →
    Varint.Spells paddingLength declared → 4096 < declared →
    status :: (length ++ (message ++ (paddingLength ++ rest))) <+: stream →
    readTcpResponse usizeBits (status :: (length ++ (message ++ (paddingLength ++ rest)))) =
      .failed (.protocol "response padding is too large")

/-- A declared length that does not fit, while its low bits are within the limits. -/
def Wraps (usizeBits least most declared : Nat) : Prop :=
  2 ^ usizeBits ≤ declared ∧ least ≤ declared % 2 ^ usizeBits ∧ declared % 2 ^ usizeBits ≤ most

/-- No length the reader of requests comes to wraps into its limits. -/
structure RequestUnwrapped (usizeBits : Nat) (stream : Bytes) : Prop where
  address : ∀ kind length declared, Varint.Spells kind 0x401 → Varint.Spells length declared →
    kind ++ length <+: stream → ¬ Wraps usizeBits 1 2048 declared
  padding : ∀ kind length address paddingLength declared, Varint.Spells kind 0x401 →
    Varint.Spells length (List.length address) → 1 ≤ address.length → address.length ≤ 2048 →
    Varint.Spells paddingLength declared →
    kind ++ (length ++ (address ++ paddingLength)) <+: stream → ¬ Wraps usizeBits 0 4096 declared

/-- The same of the reader of responses. -/
structure ResponseUnwrapped (usizeBits : Nat) (stream : Bytes) : Prop where
  message : ∀ status length declared, Varint.Spells length declared →
    status :: length <+: stream → ¬ Wraps usizeBits 0 2048 declared
  padding : ∀ status length message paddingLength declared,
    Varint.Spells length (List.length message) → message.length ≤ 2048 →
    Varint.Spells paddingLength declared →
    status :: (length ++ (message ++ paddingLength)) <+: stream → ¬ Wraps usizeBits 0 4096 declared

/-- A field behind its length: the length is cast, then held against its limits. -/
def sized (usizeBits least most : Nat) (error : Error) : Reader Error Bytes := do
  let length ← (· % 2 ^ usizeBits) <$> Varint.read
  if length < least ∨ most < length then Reader.fail error else Reader.readExact length

/-- What the reader of requests makes of the bytes of the address. -/
def destinationOf (address : Bytes) : Reader Error Address :=
  match fromUtf8 address with
  | none => Reader.fail .invalidAddress
  | some text =>
    match Address.fromStr text with
    | .error error => Reader.fail error
    | .ok destination => pure destination

/-- The reader of requests after the type. -/
def requestBody (usizeBits : Nat) : Reader Error Address := do
  let address ← sized usizeBits 1 maxTcpAddressLength .invalidAddress
  let _ ← sized usizeBits 0 maxPaddingLength (.protocol "request padding is too large")
  destinationOf address

/-- The outcome in a response. -/
def outcomeOf (status : UInt8) (message : Bytes) : Result Unit :=
  if status = 0 then .ok () else .error (.protocol ("remote error: " ++ fromUtf8Lossy message))

/-- The reader of responses after the status. -/
def responseBody (usizeBits : Nat) (status : UInt8) : Reader Error (Result Unit) := do
  let message ← sized usizeBits 0 maxMessageLength (.protocol "response message is too large")
  let _ ← sized usizeBits 0 maxPaddingLength (.protocol "response padding is too large")
  pure (outcomeOf status message)

section
variable {usizeBits least most : Nat} {error : Error}

theorem sized_bind {β : Type} (next : Bytes → Reader Error β) :
    (sized usizeBits least most error >>= next) = (((· % 2 ^ usizeBits) <$> Varint.read) >>= fun length =>
      if length < least ∨ most < length then Reader.fail error
      else Reader.readExact length >>= next) := by
  funext input
  rw [Reader.bind_apply, sized, Reader.bind_apply, Reader.bind_apply]
  cases ((· % 2 ^ usizeBits) <$> Varint.read : Reader Error Nat) input with
  | done length rest =>
    by_cases illegal : length < least ∨ most < length
    · simp only [if_pos illegal]
      rfl
    · simp only [if_neg illegal]
      rfl
  | more => rfl
  | failed error => rfl

/-- The comparisons of the source are the limits of its two fields. -/
theorem readTcpRequest_eq (usizeBits : Nat) : readTcpRequest usizeBits = (do
    let frameType ← Varint.read
    if frameType ≠ frameTypeTcpRequest then
      Reader.fail (.protocol ("unexpected stream frame type 0x" ++
        String.ofList (Nat.toDigits 16 frameType)))
    else requestBody usizeBits) := by
  simp only [requestBody, sized_bind, Nat.lt_one_iff, Nat.not_lt_zero, false_or]
  rfl

theorem readTcpResponse_eq (usizeBits : Nat) : readTcpResponse usizeBits =
    (do let status ← Reader.readByte; responseBody usizeBits status) := by
  have outcome : ∀ status message, (if status = 0 then pure (.ok ())
      else pure (.error (.protocol ("remote error: " ++ fromUtf8Lossy message))) : Reader Error (Result Unit)) =
      pure (outcomeOf status message) := by
    intro status message
    rw [outcomeOf]
    split <;> rfl
  simp only [responseBody, sized_bind, Nat.not_lt_zero, false_or, ← outcome]
  rfl

/-- On a target this wide the cast changes no declared length. -/
theorem cast_of_roomy {bytes : Bytes} {declared : Nat} (roomy : 62 ≤ usizeBits)
    (spelled : Varint.Spells bytes declared) : declared % 2 ^ usizeBits = declared := by
  have small := spelled.le_maximum
  have room : 2 ^ 62 ≤ 2 ^ usizeBits := Nat.pow_le_pow_right (by decide) roomy
  simp only [Varint.maximum] at small
  exact Nat.mod_eq_of_lt (by omega)

theorem cast_of_small {declared : Nat} (wide : 16 ≤ usizeBits) (small : declared < 2 ^ 16) :
    declared % 2 ^ usizeBits = declared :=
  Nat.mod_eq_of_lt (small.trans_le (Nat.pow_le_pow_right (by decide) wide))

/-- A field is read by what the cast leaves of its declared length. -/
theorem sized_declared {length : Bytes} {declared : Nat} (spelled : Varint.Spells length declared)
    (rest : Bytes) : sized usizeBits least most error (length ++ rest) =
      (if declared % 2 ^ usizeBits < least ∨ most < declared % 2 ^ usizeBits then Reader.fail error
        else Reader.readExact (declared % 2 ^ usizeBits)) rest := by
  rw [sized, Reader.bind_map, Reader.bind_done (Varint.read_eq_done_iff.mpr ⟨length, spelled, rfl⟩)]

/-- The cast is harmless unless the length wraps into its limits: it changes nothing, or
the length is beyond the limit before and after it. -/
theorem sized_same {input : Bytes} (wide : 16 ≤ usizeBits) (limit : most < 2 ^ 16)
    (unwrapped : ∀ length declared, Varint.Spells length declared → length <+: input →
      ¬ Wraps usizeBits least most declared) :
    sized usizeBits least most error input = sized 64 least most error input := by
  rw [sized, sized, Reader.bind_map, Reader.bind_map]
  apply Reader.bind_congr
  intro declared rest read
  obtain ⟨length, spelled, rfl⟩ := Varint.read_eq_done_iff.mp read
  rw [cast_of_roomy (show 62 ≤ 64 by decide) spelled]
  by_cases fits : declared < 2 ^ usizeBits
  · rw [Nat.mod_eq_of_lt fits]
  · have room : 2 ^ 16 ≤ 2 ^ usizeBits := Nat.pow_le_pow_right (by decide) wide
    have outside : declared % 2 ^ usizeBits < least ∨ most < declared % 2 ^ usizeBits := by
      by_contra inside
      exact unwrapped length declared spelled (List.prefix_append _ _) ⟨by omega, by omega, by omega⟩
    have beyond : declared < least ∨ most < declared := Or.inr (by omega)
    rw [if_pos outside, if_pos beyond]

/-- Where the cast is the identity, a field is accepted within its limits. -/
theorem sized_eq_done_iff {input data rest : Bytes} (roomy : 62 ≤ usizeBits) :
    sized usizeBits least most error input = .done data rest ↔
      ∃ length, Varint.Spells length data.length ∧ least ≤ data.length ∧ data.length ≤ most ∧
        input = length ++ (data ++ rest) := by
  constructor
  · intro read
    rw [sized, Reader.bind_map] at read
    obtain ⟨declared, left, counted, limited⟩ := Reader.bind_eq_done_iff.mp read
    obtain ⟨length, spelled, rfl⟩ := Varint.read_eq_done_iff.mp counted
    rw [cast_of_roomy roomy spelled] at limited
    split at limited
    · contradiction
    · rename_i legal
      obtain ⟨rfl, rfl⟩ := Reader.readExact_eq_done_iff.mp limited
      exact ⟨length, spelled, by omega, by omega, rfl⟩
  · rintro ⟨length, spelled, enough, short, rfl⟩
    have legal : ¬ (data.length < least ∨ most < data.length) := by omega
    rw [sized_declared spelled, cast_of_roomy roomy spelled, if_neg legal, Reader.readExact_append]

/-- A field within its limits is read on every target. -/
theorem sized_done {length data : Bytes} (wide : 16 ≤ usizeBits) (limit : most < 2 ^ 16)
    (spelled : Varint.Spells length (List.length data)) (enough : least ≤ data.length)
    (short : data.length ≤ most) (rest : Bytes) :
    sized usizeBits least most error (length ++ (data ++ rest)) = .done data rest := by
  have legal : ¬ (data.length < least ∨ most < data.length) := by omega
  rw [sized_declared spelled, cast_of_small wide (by omega), if_neg legal, Reader.readExact_append]

/-- Where the cast is the identity, a length beyond its limits is rejected. -/
theorem sized_failed {length : Bytes} {declared : Nat} (roomy : 62 ≤ usizeBits)
    (spelled : Varint.Spells length declared) (illegal : declared < least ∨ most < declared) (rest : Bytes) :
    sized usizeBits least most error (length ++ rest) = .failed error := by
  rw [sized_declared spelled, cast_of_roomy roomy spelled, if_pos illegal, Reader.fail_apply]

/-- A length that wraps into its limits is not what is rejected: nothing is read, or the
field is still to come. -/
theorem sized_wrapped {β : Type} {next : Bytes → Reader Error β} {length : Bytes} {declared : Nat}
    {reason : Error} (spelled : Varint.Spells length declared) (wraps : Wraps usizeBits least most declared)
    (failed : (sized usizeBits least most error >>= next) length = .failed reason) :
    next [] [] = .failed reason := by
  obtain ⟨_, enough, short⟩ := wraps
  have legal : ¬ (declared % 2 ^ usizeBits < least ∨ most < declared % 2 ^ usizeBits) := by omega
  rw [← List.append_nil length, Reader.bind_apply, sized_declared spelled, if_neg legal] at failed
  cases counted : declared % 2 ^ usizeBits with
  | zero =>
    rw [counted] at failed
    exact failed
  | succ count =>
    rw [counted] at failed
    contradiction

/-- A length that wraps is beyond its limit. -/
theorem Wraps.beyond {declared : Nat} (wraps : Wraps usizeBits least most declared) (wide : 16 ≤ usizeBits)
    (limit : most < 2 ^ 16) : most < declared := by
  have room : 2 ^ 16 ≤ 2 ^ usizeBits := Nat.pow_le_pow_right (by decide) wide
  exact limit.trans_le (room.trans wraps.1)

theorem destinationOf_eq_done_iff {address input rest : Bytes} {destination : Address} :
    destinationOf address input = .done destination rest ↔
      ∃ text, address = asBytes text ∧ Address.fromStr text = .ok destination ∧ input = rest := by
  constructor
  · intro named
    cases utf8 : fromUtf8 address with
    | none =>
      simp only [destinationOf, utf8] at named
      contradiction
    | some text =>
      cases parsed : Address.fromStr text with
      | error error =>
        simp only [destinationOf, utf8, parsed] at named
        contradiction
      | ok found =>
        simp only [destinationOf, utf8, parsed] at named
        obtain ⟨rfl, rfl⟩ := Read.done.inj named
        exact ⟨text, fromUtf8_eq_some_iff.mp utf8, parsed, rfl⟩
  · rintro ⟨text, rfl, parsed, rfl⟩
    simp only [destinationOf, fromUtf8_asBytes, parsed, Reader.pure_apply]

/-- The only error an address is refused with. -/
theorem destinationOf_failed {address input : Bytes} {reason : Error}
    (failed : destinationOf address input = .failed reason) : reason = .invalidAddress := by
  cases utf8 : fromUtf8 address with
  | none =>
    simp only [destinationOf, utf8] at failed
    exact (Read.failed.inj failed).symm
  | some text =>
    cases parsed : Address.fromStr text with
    | error error =>
      simp only [destinationOf, utf8, parsed] at failed
      rw [← Read.failed.inj failed, Address.fromStr_error parsed]
    | ok found =>
      simp only [destinationOf, utf8, parsed] at failed
      contradiction

theorem readTcpRequest_kind {kind : Bytes} (spelled : Varint.Spells kind 0x401) (rest : Bytes) :
    readTcpRequest usizeBits (kind ++ rest) = requestBody usizeBits rest := by
  have request : ¬ 0x401 ≠ frameTypeTcpRequest := not_not.mpr rfl
  rw [readTcpRequest_eq, Reader.bind_done (Varint.read_eq_done_iff.mpr ⟨kind, spelled, rfl⟩),
    if_neg request]

theorem requestBody_same {kind rest : Bytes} (wide : 16 ≤ usizeBits)
    (spelledKind : Varint.Spells kind 0x401) (unwrapped : RequestUnwrapped usizeBits (kind ++ rest)) :
    requestBody usizeBits rest = requestBody 64 rest := by
  have same : sized usizeBits 1 maxTcpAddressLength .invalidAddress rest =
      sized 64 1 maxTcpAddressLength .invalidAddress rest := by
    apply sized_same wide (by decide)
    rintro length declared spelled ⟨left, rfl⟩
    exact unwrapped.address kind length declared spelledKind spelled ⟨left, by rw [List.append_assoc]⟩
  rw [requestBody, requestBody, Reader.bind_apply, same, ← Reader.bind_apply]
  apply Reader.bind_congr
  intro address left read
  obtain ⟨length, spelled, positive, short, rfl⟩ := (sized_eq_done_iff (by decide)).mp read
  rw [Reader.bind_apply, Reader.bind_apply, sized_same wide (by decide)]
  rintro paddingLength declared spelledPadding ⟨later, rfl⟩
  apply unwrapped.padding kind length address paddingLength declared spelledKind spelled positive short
    spelledPadding
  exact ⟨later, by simp⟩

theorem RequestUnwrapped.mono {stream arrived : Bytes} (unwrapped : RequestUnwrapped usizeBits stream)
    (part : arrived <+: stream) : RequestUnwrapped usizeBits arrived where
  address kind length declared spelledKind spelled here :=
    unwrapped.address kind length declared spelledKind spelled (here.trans part)
  padding kind length address paddingLength declared spelledKind spelled positive short
      spelledPadding here :=
    unwrapped.padding kind length address paddingLength declared spelledKind spelled positive short
      spelledPadding (here.trans part)

theorem readTcpRequest_same {arrived : Bytes} (wide : 16 ≤ usizeBits)
    (unwrapped : RequestUnwrapped usizeBits arrived) :
    readTcpRequest usizeBits arrived = readTcpRequest 64 arrived := by
  rw [readTcpRequest_eq, readTcpRequest_eq]
  apply Reader.bind_congr
  intro frameType rest read
  obtain ⟨kind, spelledKind, rfl⟩ := Varint.read_eq_done_iff.mp read
  split
  · rfl
  · rename_i request
    obtain rfl : frameType = 0x401 := not_not.mp request
    exact requestBody_same wide spelledKind unwrapped

theorem readTcpRequest_padding {kind length address rest : Bytes} (wide : 16 ≤ usizeBits)
    (spelledKind : Varint.Spells kind 0x401) (spelled : Varint.Spells length (List.length address))
    (positive : 1 ≤ address.length) (short : address.length ≤ 2048) :
    readTcpRequest usizeBits (kind ++ (length ++ (address ++ rest))) =
      (sized usizeBits 0 maxPaddingLength (.protocol "request padding is too large") >>=
        fun _ => destinationOf address) rest := by
  have read : sized usizeBits 1 maxTcpAddressLength .invalidAddress (length ++ (address ++ rest)) =
      .done address rest := sized_done wide (by decide) spelled positive short rest
  rw [readTcpRequest_kind spelledKind, requestBody, Reader.bind_done read]

/-- Where the cast is the identity, exactly the request frames are accepted. -/
theorem readTcpRequest_eq_done_iff {arrived rest : Bytes} {destination : Address}
    (roomy : 62 ≤ usizeBits) : readTcpRequest usizeBits arrived = .done destination rest ↔
      ∃ frame, RequestFrame frame destination ∧ arrived = frame ++ rest := by
  constructor
  · intro read
    rw [readTcpRequest_eq] at read
    obtain ⟨frameType, left, typed, body⟩ := Reader.bind_eq_done_iff.mp read
    obtain ⟨kind, spelledKind, rfl⟩ := Varint.read_eq_done_iff.mp typed
    split at body
    · contradiction
    rename_i request
    obtain rfl : frameType = 0x401 := not_not.mp request
    obtain ⟨address, left, addressed, further⟩ := Reader.bind_eq_done_iff.mp body
    obtain ⟨length, spelled, positive, short, rfl⟩ := (sized_eq_done_iff roomy).mp addressed
    obtain ⟨padding, left, padded, named⟩ := Reader.bind_eq_done_iff.mp further
    obtain ⟨paddingLength, spelledPadding, _, small, rfl⟩ := (sized_eq_done_iff roomy).mp padded
    obtain ⟨text, rfl, parsed, rfl⟩ := destinationOf_eq_done_iff.mp named
    refine ⟨_, ⟨kind, length, text, paddingLength, padding, spelledKind, spelled, positive, short,
      parsed, spelledPadding, small, rfl⟩, by simp⟩
  · rintro ⟨frame, ⟨kind, length, text, paddingLength, padding, spelledKind, spelled, positive,
      short, parsed, spelledPadding, small, rfl⟩, rfl⟩
    have wide : 16 ≤ usizeBits := by omega
    have padded : sized usizeBits 0 maxPaddingLength (.protocol "request padding is too large")
        (paddingLength ++ (padding ++ rest)) = .done padding rest :=
      sized_done wide (by decide) spelledPadding (Nat.zero_le _) small rest
    simp only [List.append_assoc]
    rw [readTcpRequest_padding wide spelledKind spelled positive short, Reader.bind_done padded]
    exact destinationOf_eq_done_iff.mpr ⟨text, rfl, parsed, rfl⟩

/-- Right after the declared length the UDP decoder tells an illegal one from an address
that is still missing. -/
theorem decodeMessage_declared {header length : Bytes} {declared : Nat}
    (size : header.length = udpHeaderSize) (spelled : Varint.Spells length declared) :
    decodeMessage (header ++ length) =
      if declared = 0 ∨ maxAddressLength < declared then .error .invalidAddress
      else .error (.protocol "truncated Hysteria2 UDP address") := by
  have body : (header ++ length).drop udpHeaderSize = length ++ [] := by
    rw [← size, List.drop_left, List.append_nil]
  have read : decodeVarint ((header ++ length).drop udpHeaderSize) = .ok (declared, length.length) :=
    decodeVarint_eq_ok_iff.mpr ⟨length, [], spelled, body, rfl⟩
  have enough : ¬ (header ++ length).length < udpHeaderSize := by
    rw [List.length_append]
    omega
  rw [decodeMessage, if_neg enough, read]
  dsimp only
  split
  · rfl
  · rename_i legal
    have short : (header ++ length).length < udpHeaderSize + length.length + declared := by
      rw [List.length_append]
      omega
    rw [if_pos short]

/-- Right after the declared length a target of this width waits for the address, or
rejects the length. -/
theorem readTcpRequest_declared {kind length : Bytes} {declared : Nat}
    (spelledKind : Varint.Spells kind 0x401) (spelled : Varint.Spells length declared) :
    readTcpRequest usizeBits (kind ++ length) =
      if declared % 2 ^ usizeBits = 0 ∨ maxTcpAddressLength < declared % 2 ^ usizeBits then
        .failed .invalidAddress
      else .more := by
  rw [readTcpRequest_kind spelledKind, ← List.append_nil length, requestBody, Reader.bind_apply,
    sized_declared spelled]
  simp only [Nat.lt_one_iff]
  by_cases illegal : declared % 2 ^ usizeBits = 0 ∨ maxTcpAddressLength < declared % 2 ^ usizeBits
  · simp only [if_pos illegal, Reader.fail_apply]
  · have waits : ¬ declared % 2 ^ usizeBits ≤ ([] : Bytes).length := by
      rw [List.length_nil]
      omega
    simp only [if_neg illegal, Reader.readExact, if_neg waits]

theorem RequestUnwrapped.law {stream : Bytes} (wide : 16 ≤ usizeBits)
    (unwrapped : RequestUnwrapped usizeBits stream) : RequestLaw usizeBits stream where
  accepts arrived part destination rest := by
    rw [readTcpRequest_same wide (unwrapped.mono part)]
    exact readTcpRequest_eq_done_iff (by decide)
  sameWidth arrived part := readTcpRequest_same wide (unwrapped.mono part)
  rejectsPadding kind length address paddingLength declared rest spelledKind spelled positive short
      spelledPadding large part := by
    rw [readTcpRequest_same wide (unwrapped.mono part),
      readTcpRequest_padding (by decide) spelledKind spelled positive short]
    exact Reader.bind_failed (sized_failed (by decide) spelledPadding (Or.inr large) rest)
  agreesWithUdp kind length declared header spelledKind spelled part size := by
    rw [readTcpRequest_same wide (unwrapped.mono part), readTcpRequest_declared spelledKind spelled,
      cast_of_roomy (by decide) spelled, decodeMessage_declared size spelled]
    have limits : maxTcpAddressLength = maxAddressLength := rfl
    rw [limits]
    split <;> simp

/-- A length that wraps is told apart from a 64-bit target as soon as it is declared. -/
theorem RequestLaw.unwrapped {stream : Bytes} (wide : 16 ≤ usizeBits)
    (law : RequestLaw usizeBits stream) : RequestUnwrapped usizeBits stream where
  address kind length declared spelledKind spelled part wraps := by
    have illegal : declared = 0 ∨ maxTcpAddressLength < declared := Or.inr (wraps.beyond wide (by decide))
    obtain ⟨_, positive, short⟩ := wraps
    have legal : ¬ (declared % 2 ^ usizeBits = 0 ∨ maxTcpAddressLength < declared % 2 ^ usizeBits) := by
      simp only [maxTcpAddressLength]
      omega
    have same := law.sameWidth _ part
    rw [readTcpRequest_declared spelledKind spelled, readTcpRequest_declared spelledKind spelled,
      cast_of_roomy (show 62 ≤ 64 by decide) spelled, if_neg legal, if_pos illegal] at same
    contradiction
  padding kind length address paddingLength declared spelledKind spelled positive short
      spelledPadding part wraps := by
    have rejected := law.rejectsPadding kind length address paddingLength declared [] spelledKind
      spelled positive short spelledPadding (wraps.beyond wide (by decide)) (by rwa [List.append_nil])
    rw [readTcpRequest_padding wide spelledKind spelled positive short, List.append_nil] at rejected
    -- what is left to refuse is the address, and that with another error
    have refused := sized_wrapped spelledPadding wraps rejected
    have other := destinationOf_failed refused
    contradiction

theorem readTcpResponse_status (status : UInt8) (rest : Bytes) :
    readTcpResponse usizeBits (status :: rest) = responseBody usizeBits status rest := by
  rw [readTcpResponse_eq, Reader.bind_done (Reader.readByte_cons _ _)]

theorem ResponseUnwrapped.mono {stream arrived : Bytes} (unwrapped : ResponseUnwrapped usizeBits stream)
    (part : arrived <+: stream) : ResponseUnwrapped usizeBits arrived where
  message status length declared spelled here :=
    unwrapped.message status length declared spelled (here.trans part)
  padding status length message paddingLength declared spelled short spelledPadding here :=
    unwrapped.padding status length message paddingLength declared spelled short spelledPadding
      (here.trans part)

theorem readTcpResponse_same {arrived : Bytes} (wide : 16 ≤ usizeBits)
    (unwrapped : ResponseUnwrapped usizeBits arrived) :
    readTcpResponse usizeBits arrived = readTcpResponse 64 arrived := by
  cases arrived with
  | nil => rfl
  | cons status rest =>
    have same : sized usizeBits 0 maxMessageLength (.protocol "response message is too large") rest =
        sized 64 0 maxMessageLength (.protocol "response message is too large") rest := by
      apply sized_same wide (by decide)
      rintro length declared spelled ⟨left, rfl⟩
      exact unwrapped.message status length declared spelled ⟨left, rfl⟩
    rw [readTcpResponse_status, readTcpResponse_status, responseBody, responseBody, Reader.bind_apply,
      same, ← Reader.bind_apply]
    apply Reader.bind_congr
    intro message left read
    obtain ⟨length, spelled, _, short, rfl⟩ := (sized_eq_done_iff (by decide)).mp read
    rw [Reader.bind_apply, Reader.bind_apply, sized_same wide (by decide)]
    rintro paddingLength declared spelledPadding ⟨later, rfl⟩
    apply unwrapped.padding status length message paddingLength declared spelled short spelledPadding
    exact ⟨later, by simp⟩

theorem readTcpResponse_padding {length message rest : Bytes} (wide : 16 ≤ usizeBits) (status : UInt8)
    (spelled : Varint.Spells length (List.length message)) (short : message.length ≤ 2048) :
    readTcpResponse usizeBits (status :: (length ++ (message ++ rest))) =
      (sized usizeBits 0 maxPaddingLength (.protocol "response padding is too large") >>=
        fun _ => pure (outcomeOf status message)) rest := by
  have read : sized usizeBits 0 maxMessageLength (.protocol "response message is too large")
      (length ++ (message ++ rest)) = .done message rest :=
    sized_done wide (by decide) spelled (Nat.zero_le _) short rest
  rw [readTcpResponse_status, responseBody, Reader.bind_done read]

/-- Where the cast is the identity, exactly the response frames are accepted. -/
theorem readTcpResponse_eq_done_iff {arrived rest : Bytes} {outcome : Result Unit}
    (roomy : 62 ≤ usizeBits) : readTcpResponse usizeBits arrived = .done outcome rest ↔
      ∃ frame, ResponseFrame frame outcome ∧ arrived = frame ++ rest := by
  constructor
  · intro read
    rw [readTcpResponse_eq] at read
    obtain ⟨status, left, first, body⟩ := Reader.bind_eq_done_iff.mp read
    obtain rfl := Reader.readByte_eq_done_iff.mp first
    obtain ⟨message, left, worded, further⟩ := Reader.bind_eq_done_iff.mp body
    obtain ⟨length, spelled, _, short, rfl⟩ := (sized_eq_done_iff roomy).mp worded
    obtain ⟨padding, left, padded, reported⟩ := Reader.bind_eq_done_iff.mp further
    obtain ⟨paddingLength, spelledPadding, _, small, rfl⟩ := (sized_eq_done_iff roomy).mp padded
    obtain ⟨rfl, rfl⟩ := Read.done.inj reported
    refine ⟨_, ⟨status, length, message, paddingLength, padding, spelled, short, spelledPadding, small,
      rfl, rfl⟩, by simp⟩
  · rintro ⟨frame, ⟨status, length, message, paddingLength, padding, spelled, short,
      spelledPadding, small, rfl, rfl⟩, rfl⟩
    have wide : 16 ≤ usizeBits := by omega
    have padded : sized usizeBits 0 maxPaddingLength (.protocol "response padding is too large")
        (paddingLength ++ (padding ++ rest)) = .done padding rest :=
      sized_done wide (by decide) spelledPadding (Nat.zero_le _) small rest
    simp only [List.cons_append, List.append_assoc]
    rw [readTcpResponse_padding wide status spelled short, Reader.bind_done padded]
    rfl

theorem ResponseUnwrapped.law {stream : Bytes} (wide : 16 ≤ usizeBits)
    (unwrapped : ResponseUnwrapped usizeBits stream) : ResponseLaw usizeBits stream where
  accepts arrived part outcome rest := by
    rw [readTcpResponse_same wide (unwrapped.mono part)]
    exact readTcpResponse_eq_done_iff (by decide)
  sameWidth arrived part := readTcpResponse_same wide (unwrapped.mono part)
  rejectsMessage status length declared rest spelled large part := by
    rw [readTcpResponse_same wide (unwrapped.mono part), readTcpResponse_status]
    exact Reader.bind_failed (sized_failed (by decide) spelled (Or.inr large) rest)
  rejectsPadding status length message paddingLength declared rest spelled short spelledPadding
      large part := by
    rw [readTcpResponse_same wide (unwrapped.mono part),
      readTcpResponse_padding (by decide) status spelled short]
    exact Reader.bind_failed (sized_failed (by decide) spelledPadding (Or.inr large) rest)

theorem ResponseLaw.unwrapped {stream : Bytes} (wide : 16 ≤ usizeBits)
    (law : ResponseLaw usizeBits stream) : ResponseUnwrapped usizeBits stream where
  message status length declared spelled part wraps := by
    have rejected := law.rejectsMessage status length declared [] spelled (wraps.beyond wide (by decide))
      (by rwa [List.append_nil])
    rw [readTcpResponse_status, List.append_nil, responseBody] at rejected
    have waiting := sized_wrapped spelled wraps rejected
    contradiction
  padding status length message paddingLength declared spelled short spelledPadding part wraps := by
    have rejected := law.rejectsPadding status length message paddingLength declared [] spelled short
      spelledPadding (wraps.beyond wide (by decide)) (by rwa [List.append_nil])
    rw [readTcpResponse_padding wide status spelled short, List.append_nil] at rejected
    have read := sized_wrapped spelledPadding wraps rejected
    contradiction

theorem not_wraps_of_roomy {bytes : Bytes} {declared : Nat} (roomy : 62 ≤ usizeBits)
    (spelled : Varint.Spells bytes declared) : ¬ Wraps usizeBits least most declared := by
  rintro ⟨large, _, _⟩
  have kept := cast_of_roomy roomy spelled
  have below : declared % 2 ^ usizeBits < 2 ^ usizeBits := Nat.mod_lt _ (Nat.two_pow_pos _)
  omega

theorem RequestUnwrapped.of_roomy (roomy : 62 ≤ usizeBits) (stream : Bytes) :
    RequestUnwrapped usizeBits stream where
  address _ _ _ _ spelled _ := not_wraps_of_roomy roomy spelled
  padding _ _ _ _ _ _ _ _ _ spelled _ := not_wraps_of_roomy roomy spelled

theorem ResponseUnwrapped.of_roomy (roomy : 62 ≤ usizeBits) (stream : Bytes) :
    ResponseUnwrapped usizeBits stream where
  message _ _ _ spelled _ := not_wraps_of_roomy roomy spelled
  padding _ _ _ _ _ _ _ spelled _ := not_wraps_of_roomy roomy spelled

end

/-- The readers of both frames keep to their limits on a stream exactly if no length they
come to on it wraps into them, which on a 64-bit target none does. -/
theorem tcp_limits_iff (usizeBits : Nat) (wide : 16 ≤ usizeBits) (stream : Bytes) :
    (RequestLaw usizeBits stream ↔ RequestUnwrapped usizeBits stream) ∧
    (ResponseLaw usizeBits stream ↔ ResponseUnwrapped usizeBits stream) ∧
    (62 ≤ usizeBits → RequestUnwrapped usizeBits stream ∧ ResponseUnwrapped usizeBits stream) :=
  ⟨⟨RequestLaw.unwrapped wide, RequestUnwrapped.law wide⟩,
    ⟨ResponseLaw.unwrapped wide, ResponseUnwrapped.law wide⟩,
    fun roomy => ⟨.of_roomy roomy stream, .of_roomy roomy stream⟩⟩

/-- A request whose address length is written as `2 ^ 32 + 3`. -/
def wrappedRequest : Bytes :=
  [0x44, 0x01, 0xc0, 0, 0, 1, 0, 0, 0, 3, 0x6e, 0x3a, 0x31, 0]

theorem tcp_limits_iff_wide : 16 ≤ 64 ∧ RequestLaw 64 wrappedRequest ∧ ResponseLaw 64 wrappedRequest := by
  obtain ⟨request, response, always⟩ := tcp_limits_iff 64 (by decide) wrappedRequest
  obtain ⟨free, free'⟩ := always (by decide)
  exact ⟨by decide, request.mpr free, response.mpr free'⟩

/-- On a 32-bit target the same request is accepted. -/
theorem tcp_limits_wrapped : ¬ ∀ usizeBits stream, usizeBits = 32 ∨ usizeBits = 64 →
    RequestLaw usizeBits stream ∧ ResponseLaw usizeBits stream := by
  intro always
  have same := (always 32 wrappedRequest (Or.inl rfl)).1.sameWidth _ (List.prefix_refl _)
  revert same
  decide

end SingQuic.Hysteria2
