import SingQuic.Address
import SingQuic.Varint
import SingQuic.Lib.Utf8

/-! The HTTP/3 authentication request and the TCP handshake frames of Hysteria2. A
writer returns the bytes of its successful writes; the padding it draws is an
argument. -/
namespace SingQuic.Hysteria2
open Wire

def frameTypeTcpRequest : Nat := 0x401
def urlAuthority : String := "hysteria"
def urlPath : String := "/auth"
def statusAuthOk : Nat := 233
def headerAuth : String := "hysteria-auth"
def headerUdp : String := "hysteria-udp"
def headerCcRx : String := "hysteria-cc-rx"
def headerPadding : String := "hysteria-padding"

def maxTcpAddressLength : Nat := 2048
def maxMessageLength : Nat := 2048
def maxPaddingLength : Nat := 4096

/-- A resolved HTTP/3 request. Header names are in lower case, as the HTTP
library keeps them. -/
structure Request where
  method : String
  authority : Option String
  path : String
  headers : List (String × Bytes)
  deriving DecidableEq, Repr

/-- `HeaderMap::get`: the first value under a name. -/
def Request.header (request : Request) (name : String) : Option Bytes :=
  (request.headers.find? (·.1 = name)).map Prod.snd

/-- `HeaderValue::to_str`: only visible ASCII, blanks and tabs are text. -/
def headerText (value : Bytes) : Option String :=
  if value.all fun byte => (32 ≤ byte ∧ byte < 127) ∨ byte = 9 then fromUtf8 value else none

inductive CongestionReceive where
  | auto
  | rate (bytesPerSecond : Nat)
  deriving DecidableEq, Repr

def parseCongestionReceive (value : Option Bytes) : CongestionReceive :=
  match value.bind headerText with
  | none => .rate 0
  | some text =>
    if text = "auto" then .auto
    else .rate ((Address.parseUnsigned (2 ^ 64 - 1) text.toList).getD 0)

def congestionReceiveValue : CongestionReceive → String
  | .auto => "auto"
  | .rate bytesPerSecond => toString bytesPerSecond

/-- `usizeBits` is the pointer width of the target, to which lengths are cast. -/
def readTcpRequest (usizeBits : Nat) : Reader Error Address := do
  let frameType ← Varint.read
  if frameType ≠ frameTypeTcpRequest then
    Reader.fail (.protocol ("unexpected stream frame type 0x" ++
      String.ofList (Nat.toDigits 16 frameType)))
  else
    let addressLength ← (· % 2 ^ usizeBits) <$> Varint.read
    if addressLength = 0 ∨ maxTcpAddressLength < addressLength then Reader.fail .invalidAddress
    else
      let address ← Reader.readExact addressLength
      let paddingLength ← (· % 2 ^ usizeBits) <$> Varint.read
      if maxPaddingLength < paddingLength then
        Reader.fail (.protocol "request padding is too large")
      else
        let _ ← Reader.readExact paddingLength
        match fromUtf8 address with
        | none => Reader.fail .invalidAddress
        | some text =>
          match Address.fromStr text with
          | .error error => Reader.fail error
          | .ok destination => pure destination

/-- The texts `padding` may draw: letters and digits, of a length in the given range. -/
def Drawn (min max : Nat) (padding : String) : Prop :=
  min ≤ padding.toList.length ∧ padding.toList.length < max ∧
    ∀ c ∈ padding.toList, c.isAlphanum = true

instance (min max : Nat) (padding : String) : Decidable (Drawn min max padding) :=
  inferInstanceAs (Decidable (_ ∧ _))

def writeTcpRequest (destination : Address) (padding : String) : Result Bytes :=
  let address := asBytes destination.display
  if address.length = 0 ∨ maxTcpAddressLength < address.length then .error .invalidAddress
  else do
    let frameType ← Varint.encode (UInt64.ofNat frameTypeTcpRequest)
    let addressLength ← Varint.encode (UInt64.ofNat address.length)
    let paddingLength ← Varint.encode (UInt64.ofNat (asBytes padding).length)
    .ok (frameType ++ (addressLength ++ (address ++ (paddingLength ++ asBytes padding))))

def writeTcpResponse (result : Except String Unit) (padding : String) : Result Bytes :=
  let (status, message) : UInt8 × String := match result with
    | .ok () => (0, "")
    | .error message => (1, message)
  let message := (asBytes message).take maxMessageLength
  do
    let messageLength ← Varint.encode (UInt64.ofNat message.length)
    let paddingLength ← Varint.encode (UInt64.ofNat (asBytes padding).length)
    .ok ([status] ++ (messageLength ++ (message ++ (paddingLength ++ asBytes padding))))

/-- `String::from_utf8_lossy`. -/
def fromUtf8Lossy (bytes : Bytes) : String := String.ofList (Utf8.lossy 0 bytes)

/-- The outcome the frame reports is told from the bytes left unread, which the
caller goes on with or drops. -/
def readTcpResponse (usizeBits : Nat) : Reader Error (Result Unit) := do
  let status ← Reader.readByte
  let messageLength ← (· % 2 ^ usizeBits) <$> Varint.read
  if maxMessageLength < messageLength then Reader.fail (.protocol "response message is too large")
  else
    let message ← Reader.readExact messageLength
    let paddingLength ← (· % 2 ^ usizeBits) <$> Varint.read
    if maxPaddingLength < paddingLength then
      Reader.fail (.protocol "response padding is too large")
    else
      let _ ← Reader.readExact paddingLength
      if status = 0 then pure (.ok ())
      else pure (.error (.protocol ("remote error: " ++ fromUtf8Lossy message)))

theorem fromUtf8Lossy_asBytes (text : String) : fromUtf8Lossy (asBytes text) = text := by
  rw [fromUtf8Lossy, asBytes_eq, Utf8.lossy_flatMap, String.ofList_toList]

theorem alphanum_range {c : Char} (plain : c.isAlphanum = true) : 48 ≤ c.val.toNat ∧ c.val.toNat ≤ 122 := by
  have letter : (decide (c.val ≥ 'A'.val ∧ c.val ≤ 'Z'.val) || (c.val ≥ 'a'.val && c.val ≤ 'z'.val) ||
      (c.val ≥ '0'.val && c.val ≤ '9'.val)) = true := plain
  simp only [Bool.or_eq_true, Bool.and_eq_true, decide_eq_true_eq, UInt32.le_iff_toNat_le,
    ge_iff_le] at letter
  have upper : 'A'.val.toNat = 65 ∧ 'Z'.val.toNat = 90 := ⟨rfl, rfl⟩
  have lower : 'a'.val.toNat = 97 ∧ 'z'.val.toNat = 122 := ⟨rfl, rfl⟩
  have digit : '0'.val.toNat = 48 ∧ '9'.val.toNat = 57 := ⟨rfl, rfl⟩
  omega

theorem utf8EncodeChar_alphanum {c : Char} (plain : c.isAlphanum = true) :
    String.utf8EncodeChar c = [UInt8.ofNat c.val.toNat] :=
  if_pos ((alphanum_range plain).2.trans (by decide))

/-- Drawn padding takes one byte a character. -/
theorem Drawn.length_asBytes {min max : Nat} {padding : String} (drawn : Drawn min max padding) :
    (asBytes padding).length = padding.toList.length := by
  have single : ∀ c ∈ padding.toList, (String.utf8EncodeChar c).length = 1 := by
    intro c member
    rw [utf8EncodeChar_alphanum (drawn.2.2 c member), List.length_singleton]
  rw [asBytes_eq, List.length_flatMap, List.map_congr_left single, List.map_const',
    List.sum_replicate_nat, Nat.mul_one]

/-- A length within the limits of the frames survives the cast to the pointer width. -/
theorem readLength {usizeBits value : Nat} {bytes : Bytes} (wide : 16 ≤ usizeBits) (small : value < 2 ^ 16)
    (read : ∀ rest, Varint.read (bytes ++ rest) = .done value rest) (rest : Bytes) :
    ((· % 2 ^ usizeBits) <$> Varint.read : Reader Error Nat) (bytes ++ rest) = .done value rest := by
  have fits : value < 2 ^ usizeBits := small.trans_le (Nat.pow_le_pow_right (by decide) wide)
  rw [Reader.map_done (read rest), Nat.mod_eq_of_lt fits]

/-- The written request is read back as the address its text names. -/
theorem readTcpRequest_written {usizeBits : Nat} {destination : Address} {padding : String}
    {bytes : Bytes} (wide : 16 ≤ usizeBits) (drawn : Drawn 64 512 padding)
    (named : destination.RoundTrips) (written : writeTcpRequest destination padding = .ok bytes)
    (rest : Bytes) : readTcpRequest usizeBits (bytes ++ rest) = .done destination rest := by
  simp only [writeTcpRequest] at written
  split at written
  · contradiction
  · rename_i lengths
    have size := drawn.length_asBytes
    obtain ⟨_, short, _⟩ := drawn
    have limit : maxTcpAddressLength = 2048 := rfl
    have most : Varint.maximum = 4611686018427387903 := rfl
    obtain ⟨kind, kindWritten, kindRead⟩ :=
      Varint.exists_encode (show frameTypeTcpRequest ≤ Varint.maximum by decide)
    obtain ⟨addressSize, addressWritten, addressRead⟩ :=
      Varint.exists_encode (show (asBytes destination.display).length ≤ Varint.maximum by omega)
    obtain ⟨paddingSize, paddingWritten, paddingRead⟩ :=
      Varint.exists_encode (show (asBytes padding).length ≤ Varint.maximum by omega)
    rw [kindWritten, addressWritten, paddingWritten] at written
    obtain rfl := Except.ok.inj written
    have room : ¬maxPaddingLength < (asBytes padding).length := by
      have : maxPaddingLength = 4096 := rfl
      omega
    simp only [List.append_assoc]
    rw [readTcpRequest, Reader.bind_done (kindRead _), if_neg (by simp),
      Reader.bind_done (readLength wide (by omega) addressRead _), if_neg lengths,
      Reader.bind_done (Reader.readExact_append _ _),
      Reader.bind_done (readLength wide (by omega) paddingRead _), if_neg room,
      Reader.bind_done (Reader.readExact_append _ _), fromUtf8_asBytes]
    have same : Address.fromStr destination.display = .ok destination := named
    simp only [same, Reader.pure_apply]

/-- What the reader of a response reports of the result it was written for. -/
def reported : Except String Unit → Result Unit
  | .ok () => .ok ()
  | .error message => .error (.protocol ("remote error: " ++
      fromUtf8Lossy ((asBytes message).take maxMessageLength)))

/-- A message within the limit is reported as it is. -/
theorem reported_message {message : String} (short : (asBytes message).length ≤ maxMessageLength) :
    reported (.error message) = .error (.protocol ("remote error: " ++ message)) := by
  rw [reported, List.take_of_length_le short, fromUtf8Lossy_asBytes]

/-- The response can always be written, and is read back as the result it reports. -/
theorem readTcpResponse_written {usizeBits : Nat} {padding : String} (wide : 16 ≤ usizeBits)
    (drawn : Drawn 128 1024 padding) (result : Except String Unit) :
    ∃ bytes, writeTcpResponse result padding = .ok bytes ∧
      ∀ rest, readTcpResponse usizeBits (bytes ++ rest) = .done (reported result) rest := by
  have size := drawn.length_asBytes
  obtain ⟨_, short, _⟩ := drawn
  have most : Varint.maximum = 4611686018427387903 := rfl
  have room : ¬maxPaddingLength < (asBytes padding).length := by
    have : maxPaddingLength = 4096 := rfl
    omega
  obtain ⟨paddingSize, paddingWritten, paddingRead⟩ :=
    Varint.exists_encode (show (asBytes padding).length ≤ Varint.maximum by omega)
  -- a status byte, a text within the limit and the padding, whatever the status is
  have frame (status : UInt8) (text : Bytes) (limit : text.length ≤ maxMessageLength) :
      ∃ textSize, Varint.encode (UInt64.ofNat text.length) = .ok textSize ∧ ∀ rest,
        readTcpResponse usizeBits
            (status :: (textSize ++ (text ++ (paddingSize ++ (asBytes padding ++ rest))))) =
          .done (if status = 0 then .ok ()
            else .error (.protocol ("remote error: " ++ fromUtf8Lossy text))) rest := by
    have bound : maxMessageLength = 2048 := rfl
    obtain ⟨textSize, textWritten, textRead⟩ :=
      Varint.exists_encode (show text.length ≤ Varint.maximum by omega)
    refine ⟨textSize, textWritten, fun rest => ?_⟩
    rw [readTcpResponse, Reader.bind_done (Reader.readByte_cons _ _),
      Reader.bind_done (readLength wide (by omega) textRead _), if_neg (by omega),
      Reader.bind_done (Reader.readExact_append _ _),
      Reader.bind_done (readLength wide (by omega) paddingRead _), if_neg room,
      Reader.bind_done (Reader.readExact_append _ _)]
    split <;> rfl
  cases result with
  | ok value =>
    obtain ⟨textSize, textWritten, textRead⟩ := frame 0 [] (by simp)
    refine ⟨[0] ++ (textSize ++ ([] ++ (paddingSize ++ asBytes padding))), ?_, fun rest => ?_⟩
    · have empty : (asBytes "").take maxMessageLength = [] := rfl
      simp only [writeTcpResponse, empty, textWritten, paddingWritten]
      rfl
    · simpa [reported] using textRead rest
  | error message =>
    obtain ⟨textSize, textWritten, textRead⟩ :=
      frame 1 ((asBytes message).take maxMessageLength) (List.length_take_le _ _)
    refine ⟨[1] ++ (textSize ++ ((asBytes message).take maxMessageLength ++
      (paddingSize ++ asBytes padding))), ?_, fun rest => ?_⟩
    · simp only [writeTcpResponse, textWritten, paddingWritten]
      rfl
    · simpa [reported] using textRead rest

/-- The frames that open a proxied TCP stream are read back as what they were written
for, and the application bytes after them stay unread. -/
theorem tcp_framing (usizeBits : Nat) (wide : 16 ≤ usizeBits) :
    (∀ (destination : Address) (padding : String) (bytes rest : Bytes), Drawn 64 512 padding →
      destination.RoundTrips → writeTcpRequest destination padding = .ok bytes →
      readTcpRequest usizeBits (bytes ++ rest) = .done destination rest) ∧
    (∀ (result : Except String Unit) (padding : String), Drawn 128 1024 padding →
      ∃ bytes, writeTcpResponse result padding = .ok bytes ∧
        ∀ rest, readTcpResponse usizeBits (bytes ++ rest) = .done (reported result) rest) := by
  constructor
  · intro destination padding bytes rest drawn named written
    exact readTcpRequest_written wide drawn named written rest
  · intro result padding drawn
    exact readTcpResponse_written wide drawn result

theorem tcp_framing_short : 16 ≤ 64 ∧ ∃ bytes,
    writeTcpRequest ⟨"j", 443, by decide⟩ (String.ofList (List.replicate 64 'a')) = .ok bytes ∧
      readTcpRequest 64 (bytes ++ [1, 2, 3]) = .done ⟨"j", 443, by decide⟩ [1, 2, 3] := by
  refine ⟨by decide, _, rfl, ?_⟩
  apply (tcp_framing 64 (by decide)).1 _ (String.ofList (List.replicate 64 'a'))
  · rw [Drawn, String.toList_ofList, List.length_replicate]
    refine ⟨by decide, by decide, fun c member => ?_⟩
    rw [List.eq_of_mem_replicate member]
    rfl
  · decide
  · rfl

end SingQuic.Hysteria2
