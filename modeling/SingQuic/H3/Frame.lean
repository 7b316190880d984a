import SingQuic.H3.Settings
import SingQuic.Address
import SingQuic.Lib.Framing

/-! The frames of HTTP/3. Of a DATA frame the decoder takes the head alone and leaves the payload on
the stream; other frames it takes whole. -/
namespace SingQuic.H3
open Wire Framing

namespace FrameType

def data : Nat := 0x0
def headers : Nat := 0x1
def h2Priority : Nat := 0x2
def cancelPush : Nat := 0x3
def settings : Nat := 0x4
def pushPromise : Nat := 0x5
def h2Ping : Nat := 0x6
def goaway : Nat := 0x7
def h2WindowUpdate : Nat := 0x8
def h2Continuation : Nat := 0x9
def maxPushId : Nat := 0xD
def webtransportBiStream : Nat := 0x41

/-- `grease` with the number it draws, which is below `0x210842108421083`. -/
def grease (drawn : Nat) : Nat := drawn * 0x1f + 0x21

end FrameType

/-- A frame, the payload of DATA being of the given type: the bytes where it is sent, their number
where it is received. -/
inductive Frame (B : Type) where
  | data (payload : B)
  | headers (block : Bytes)
  | cancelPush (id : Nat)
  | settings (settings : Frame.Settings)
  | pushPromise (id : Nat) (encoded : Bytes)
  | goaway (id : Nat)
  | maxPushId (id : Nat)
  | webTransportStream (session : Nat)
  | grease
  deriving DecidableEq, Repr

/-- An unknown frame comes with the bytes after it, where the cursor is left. -/
inductive FrameError where
  | malformed
  | unsupportedFrame (ty : Nat)
  | unknownFrame (ty : Nat) (after : Bytes)
  | invalidFrameValue
  | incomplete (min : Nat)
  | settings (error : SettingsError)
  | invalidStreamId (id : Nat)
  | invalidPushId (id : Nat)
  deriving DecidableEq, Repr

namespace Frame

/-- A frame that is one number. What else is in its payload stays on the stream. -/
def decodeId (make : Nat → Except FrameError (Frame Nat)) (payload after : Bytes) :
    Except FrameError (Frame Nat × Bytes) :=
  match VarInt.decode payload with
  | .error missing => .error (.incomplete missing)
  | .ok (id, rest) => (make id).map (·, rest ++ after)

/-- `try_into` of a push id. -/
def pushId (make : Nat → Frame Nat) (id : Nat) : Except FrameError (Frame Nat) :=
  if id < 2 ^ 62 then .ok (make id) else .error (.invalidPushId id)

/-- The frame of a type with its payload, and what follows it. -/
def decodePayload (ty : Nat) (payload after : Bytes) : Except FrameError (Frame Nat × Bytes) :=
  if ty = FrameType.headers then .ok (.headers payload, after)
  else if ty = FrameType.settings then
    match Settings.decode payload with
    | .error error => .error (.settings error)
    | .ok told => .ok (.settings told, after)
  else if ty = FrameType.cancelPush then decodeId (pushId .cancelPush) payload after
  else if ty = FrameType.pushPromise then
    match VarInt.decode payload with
    | .error missing => .error (.incomplete missing)
    | .ok (id, encoded) => .ok (.pushPromise id encoded, after)
  else if ty = FrameType.goaway then decodeId (fun id => .ok (.goaway id)) payload after
  else if ty = FrameType.maxPushId then decodeId (pushId .maxPushId) payload after
  else if ty = FrameType.h2Priority ∨ ty = FrameType.h2Ping ∨ ty = FrameType.h2WindowUpdate ∨
      ty = FrameType.h2Continuation then .error (.unsupportedFrame ty)
  else .error (.unknownFrame ty after)

def decode (buf : Bytes) : Except FrameError (Frame Nat × Bytes) :=
  match VarInt.decode buf with
  | .error _ => .error (.incomplete (buf.length + 1))
  | .ok (ty, rest) =>
    if ty = FrameType.webtransportBiStream then
      match VarInt.decode rest with
      | .error missing => .error (.incomplete missing)
      | .ok (session, rest) => .ok (.webTransportStream session, rest)
    else match VarInt.decode rest with
      | .error _ => .error (.incomplete (buf.length + 1))
      | .ok (len, rest) =>
        if ty = FrameType.data then .ok (.data len, rest)
        else if rest.length < len then .error (.incomplete (2 + len))
        else decodePayload ty (rest.take len) (rest.drop len)

/-- `simple_frame_encode` -/
def encodeId (ty id : Nat) : Option Bytes := do
  let ty ← writeVar ty
  let length ← writeVar (VarInt.size id)
  let number ← writeVar id
  some (ty ++ length ++ number)

/-- The head of a frame, with the payload where that is encoded along. -/
def encode (drawn : Nat) : Frame Bytes → Option Bytes
  | .data payload => do
    let ty ← writeVar FrameType.data
    let length ← writeVar payload.length
    some (ty ++ length)
  | .headers block => do
    let ty ← writeVar FrameType.headers
    let length ← writeVar block.length
    some (ty ++ length)
  | .settings told => told.encode
  | .pushPromise id encoded => do
    let ty ← writeVar FrameType.pushPromise
    let length ← writeVar (VarInt.size id + encoded.length)
    let number ← writeVar id
    some (ty ++ length ++ number ++ encoded)
  | .cancelPush id => encodeId FrameType.cancelPush id
  | .goaway id => encodeId FrameType.goaway id
  | .maxPushId id => encodeId FrameType.maxPushId id
  | .grease => do
    let ty ← writeVar (FrameType.grease drawn)
    let length ← writeVar 6
    some (ty ++ length ++ asBytes "grease")
  | .webTransportStream session => do
    let ty ← writeVar FrameType.webtransportBiStream
    let session ← writeVar session
    some (ty ++ session)

def payload : Frame Bytes → Bytes
  | .data payload => payload
  | .headers block => block
  | .pushPromise _ encoded => encoded
  | _ => []

/-- What a `WriteBuf` puts on the stream: the head, then the payload. -/
def wire (drawn : Nat) (frame : Frame Bytes) : Option Bytes :=
  (frame.encode drawn).map (· ++ frame.payload)

/-- The bytes that follow the head: the payload of DATA, and a WebTransport stream to its end. -/
def remainingData : Frame Nat → Nat
  | .data len => len
  | .webTransportStream _ => 2 ^ 64 - 1
  | _ => 0

/-- What `FrameDecoder` makes of an answer of `decode`: a frame, or none for one to be ignored. -/
def answer : Except FrameError (Frame Nat × Bytes) → Read FrameError (Option (Frame Nat))
  | .ok (frame, rest) => .done (some frame) rest
  | .error (.unknownFrame _ rest) => .done none rest
  | .error (.incomplete _) => .more
  | .error error => .failed error

def reader : Reader FrameError (Option (Frame Nat)) := fun buf => answer (decode buf)

/-- An answer with more bytes behind it. -/
def extend (later : Bytes) : Except FrameError (Frame Nat × Bytes) → Except FrameError (Frame Nat × Bytes)
  | .ok (frame, rest) => .ok (frame, rest ++ later)
  | .error (.unknownFrame ty rest) => .error (.unknownFrame ty (rest ++ later))
  | .error error => .error error

theorem decodeId_append {make : Nat → Except FrameError (Frame Nat)} {payload after : Bytes}
    (later : Bytes) (known : ∀ id ty rest, make id ≠ .error (.unknownFrame ty rest)) :
    decodeId make payload (after ++ later) = extend later (decodeId make payload after) := by
  unfold decodeId
  cases VarInt.decode payload with
  | error missing => rfl
  | ok read =>
    obtain ⟨id, rest⟩ := read
    dsimp only
    cases made : make id with
    | ok frame => simp only [Except.map, extend, List.append_assoc]
    | error error =>
      cases error with
      | unknownFrame ty left => exact absurd made (known id ty left)
      | _ => rfl

theorem pushId_known (make : Nat → Frame Nat) (id ty : Nat) (rest : Bytes) :
    pushId make id ≠ .error (.unknownFrame ty rest) := by
  unfold pushId
  split <;> simp

theorem decodePayload_append (ty : Nat) (payload after later : Bytes) :
    decodePayload ty payload (after ++ later) = extend later (decodePayload ty payload after) := by
  unfold decodePayload
  split_ifs
  · rfl
  · cases Settings.decode payload <;> rfl
  · exact decodeId_append later (pushId_known _)
  · cases VarInt.decode payload <;> rfl
  · exact decodeId_append later fun id ty rest => by simp
  · exact decodeId_append later (pushId_known _)
  · rfl
  · rfl

/-- What an attempt to decode can come to: the head is not there, or the session, or the payload;
or all is decided, and later bytes change nothing. -/
theorem decode_cases (buf : Bytes) :
    decode buf = .error (.incomplete (buf.length + 1)) ∨
    (∃ rest missing, VarInt.decode buf = .ok (FrameType.webtransportBiStream, rest) ∧
      VarInt.decode rest = .error missing ∧ decode buf = .error (.incomplete missing)) ∨
    (∃ ty rest len payload, VarInt.decode buf = .ok (ty, rest) ∧ ty ≠ FrameType.webtransportBiStream ∧
      ty ≠ FrameType.data ∧ VarInt.decode rest = .ok (len, payload) ∧ payload.length < len ∧
      decode buf = .error (.incomplete (2 + len))) ∨
    ∀ later, decode (buf ++ later) = extend later (decode buf) := by
  cases head : VarInt.decode buf with
  | error missing => exact Or.inl (by rw [decode, head])
  | ok read =>
    obtain ⟨ty, rest⟩ := read
    by_cases session : ty = FrameType.webtransportBiStream
    · subst session
      cases second : VarInt.decode rest with
      | error missing =>
        exact Or.inr (Or.inl ⟨rest, missing, rfl, second, by rw [decode, head]; dsimp only; rw [if_pos rfl, second]⟩)
      | ok read =>
        obtain ⟨session, after⟩ := read
        refine Or.inr (Or.inr (Or.inr fun later => ?_))
        rw [decode, decode, VarInt.decode_append head, head]
        dsimp only
        rw [if_pos rfl, if_pos rfl, VarInt.decode_append second, second]
        rfl
    cases second : VarInt.decode rest with
    | error missing =>
      exact Or.inl (by rw [decode, head]; dsimp only; rw [if_neg session, second])
    | ok read =>
      obtain ⟨len, payload⟩ := read
      by_cases isData : ty = FrameType.data
      · refine Or.inr (Or.inr (Or.inr fun later => ?_))
        rw [decode, decode, VarInt.decode_append head, head]
        dsimp only
        rw [if_neg session, if_neg session, VarInt.decode_append second, second]
        dsimp only
        rw [if_pos isData, if_pos isData]
        rfl
      by_cases short : payload.length < len
      · refine Or.inr (Or.inr (Or.inl ⟨ty, rest, len, payload, rfl, session, isData, second, short, ?_⟩))
        rw [decode, head]
        dsimp only
        rw [if_neg session, second]
        dsimp only
        rw [if_neg isData, if_pos short]
      · refine Or.inr (Or.inr (Or.inr fun later => ?_))
        have enough : ¬ (payload ++ later).length < len := by
          rw [List.length_append]
          omega
        rw [decode, decode, VarInt.decode_append head, head]
        dsimp only
        rw [if_neg session, if_neg session, VarInt.decode_append second, second]
        dsimp only
        rw [if_neg isData, if_neg isData, if_neg enough, if_neg short,
          List.take_append_of_le_length (Nat.not_lt.mp short),
          List.drop_append_of_le_length (Nat.not_lt.mp short), decodePayload_append]

theorem answer_extend (later : Bytes) (decoded : Except FrameError (Frame Nat × Bytes)) :
    answer (extend later decoded) = match answer decoded with
      | .done message rest => .done message (rest ++ later)
      | .more => .more
      | .failed error => .failed error := by
  cases decoded with
  | ok read => rfl
  | error error => cases error <;> rfl

/-- A decided frame stays as it is. -/
theorem reader_stable : reader.Stable where
  done {input message rest} read later := by
    rcases decode_cases input with waits | ⟨_, _, _, _, waits⟩ | ⟨_, _, _, _, _, _, _, _, _, waits⟩ | same
    · rw [reader, waits] at read
      cases read
    · rw [reader, waits] at read
      cases read
    · rw [reader, waits] at read
      cases read
    · rw [reader] at read
      rw [reader, same, answer_extend, read]
  failed {input error} refused later := by
    rcases decode_cases input with waits | ⟨_, _, _, _, waits⟩ | ⟨_, _, _, _, _, _, _, _, _, waits⟩ | same
    · rw [reader, waits] at refused
      cases refused
    · rw [reader, waits] at refused
      cases refused
    · rw [reader, waits] at refused
      cases refused
    · rw [reader] at refused
      rw [reader, same, answer_extend, refused]

theorem reader_nil : reader [] = .more := rfl

/-- The number of bytes the decoder asks for is never more than the frame takes, so that it is in
vain to try with less. -/
theorem reader_more_of_lt {seen : Bytes} {min : Nat} (waits : decode seen = .error (.incomplete min))
    (later : Bytes) (few : (seen ++ later).length < min) : reader (seen ++ later) = .more := by
  rw [List.length_append] at few
  rcases decode_cases seen with head | ⟨rest, missing, first, second, session⟩ |
    ⟨ty, rest, len, payload, first, notSession, notData, second, short, length⟩ | same
  · obtain ⟨⟩ := waits.symm.trans head
    obtain rfl : later = [] := List.eq_nil_of_length_eq_zero (by omega)
    rw [List.append_nil, reader, waits]
    rfl
  · -- the type of a session takes two bytes, and what is asked for is three at most
    obtain ⟨⟩ := waits.symm.trans session
    obtain ⟨_, most⟩ := VarInt.decode_error_lt second
    have two : rest.length + 2 ≤ seen.length := by
      obtain ⟨bytes, ⟨exponent, _, fits, rfl⟩, rfl⟩ := VarInt.decode_eq_ok_iff.mp first
      rw [List.length_append, length_bigEndian]
      cases exponent with
      | zero => exact absurd fits (by decide)
      | succ exponent =>
        have power : 0 < 2 ^ exponent := Nat.pow_pos (by decide)
        rw [Nat.pow_succ]
        omega
    cases rest with
    | nil =>
      obtain ⟨⟩ := Except.error.inj second
      omega
    | cons byte rest =>
      rw [List.length_cons] at two
      omega
  · obtain ⟨⟩ := waits.symm.trans length
    have one := VarInt.length_decode first
    have two := VarInt.length_decode second
    have still : (payload ++ later).length < len := by
      rw [List.length_append]
      omega
    rw [reader, decode, VarInt.decode_append first]
    dsimp only
    rw [if_neg notSession, VarInt.decode_append second]
    dsimp only
    rw [if_neg notData, if_pos still]
    rfl
  · rw [reader, same, waits]
    rfl

theorem decodeId_suffix {make : Nat → Except FrameError (Frame Nat)} {payload after rest : Bytes}
    {message : Option (Frame Nat)} (known : ∀ id ty rest, make id ≠ .error (.unknownFrame ty rest))
    (decoded : answer (decodeId make payload after) = .done message rest) :
    ∃ used, payload ++ after = used ++ rest := by
  unfold decodeId at decoded
  cases number : VarInt.decode payload with
  | error missing =>
    rw [number] at decoded
    cases decoded
  | ok read =>
    obtain ⟨id, left⟩ := read
    rw [number] at decoded
    dsimp only at decoded
    cases made : make id with
    | error error =>
      rw [made] at decoded
      cases error with
      | unknownFrame ty left => exact absurd made (known id ty left)
      | _ => cases decoded
    | ok frame =>
      rw [made] at decoded
      obtain ⟨_, rfl⟩ := Read.done.inj decoded
      obtain ⟨used, _, rfl⟩ := VarInt.decode_suffix number
      exact ⟨used, List.append_assoc ..⟩

theorem decodePayload_suffix {ty : Nat} {payload after rest : Bytes} {message : Option (Frame Nat)}
    (decoded : answer (decodePayload ty payload after) = .done message rest) :
    ∃ used, payload ++ after = used ++ rest := by
  unfold decodePayload at decoded
  split_ifs at decoded
  · obtain ⟨_, rfl⟩ := Read.done.inj decoded
    exact ⟨payload, rfl⟩
  · cases told : Settings.decode payload with
    | error error =>
      rw [told] at decoded
      cases decoded
    | ok settings =>
      rw [told] at decoded
      obtain ⟨_, rfl⟩ := Read.done.inj decoded
      exact ⟨payload, rfl⟩
  · exact decodeId_suffix (pushId_known _) decoded
  · cases number : VarInt.decode payload with
    | error missing =>
      rw [number] at decoded
      cases decoded
    | ok read =>
      rw [number] at decoded
      obtain ⟨_, rfl⟩ := Read.done.inj decoded
      exact ⟨payload, rfl⟩
  · exact decodeId_suffix (fun id ty rest => by simp) decoded
  · exact decodeId_suffix (pushId_known _) decoded
  · cases decoded
  · obtain ⟨_, rfl⟩ := Read.done.inj decoded
    exact ⟨payload, rfl⟩

/-- What is left is the end of what was there. -/
theorem reader_suffix {input rest : Bytes} {message : Option (Frame Nat)}
    (read : reader input = .done message rest) : ∃ used, used ≠ [] ∧ input = used ++ rest := by
  rw [reader, decode] at read
  cases head : VarInt.decode input with
  | error missing =>
    rw [head] at read
    cases read
  | ok found =>
    obtain ⟨ty, body⟩ := found
    obtain ⟨one, some', rfl⟩ := VarInt.decode_suffix head
    have longer (more : Bytes) : one ++ more ≠ [] := fun none => some' (List.append_eq_nil_iff.mp none).1
    rw [head] at read
    dsimp only at read
    split at read
    · cases second : VarInt.decode body with
      | error missing =>
        rw [second] at read
        cases read
      | ok found =>
        rw [second] at read
        obtain ⟨_, rfl⟩ := Read.done.inj read
        obtain ⟨two, _, rfl⟩ := VarInt.decode_suffix second
        exact ⟨one ++ two, longer two, (List.append_assoc ..).symm⟩
    · cases second : VarInt.decode body with
      | error missing =>
        rw [second] at read
        cases read
      | ok found =>
        obtain ⟨len, payload⟩ := found
        obtain ⟨two, _, rfl⟩ := VarInt.decode_suffix second
        rw [second] at read
        dsimp only at read
        split_ifs at read
        · obtain ⟨_, rfl⟩ := Read.done.inj read
          exact ⟨one ++ two, longer two, (List.append_assoc ..).symm⟩
        · cases read
        · obtain ⟨used, whole⟩ := decodePayload_suffix read
          rw [List.take_append_drop] at whole
          exact ⟨one ++ (two ++ used), longer _, by rw [whole, List.append_assoc, List.append_assoc]⟩

theorem reader_shrinks {input rest : Bytes} {message : Option (Frame Nat)}
    (read : reader input = .done message rest) : rest.length < input.length := by
  obtain ⟨used, some', rfl⟩ := reader_suffix read
  have positive := List.length_pos_iff.mpr some'
  rw [List.length_append]
  omega

/-- A frame with its type and length in front of its payload. -/
theorem decode_framed {ty : Nat} {payload : Bytes} (known : ty < 2 ^ 62) (size : payload.length < 2 ^ 62)
    (notSession : ty ≠ FrameType.webtransportBiStream) (notData : ty ≠ FrameType.data) (rest : Bytes) :
    decode (VarInt.encode ty ++ VarInt.encode payload.length ++ (payload ++ rest)) =
      decodePayload ty payload rest := by
  rw [decode, List.append_assoc, VarInt.decode_encode known]
  dsimp only
  rw [if_neg notSession, VarInt.decode_encode size]
  dsimp only
  rw [if_neg notData, if_neg (by rw [List.length_append]; omega), List.take_left, List.drop_left]

theorem decode_data {len : Nat} (size : len < 2 ^ 62) (rest : Bytes) :
    decode (VarInt.encode FrameType.data ++ VarInt.encode len ++ rest) = .ok (.data len, rest) := by
  rw [decode, List.append_assoc, VarInt.decode_encode (by decide)]
  dsimp only
  rw [if_neg (by decide), VarInt.decode_encode size]
  dsimp only
  rw [if_pos rfl]

/-- The frames that the two ends of a request write on its stream. -/
def Exchanged : Frame Bytes → Prop
  | .data _ | .headers _ | .grease => True
  | _ => False

/-- What there is to be received of them. -/
def items : Frame Bytes → List (Item (Frame Nat))
  | .data payload => .head (.data payload.length) :: payload.map .body
  | .headers block => [.head (.headers block)]
  | _ => []

/-- A frame is received as it was written. -/
theorem parses_wire {drawn : Nat} {frame : Frame Bytes} {bytes : Bytes}
    (written : frame.wire drawn = some bytes) (exchanged : frame.Exchanged) :
    Parses reader remainingData 0 bytes frame.items 0 [] := by
  obtain ⟨head, encoded, rfl⟩ := Option.map_eq_some_iff.mp written
  cases frame with
  | data payload =>
    simp only [encode, Option.bind_eq_bind, Option.bind_eq_some_iff] at encoded
    obtain ⟨ty, tyWritten, length, lengthWritten, whole⟩ := encoded
    obtain rfl := Option.some.inj whole
    obtain ⟨_, rfl⟩ := writeVar_eq tyWritten
    obtain ⟨size, rfl⟩ := writeVar_eq lengthWritten
    have read : reader (VarInt.encode FrameType.data ++ VarInt.encode payload.length ++ payload) =
        .done (some (.data payload.length)) payload := by
      rw [reader, decode_data size]
      rfl
    have body : Parses reader remainingData (0 + payload.length) (payload ++ []) (payload.map .body) 0 [] :=
      .bodies payload 0 []
    rw [List.append_nil, Nat.zero_add] at body
    exact .head read body
  | headers block =>
    simp only [encode, Option.bind_eq_bind, Option.bind_eq_some_iff] at encoded
    obtain ⟨ty, tyWritten, length, lengthWritten, whole⟩ := encoded
    obtain rfl := Option.some.inj whole
    obtain ⟨known, rfl⟩ := writeVar_eq tyWritten
    obtain ⟨size, rfl⟩ := writeVar_eq lengthWritten
    have decoded := decode_framed known size (by decide) (by decide) []
    rw [List.append_nil] at decoded
    have read : reader (VarInt.encode FrameType.headers ++ VarInt.encode block.length ++ block) =
        .done (some (.headers block)) [] := by
      rw [reader, decoded]
      rfl
    exact .head read .nil
  | grease =>
    simp only [encode, Option.bind_eq_bind, Option.bind_eq_some_iff] at encoded
    obtain ⟨ty, tyWritten, length, lengthWritten, whole⟩ := encoded
    obtain rfl := Option.some.inj whole
    obtain ⟨known, rfl⟩ := writeVar_eq tyWritten
    obtain ⟨size, rfl⟩ := writeVar_eq lengthWritten
    have session : FrameType.grease drawn ≠ FrameType.webtransportBiStream := by
      rw [FrameType.grease, FrameType.webtransportBiStream]
      omega
    have named : ∀ ty ∈ [FrameType.data, FrameType.headers, FrameType.settings, FrameType.cancelPush,
        FrameType.pushPromise, FrameType.goaway, FrameType.maxPushId, FrameType.h2Priority,
        FrameType.h2Ping, FrameType.h2WindowUpdate, FrameType.h2Continuation],
        FrameType.grease drawn ≠ ty := by
      have below : ∀ ty ∈ [FrameType.data, FrameType.headers, FrameType.settings, FrameType.cancelPush,
          FrameType.pushPromise, FrameType.goaway, FrameType.maxPushId, FrameType.h2Priority,
          FrameType.h2Ping, FrameType.h2WindowUpdate, FrameType.h2Continuation], ty < 0x21 := by decide
      intro ty member same
      have small := below ty member
      rw [← same, FrameType.grease] at small
      omega
    simp only [List.forall_mem_cons] at named
    have decoded := @decode_framed _ (asBytes "grease") known (by decide) session named.1 []
    rw [List.append_nil] at decoded
    have unknown : decodePayload (FrameType.grease drawn) (asBytes "grease") [] =
        .error (.unknownFrame (FrameType.grease drawn) []) := by
      simp only [decodePayload, named, if_false, or_self]
    have read : reader (VarInt.encode (FrameType.grease drawn) ++ VarInt.encode 6 ++ asBytes "grease") =
        .done none [] := by
      rw [reader, show (6 : Nat) = (asBytes "grease").length from rfl, decoded, unknown]
      rfl
    rw [show payload grease = [] from rfl, List.append_nil]
    exact .passed read .nil
  | _ => exact exchanged.elim

/-- The SETTINGS frame with its type and length. -/
theorem decode_settings {told : Settings} {bytes : Bytes} (encoded : told.encode = some bytes)
    (rest : Bytes) : ∃ payload, Settings.encodeEntries told.entries = some payload ∧
      decode (bytes ++ rest) = match Settings.decode payload with
        | .error error => .error (.settings error)
        | .ok told => .ok (.settings told, rest) := by
  simp only [Settings.encode, Option.bind_eq_bind, Option.bind_eq_some_iff] at encoded
  obtain ⟨ty, tyWritten, length, lengthWritten, payload, entries, whole⟩ := encoded
  obtain rfl := Option.some.inj whole
  obtain ⟨known, rfl⟩ := writeVar_eq tyWritten
  obtain ⟨size, rfl⟩ := writeVar_eq lengthWritten
  have length : told.len = payload.length := (Settings.length_encodeEntries entries).symm
  refine ⟨payload, entries, ?_⟩
  rw [List.append_assoc, length, decode_framed known (length ▸ size) (by decide) (by decide)]
  rfl

end Frame

/-- The settings an endpoint is configured with are those its peer goes by, whatever grease is sent
along. -/
theorem settings_told (config : Config) {drawn : Nat} (range : drawn < 0x210842108421083)
    (size : config.settings.maxFieldSectionSize < 2 ^ 62)
    (sessions : config.settings.maxWebtransportSessions < 2 ^ 62) :
    ∃ told bytes, config.toFrame drawn = .ok told ∧ told.encode = some bytes ∧
      ∀ rest, ∃ heard, Frame.decode (bytes ++ rest) = .ok (.settings heard, rest) ∧
        Settings.ofFrame heard = config.settings := by
  obtain ⟨told, made, entries⟩ := config.toFrame_eq drawn
  have flag (value : Bool) : value.toNat < 2 ^ 62 := by cases value <;> decide
  have own : ∀ entry ∈ config.settings.entries, entry.1 < 2 ^ 62 ∧ entry.2 < 2 ^ 62 ∧
      SettingId.isForbidden entry.1 = false ∧ SettingId.isSupported entry.1 = true := by
    simp only [Settings.entries, List.forall_mem_cons]
    exact ⟨⟨by decide, size, by decide, by decide⟩, ⟨by decide, flag _, by decide, by decide⟩,
      ⟨by decide, flag _, by decide, by decide⟩, ⟨by decide, flag _, by decide, by decide⟩,
      ⟨by decide, sessions, by decide, by decide⟩, List.forall_mem_nil _⟩
  have greaseId : SettingId.grease drawn < 2 ^ 62 ∧ SettingId.isForbidden (SettingId.grease drawn) = false ∧
      SettingId.isSupported (SettingId.grease drawn) = false := by
    refine ⟨by rw [SettingId.grease]; omega, decide_eq_false ?_, decide_eq_false ?_⟩
    · simp only [SettingId.grease, List.mem_cons, List.not_mem_nil, or_false]
      omega
    · simp only [SettingId.grease, List.mem_cons, List.not_mem_nil, or_false, SettingId.maxHeaderListSize,
        SettingId.qpackMaxTableCapacity, SettingId.qpackMaxBlockedStreams, SettingId.enableConnectProtocol,
        SettingId.enableWebtransport, SettingId.webtransportMaxSessions, SettingId.h3Datagram]
      omega
  have all : ∀ entry ∈ told.entries, entry.1 < 2 ^ 62 ∧ entry.2 < 2 ^ 62 ∧
      SettingId.isForbidden entry.1 = false := by
    intro entry member
    rw [entries, List.mem_append] at member
    rcases member with member | member
    · split at member
      · obtain rfl := List.mem_singleton.mp member
        exact ⟨greaseId.1, Nat.pow_pos Nat.two_pos, greaseId.2.1⟩
      · cases member
    · obtain ⟨name, value, allowed, _⟩ := own entry member
      exact ⟨name, value, allowed⟩
  have known : Frame.Settings.known told.entries = config.settings.entries := by
    have kept : config.settings.entries.filter (SettingId.isSupported ·.1) = config.settings.entries :=
      List.filter_eq_self.mpr fun entry member => (own entry member).2.2.2
    have passed : [(SettingId.grease drawn, 0)].filter (SettingId.isSupported ·.1) = [] :=
      List.filter_cons_of_neg (by rw [greaseId.2.2]; exact Bool.false_ne_true)
    rw [entries, Frame.Settings.known, List.filter_append, kept]
    split
    · rw [passed, List.nil_append]
    · rfl
  obtain ⟨bytes, encoded⟩ := Frame.Settings.encode_of_lt fun entry member =>
    ⟨(all entry member).1, (all entry member).2.1⟩
  refine ⟨told, bytes, made, encoded, fun rest => ?_⟩
  obtain ⟨payload, written, decoded⟩ := Frame.decode_settings encoded rest
  obtain ⟨heard, read, left⟩ := Frame.Settings.decode_encodeEntries written
    (fun entry member => (all entry member).2.2) told.distinct
  rw [read] at decoded
  exact ⟨heard, decoded, Settings.ofFrame_eq (left.trans known)⟩

theorem settings_told_default : ∃ told bytes, Config.default.toFrame 7 = .ok told ∧
    told.encode = some bytes ∧ ∀ rest, ∃ heard, Frame.decode (bytes ++ rest) = .ok (.settings heard, rest) ∧
      Settings.ofFrame heard = Config.default.settings :=
  settings_told .default (by decide) (by decide) (by decide)

end SingQuic.H3
