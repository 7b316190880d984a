import SingQuic.Varint
import Mathlib.Algebra.Order.BigOperators.Group.List

/-! The integers and the SETTINGS frame of HTTP/3, and the settings an endpoint tells its peer. -/
namespace SingQuic.H3
open Wire

namespace VarInt

def max : Nat := 2 ^ 62 - 1

/-- The error is that of an unexpected end, which counts by the two top bits of the first byte. -/
def decode : Bytes → Except Nat (Nat × Bytes)
  | [] => .error 0
  | first :: r =>
    let tag := first.toNat / 64
    let missing := 2 ^ tag - 1
    if r.length < missing then .error tag
    else .ok ((r.take missing).foldl shiftIn (first.toNat % 64), r.drop missing)

def encode (x : Nat) : Bytes :=
  if x < 2 ^ 6 then bigEndian 1 x
  else if x < 2 ^ 14 then bigEndian 2 (0b01 <<< 14 ||| x)
  else if x < 2 ^ 30 then bigEndian 4 (0b10 <<< 30 ||| x)
  else bigEndian 8 (0b11 <<< 62 ||| x)

def size (x : Nat) : Nat :=
  if x < 2 ^ 6 then 1 else if x < 2 ^ 14 then 2 else if x < 2 ^ 30 then 4 else 8

end VarInt

/-- `write_var`, which panics on a number of more than 62 bits. -/
def writeVar (x : Nat) : Option Bytes := if x < 2 ^ 62 then some (VarInt.encode x) else none

namespace VarInt

theorem encode_spells {x : Nat} (small : x < 2 ^ 62) : Varint.Spells (encode x) x := by
  unfold encode
  split
  · rename_i one
    exact ⟨0, by decide, one, by rw [Nat.zero_mul, Nat.zero_add]; rfl⟩
  split
  · rename_i two
    refine ⟨1, by decide, two, ?_⟩
    rw [Nat.shiftLeft_eq, Nat.mul_comm, ← Nat.two_pow_add_eq_or_of_lt two, Nat.mul_comm]
    rfl
  split
  · rename_i four
    refine ⟨2, by decide, four, ?_⟩
    rw [Nat.shiftLeft_eq, Nat.mul_comm, ← Nat.two_pow_add_eq_or_of_lt four, Nat.mul_comm]
    rfl
  · refine ⟨3, by decide, small, ?_⟩
    rw [Nat.shiftLeft_eq, Nat.mul_comm, ← Nat.two_pow_add_eq_or_of_lt small, Nat.mul_comm]
    rfl

theorem length_encode (x : Nat) : (encode x).length = size x := by
  unfold encode size
  split
  · exact length_bigEndian ..
  split
  · exact length_bigEndian ..
  split
  · exact length_bigEndian ..
  · exact length_bigEndian ..

theorem decode_of_spells {bytes : Bytes} {value : Nat} (spelled : Varint.Spells bytes value)
    (rest : Bytes) : decode (bytes ++ rest) = .ok (value, rest) := by
  obtain ⟨first, tail, rfl, announced, number⟩ := Varint.spells_iff.mp spelled
  have missing : 2 ^ (first.toNat / 64) - 1 = tail.length := by
    rw [Varint.announced] at announced
    omega
  have enough : ¬ (tail ++ rest).length < tail.length := by
    rw [List.length_append]
    omega
  simp only [List.cons_append, decode, missing, if_neg enough, List.take_left, List.drop_left, number]

/-- What is decoded is one number in any of its spellings, off the front of the bytes. -/
theorem decode_eq_ok_iff {buf rest : Bytes} {value : Nat} :
    decode buf = .ok (value, rest) ↔ ∃ bytes, Varint.Spells bytes value ∧ buf = bytes ++ rest := by
  constructor
  · intro decoded
    cases buf with
    | nil => cases decoded
    | cons first r =>
      simp only [decode] at decoded
      split at decoded
      · cases decoded
      · rename_i enough
        obtain ⟨number, rfl⟩ := Prod.mk.inj (Except.ok.inj decoded)
        refine ⟨first :: r.take (2 ^ (first.toNat / 64) - 1), ?_, ?_⟩
        · have power : 0 < 2 ^ (first.toNat / 64) := Nat.pow_pos (by decide)
          refine Varint.spells_iff.mpr ⟨first, _, rfl, ?_, number⟩
          rw [Varint.announced, List.length_take]
          omega
        · rw [List.cons_append, List.take_append_drop]
  · rintro ⟨bytes, spelled, rfl⟩
    exact decode_of_spells spelled rest

theorem decode_append {buf rest : Bytes} {value : Nat} (decoded : decode buf = .ok (value, rest))
    (later : Bytes) : decode (buf ++ later) = .ok (value, rest ++ later) := by
  obtain ⟨bytes, spelled, rfl⟩ := decode_eq_ok_iff.mp decoded
  rw [List.append_assoc]
  exact decode_of_spells spelled (rest ++ later)

theorem decode_suffix {buf rest : Bytes} {value : Nat} (decoded : decode buf = .ok (value, rest)) :
    ∃ used, used ≠ [] ∧ buf = used ++ rest := by
  obtain ⟨bytes, spelled, rfl⟩ := decode_eq_ok_iff.mp decoded
  obtain ⟨first, tail, rfl, _⟩ := Varint.spells_iff.mp spelled
  exact ⟨first :: tail, List.cons_ne_nil _ _, rfl⟩

theorem length_decode {buf rest : Bytes} {value : Nat} (decoded : decode buf = .ok (value, rest)) :
    rest.length < buf.length := by
  obtain ⟨used, some', rfl⟩ := decode_suffix decoded
  have positive := List.length_pos_iff.mpr some'
  rw [List.length_append]
  omega

theorem decode_encode {x : Nat} (small : x < 2 ^ 62) (rest : Bytes) :
    decode (encode x ++ rest) = .ok (x, rest) := decode_of_spells (encode_spells small) rest

/-- The count in the error is less than what the number takes. -/
theorem decode_error_lt {buf : Bytes} {count : Nat} (short : decode buf = .error count) :
    buf.length < 2 ^ count ∧ count < 4 := by
  cases buf with
  | nil =>
    obtain rfl := Except.error.inj short
    exact ⟨by decide, by decide⟩
  | cons first r =>
    simp only [decode] at short
    split at short
    · rename_i few
      obtain rfl := Except.error.inj short
      have byte := first.toNat_lt
      rw [List.length_cons]
      omega
    · cases short

end VarInt

theorem writeVar_eq {x : Nat} {bytes : Bytes} (written : writeVar x = some bytes) :
    x < 2 ^ 62 ∧ bytes = VarInt.encode x := by
  unfold writeVar at written
  split at written
  · rename_i small
    exact ⟨small, (Option.some.inj written).symm⟩
  · cases written

namespace SettingId

def qpackMaxTableCapacity : Nat := 0x1
def qpackMaxBlockedStreams : Nat := 0x7
def maxHeaderListSize : Nat := 0x6
def enableConnectProtocol : Nat := 0x8
def h3Datagram : Nat := 0x33
def enableWebtransport : Nat := 0x2B603742
def webtransportMaxSessions : Nat := 0x2b603743

/-- `grease` with the number it draws, which is below `0x210842108421083`. -/
def grease (drawn : Nat) : Nat := drawn * 0x1f + 0x21

def isSupported (id : Nat) : Bool :=
  id ∈ [maxHeaderListSize, qpackMaxTableCapacity, qpackMaxBlockedStreams, enableConnectProtocol,
    enableWebtransport, webtransportMaxSessions, h3Datagram]

def isForbidden (id : Nat) : Bool := id ∈ [0x00, 0x02, 0x03, 0x04, 0x05]

end SettingId

inductive SettingsError where
  | exceeded
  | malformed
  | repeated (id : Nat)
  | invalidSettingId (id : Nat)
  | invalidSettingValue (id value : Nat)
  deriving DecidableEq, Repr

def settingsLen : Nat := 8

namespace Frame

/-- The entries that are in use, which `insert` alone adds to. -/
structure Settings where
  entries : List (Nat × Nat)
  room : entries.length ≤ settingsLen
  distinct : (entries.map Prod.fst).Nodup
  deriving DecidableEq, Repr

namespace Settings

def default : Settings := ⟨[], Nat.zero_le _, List.nodup_nil⟩

theorem nodup_concat {entries : List (Nat × Nat)} {id value : Nat} (distinct : (entries.map Prod.fst).Nodup)
    (absent : id ∉ entries.map Prod.fst) : ((entries ++ [(id, value)]).map Prod.fst).Nodup := by
  rw [List.map_append, List.nodup_append]
  refine ⟨distinct, List.nodup_singleton _, ?_⟩
  rintro other member _ last rfl
  obtain rfl := List.mem_singleton.mp last
  exact absent member

def insert (self : Settings) (id value : Nat) : Except SettingsError Settings :=
  if full : settingsLen ≤ self.entries.length then .error .exceeded
  else if present : id ∈ self.entries.map Prod.fst then .error (.repeated id)
  else .ok ⟨self.entries ++ [(id, value)],
    by rw [List.length_append, List.length_singleton]; omega,
    nodup_concat self.distinct present⟩

/-- The search goes through the unused entries too, which have the id zero. -/
def get (self : Settings) (id : Nat) : Option Nat :=
  let slots := self.entries ++ List.replicate (settingsLen - self.entries.length) (0, 0)
  (slots.find? (·.1 = id)).map Prod.snd

def len (self : Settings) : Nat :=
  (self.entries.map fun entry => VarInt.size entry.1 + VarInt.size entry.2).sum

def encodeEntries : List (Nat × Nat) → Option Bytes
  | [] => some []
  | (id, value) :: entries => do
    let name ← writeVar id
    let setting ← writeVar value
    let rest ← encodeEntries entries
    some (name ++ setting ++ rest)

/-- The frame with its type and length. -/
def encode (self : Settings) : Option Bytes := do
  let ty ← writeVar 0x4
  let length ← writeVar self.len
  let entries ← encodeEntries self.entries
  some (ty ++ length ++ entries)

/-- The loop of `decode`, of no more rounds than there are bytes. -/
def decodeLoop : Nat → Settings → Bytes → Except SettingsError Settings
  | 0, settings, _ => .ok settings
  | rounds + 1, settings, buf =>
    if buf = [] then .ok settings
    else if buf.length < 2 then .error .malformed
    else match VarInt.decode buf with
      | .error _ => .error .malformed
      | .ok (identifier, buf) => match VarInt.decode buf with
        | .error _ => .error .malformed
        | .ok (value, buf) =>
          if SettingId.isForbidden identifier then .error (.invalidSettingId identifier)
          else if SettingId.isSupported identifier then
            match settings.insert identifier value with
            | .error error => .error error
            | .ok settings => decodeLoop rounds settings buf
          else decodeLoop rounds settings buf

def decode (buf : Bytes) : Except SettingsError Settings := decodeLoop buf.length default buf

end Settings
end Frame

/-- The settings as an endpoint uses them. -/
structure Settings where
  maxFieldSectionSize : Nat
  enableWebtransport : Bool
  enableExtendedConnect : Bool
  enableDatagram : Bool
  maxWebtransportSessions : Nat
  deriving DecidableEq, Repr

structure Config where
  sendGrease : Bool
  settings : Settings
  deriving DecidableEq, Repr

def Settings.default : Settings := ⟨VarInt.max, false, false, false, 0⟩

def Config.default : Config := ⟨true, .default⟩

/-- `From<&frame::Settings>`: what the peer did not tell is as by default. -/
def Settings.ofFrame (settings : Frame.Settings) : Settings where
  maxFieldSectionSize :=
    (settings.get SettingId.maxHeaderListSize).getD default.maxFieldSectionSize
  enableWebtransport :=
    ((settings.get SettingId.enableWebtransport).map fun value => decide (value ≠ 0)).getD default.enableWebtransport
  maxWebtransportSessions :=
    (settings.get SettingId.webtransportMaxSessions).getD default.maxWebtransportSessions
  enableDatagram := ((settings.get SettingId.h3Datagram).map fun value => decide (value ≠ 0)).getD default.enableDatagram
  enableExtendedConnect :=
    ((settings.get SettingId.enableConnectProtocol).map fun value => decide (value ≠ 0)).getD default.enableExtendedConnect

/-- `TryFrom<Config>` with what the grease draws; a grease that cannot be added is left out. -/
def Config.toFrame (config : Config) (drawn : Nat) : Except SettingsError Frame.Settings := do
  let settings := if config.sendGrease then
      match Frame.Settings.default.insert (SettingId.grease drawn) 0 with
      | .ok settings => settings
      | .error _ => .default
    else .default
  let settings ← settings.insert SettingId.maxHeaderListSize config.settings.maxFieldSectionSize
  let settings ← settings.insert SettingId.enableConnectProtocol config.settings.enableExtendedConnect.toNat
  let settings ← settings.insert SettingId.enableWebtransport config.settings.enableWebtransport.toNat
  let settings ← settings.insert SettingId.h3Datagram config.settings.enableDatagram.toNat
  settings.insert SettingId.webtransportMaxSessions config.settings.maxWebtransportSessions

namespace Frame.Settings

theorem insert_eq {self : Settings} {id : Nat} (value : Nat) (room : self.entries.length < settingsLen)
    (absent : id ∉ self.entries.map Prod.fst) :
    ∃ settings, self.insert id value = .ok settings ∧ settings.entries = self.entries ++ [(id, value)] := by
  rw [insert, dif_neg (Nat.not_le.mpr room), dif_neg absent]
  exact ⟨_, rfl, rfl⟩

theorem insert_entries {self next : Settings} {id value : Nat} (inserted : self.insert id value = .ok next) :
    next.entries = self.entries ++ [(id, value)] := by
  unfold insert at inserted
  split at inserted
  · cases inserted
  · split at inserted
    · cases inserted
    · exact congrArg Settings.entries (Except.ok.inj inserted).symm

/-- Of the ids that are supported there is room for all. -/
theorem length_of_supported {self : Settings}
    (supported : ∀ entry ∈ self.entries, SettingId.isSupported entry.1 = true) :
    self.entries.length < settingsLen := by
  have known : self.entries.map Prod.fst ⊆ [SettingId.maxHeaderListSize, SettingId.qpackMaxTableCapacity,
      SettingId.qpackMaxBlockedStreams, SettingId.enableConnectProtocol, SettingId.enableWebtransport,
      SettingId.webtransportMaxSessions, SettingId.h3Datagram] := by
    intro id member
    obtain ⟨entry, used, rfl⟩ := List.mem_map.mp member
    exact of_decide_eq_true (supported entry used)
  have few := (self.distinct.subperm known).length_le
  rw [List.length_map] at few
  exact Nat.lt_succ_of_le few

theorem length_encodeEntries {entries : List (Nat × Nat)} {payload : Bytes}
    (encoded : encodeEntries entries = some payload) :
    payload.length = (entries.map fun entry => VarInt.size entry.1 + VarInt.size entry.2).sum := by
  induction entries generalizing payload with
  | nil =>
    obtain rfl := Option.some.inj encoded
    rfl
  | cons entry entries ih =>
    simp only [encodeEntries, Option.bind_eq_bind, Option.bind_eq_some_iff] at encoded
    obtain ⟨name, nameWritten, value, valueWritten, rest, restEncoded, whole⟩ := encoded
    obtain rfl := Option.some.inj whole
    rw [(writeVar_eq nameWritten).2, (writeVar_eq valueWritten).2, List.length_append, List.length_append,
      VarInt.length_encode, VarInt.length_encode, ih restEncoded, List.map_cons, List.sum_cons]

theorem encodeEntries_of_lt {entries : List (Nat × Nat)}
    (small : ∀ entry ∈ entries, entry.1 < 2 ^ 62 ∧ entry.2 < 2 ^ 62) :
    ∃ payload, encodeEntries entries = some payload := by
  induction entries with
  | nil => exact ⟨[], rfl⟩
  | cons entry entries ih =>
    obtain ⟨rest, encoded⟩ := ih fun other member => small other (List.mem_cons_of_mem _ member)
    obtain ⟨name, value⟩ := small entry (List.mem_cons_self ..)
    refine ⟨VarInt.encode entry.1 ++ VarInt.encode entry.2 ++ rest, ?_⟩
    rw [encodeEntries, writeVar, if_pos name, writeVar, if_pos value, encoded]
    rfl

/-- The bytes are ids and values one after another, each number in any of its spellings. -/
inductive Tells : Bytes → List (Nat × Nat) → Prop where
  | nil : Tells [] []
  | cons {name number rest : Bytes} {id value : Nat} {entries : List (Nat × Nat)}
      (named : Varint.Spells name id) (numbered : Varint.Spells number value) (more : Tells rest entries) :
      Tells (name ++ (number ++ rest)) ((id, value) :: entries)

/-- The entries whose ids are supported. -/
def known (entries : List (Nat × Nat)) : List (Nat × Nat) := entries.filter (SettingId.isSupported ·.1)

/-- No entry has an id that the predecessor of the protocol used. -/
def Allowed (entries : List (Nat × Nat)) : Prop :=
  ∀ entry ∈ entries, SettingId.isForbidden entry.1 = false

theorem allowed_nil : Allowed [] := fun _ member => nomatch member

theorem known_sublist (entries : List (Nat × Nat)) : (known entries).Sublist entries := List.filter_sublist

theorem tells_encodeEntries {entries : List (Nat × Nat)} {payload : Bytes}
    (encoded : encodeEntries entries = some payload) : Tells payload entries := by
  induction entries generalizing payload with
  | nil =>
    obtain rfl := Option.some.inj encoded
    exact .nil
  | cons entry entries ih =>
    simp only [encodeEntries, Option.bind_eq_bind, Option.bind_eq_some_iff] at encoded
    obtain ⟨name, nameWritten, number, numberWritten, rest, restEncoded, whole⟩ := encoded
    obtain rfl := Option.some.inj whole
    obtain ⟨smallName, rfl⟩ := writeVar_eq nameWritten
    obtain ⟨smallValue, rfl⟩ := writeVar_eq numberWritten
    rw [List.append_assoc]
    exact .cons (VarInt.encode_spells smallName) (VarInt.encode_spells smallValue) (ih restEncoded)

/-- What a round of the loop makes of an id and a value. -/
theorem decodeLoop_cons {name number rest : Bytes} {id value rounds : Nat} {settings : Settings}
    (named : Varint.Spells name id) (numbered : Varint.Spells number value) :
    decodeLoop (rounds + 1) settings (name ++ (number ++ rest)) =
      if SettingId.isForbidden id then .error (.invalidSettingId id)
      else if SettingId.isSupported id then
        match settings.insert id value with
        | .error error => .error error
        | .ok settings => decodeLoop rounds settings rest
      else decodeLoop rounds settings rest := by
  have first := VarInt.decode_of_spells named (number ++ rest)
  have second := VarInt.decode_of_spells numbered rest
  have one := VarInt.length_decode first
  have two := VarInt.length_decode second
  have some' : name ++ (number ++ rest) ≠ [] := List.length_pos_iff.mp (Nat.zero_lt_of_lt one)
  have enough : ¬ (name ++ (number ++ rest)).length < 2 := by omega
  rw [decodeLoop, if_neg some', if_neg enough, first]
  dsimp only
  rw [second]

/-- Every id that is known is taken in, up to one that is told again. -/
theorem decodeLoop_tells {entries : List (Nat × Nat)} {settings : Settings} {buf : Bytes} {rounds : Nat}
    (tells : Tells buf entries) (enough : buf.length ≤ rounds) (allowed : Allowed entries)
    (supported : ∀ entry ∈ settings.entries, SettingId.isSupported entry.1 = true) :
    (∃ result, decodeLoop rounds settings buf = .ok result ∧
      result.entries = settings.entries ++ known entries) ∨
    ∃ id, 2 ≤ ((settings.entries ++ known entries).map Prod.fst).count id ∧
      decodeLoop rounds settings buf = .error (.repeated id) := by
  induction tells generalizing settings rounds with
  | nil =>
    refine Or.inl ⟨settings, ?_, (List.append_nil _).symm⟩
    cases rounds with
    | zero => rfl
    | succ rounds => exact if_pos rfl
  | @cons name number rest id value entries named numbered more ih =>
    have first := VarInt.length_decode (VarInt.decode_of_spells named (number ++ rest))
    have second := VarInt.length_decode (VarInt.decode_of_spells numbered rest)
    obtain ⟨rounds, rfl⟩ : ∃ less, rounds = less + 1 := ⟨rounds - 1, by omega⟩
    have less : rest.length ≤ rounds := by omega
    have left : Allowed entries := fun entry member => allowed entry (List.mem_cons_of_mem _ member)
    have kept : SettingId.isForbidden id = false := allowed (id, value) (List.mem_cons_self ..)
    rw [decodeLoop_cons named numbered, if_neg (by rw [kept]; decide)]
    by_cases supports : SettingId.isSupported id = true
    · have taken : known ((id, value) :: entries) = (id, value) :: known entries :=
        List.filter_cons_of_pos supports
      rw [if_pos supports, taken]
      by_cases present : id ∈ settings.entries.map Prod.fst
      · refine Or.inr ⟨id, ?_, ?_⟩
        · have before := List.count_pos_iff.mpr present
          rw [List.map_append, List.count_append, List.map_cons, List.count_cons_self]
          omega
        · rw [insert, dif_neg (Nat.not_le.mpr (length_of_supported supported)), dif_pos present]
      · obtain ⟨next, inserted, grown⟩ := insert_eq value (length_of_supported supported) present
        have stays : ∀ entry ∈ next.entries, SettingId.isSupported entry.1 = true := by
          intro entry member
          rw [grown, List.mem_append, List.mem_singleton] at member
          rcases member with member | rfl
          · exact supported entry member
          · exact supports
        have rest' := ih less left stays
        rw [grown, List.append_assoc, List.singleton_append] at rest'
        rw [inserted]
        exact rest'
    · have passed : known ((id, value) :: entries) = known entries := List.filter_cons_of_neg supports
      rw [if_neg supports, passed]
      exact ih less left supported

/-- What is accepted is the known part of what the bytes tell. -/
theorem tells_of_decodeLoop {rounds : Nat} {settings result : Settings} {buf : Bytes}
    (enough : buf.length ≤ rounds) (decoded : decodeLoop rounds settings buf = .ok result) :
    ∃ entries, Tells buf entries ∧ Allowed entries ∧ result.entries = settings.entries ++ known entries := by
  induction rounds generalizing settings buf with
  | zero =>
    obtain rfl := List.length_eq_zero_iff.mp (Nat.le_zero.mp enough)
    obtain rfl := Except.ok.inj decoded
    exact ⟨[], .nil, allowed_nil, (List.append_nil _).symm⟩
  | succ rounds ih =>
    by_cases nothing : buf = []
    · rw [decodeLoop, if_pos nothing] at decoded
      obtain rfl := Except.ok.inj decoded
      exact ⟨[], nothing ▸ .nil, allowed_nil, (List.append_nil _).symm⟩
    cases first : VarInt.decode buf with
    | error count => simp [decodeLoop, nothing, first] at decoded
    | ok name =>
      obtain ⟨id, after⟩ := name
      cases second : VarInt.decode after with
      | error count => simp [decodeLoop, nothing, first, second] at decoded
      | ok number =>
        obtain ⟨value, rest⟩ := number
        have shorter := VarInt.length_decode first
        have shortest := VarInt.length_decode second
        obtain ⟨name, named, rfl⟩ := VarInt.decode_eq_ok_iff.mp first
        obtain ⟨number, numbered, rfl⟩ := VarInt.decode_eq_ok_iff.mp second
        rw [decodeLoop_cons named numbered] at decoded
        split_ifs at decoded with forbidden supports
        · split at decoded
          · cases decoded
          · rename_i next inserted
            obtain ⟨entries, tells, allowed, whole⟩ := ih (by omega) decoded
            refine ⟨(id, value) :: entries, .cons named numbered tells, ?_, ?_⟩
            · exact List.forall_mem_cons.mpr ⟨Bool.eq_false_of_not_eq_true forbidden, allowed⟩
            · have taken : known ((id, value) :: entries) = (id, value) :: known entries :=
                List.filter_cons_of_pos supports
              rw [whole, insert_entries inserted, taken, List.append_assoc, List.singleton_append]
        · obtain ⟨entries, tells, allowed, whole⟩ := ih (by omega) decoded
          refine ⟨(id, value) :: entries, .cons named numbered tells, ?_, ?_⟩
          · exact List.forall_mem_cons.mpr ⟨Bool.eq_false_of_not_eq_true forbidden, allowed⟩
          · have passed : known ((id, value) :: entries) = known entries := List.filter_cons_of_neg supports
            rw [whole, passed]

/-- The loop always has the room for what it knows. -/
theorem decodeLoop_ne_exceeded {rounds : Nat} {settings : Settings} {buf : Bytes}
    (supported : ∀ entry ∈ settings.entries, SettingId.isSupported entry.1 = true) :
    decodeLoop rounds settings buf ≠ .error .exceeded := by
  induction rounds generalizing settings buf with
  | zero => rintro ⟨⟩
  | succ rounds ih =>
    rw [decodeLoop]
    split_ifs
    · rintro ⟨⟩
    · rintro ⟨⟩
    cases first : VarInt.decode buf with
    | error count => rintro ⟨⟩
    | ok name =>
      obtain ⟨id, after⟩ := name
      dsimp only
      cases second : VarInt.decode after with
      | error count => rintro ⟨⟩
      | ok number =>
        obtain ⟨value, rest⟩ := number
        dsimp only
        split_ifs with forbidden supports
        · rintro ⟨⟩
        · have room := length_of_supported supported
          by_cases present : id ∈ settings.entries.map Prod.fst
          · rw [insert, dif_neg (Nat.not_le.mpr room), dif_pos present]
            rintro ⟨⟩
          · obtain ⟨next, inserted, grown⟩ := insert_eq value room present
            rw [inserted]
            apply ih
            intro entry member
            rw [grown, List.mem_append, List.mem_singleton] at member
            rcases member with member | rfl
            · exact supported entry member
            · exact supports
        · exact ih supported

theorem Tells.lt {buf : Bytes} {entries : List (Nat × Nat)} (tells : Tells buf entries) :
    ∀ entry ∈ entries, entry.1 < 2 ^ 62 ∧ entry.2 < 2 ^ 62 := by
  induction tells with
  | nil => exact fun _ member => nomatch member
  | cons named numbered _ ih =>
    have first := named.le_maximum
    have second := numbered.le_maximum
    rw [Varint.maximum] at first second
    refine List.forall_mem_cons.mpr ⟨⟨?_, ?_⟩, ih⟩ <;> dsimp only <;> omega

theorem supported_default : ∀ entry ∈ default.entries, SettingId.isSupported entry.1 = true :=
  fun _ member => nomatch member

theorem decode_tells {entries : List (Nat × Nat)} {payload : Bytes} (tells : Tells payload entries)
    (allowed : Allowed entries) :
    (∃ settings, decode payload = .ok settings ∧ settings.entries = known entries) ∨
      ∃ id, 2 ≤ ((known entries).map Prod.fst).count id ∧ decode payload = .error (.repeated id) :=
  decodeLoop_tells tells (Nat.le_refl _) allowed supported_default

theorem decode_encodeEntries {entries : List (Nat × Nat)} {payload : Bytes}
    (encoded : encodeEntries entries = some payload) (allowed : Allowed entries)
    (distinct : (entries.map Prod.fst).Nodup) :
    ∃ result, decode payload = .ok result ∧ result.entries = known entries := by
  refine (decode_tells (tells_encodeEntries encoded) allowed).resolve_right ?_
  rintro ⟨id, twice, _⟩
  have once := List.nodup_iff_count_le_one.mp (distinct.sublist ((known_sublist entries).map _)) id
  exact absurd (Nat.le_trans twice once) (by decide)

theorem ext_entries {first second : Settings} (same : first.entries = second.entries) : first = second := by
  obtain ⟨_, _, _⟩ := first
  obtain ⟨_, _, _⟩ := second
  cases same
  rfl

theorem decode_eq_ok_iff {payload : Bytes} {settings : Settings} : decode payload = .ok settings ↔
    ∃ entries, Tells payload entries ∧ Allowed entries ∧ settings.entries = known entries := by
  constructor
  · exact tells_of_decodeLoop (Nat.le_refl _)
  · rintro ⟨entries, tells, allowed, taken⟩
    rcases decode_tells tells allowed with ⟨result, decoded, whole⟩ | ⟨id, twice, _⟩
    · rw [ext_entries (taken.trans whole.symm)]
      exact decoded
    · -- the ids of settings are told once
      have once := List.nodup_iff_count_le_one.mp settings.distinct id
      rw [taken] at once
      exact absurd (Nat.le_trans twice once) (by decide)

theorem decode_again {payload : Bytes} {settings : Settings} (decoded : decode payload = .ok settings) :
    ∃ again, encodeEntries settings.entries = some again ∧ decode again = .ok settings := by
  obtain ⟨entries, tells, allowed, taken⟩ := decode_eq_ok_iff.mp decoded
  have part : settings.entries ⊆ entries := taken ▸ (known_sublist entries).subset
  obtain ⟨again, encoded⟩ := encodeEntries_of_lt fun entry member => tells.lt entry (part member)
  obtain ⟨result, read, whole⟩ := decode_encodeEntries encoded
    (fun entry member => allowed entry (part member)) settings.distinct
  have all : known settings.entries = settings.entries := by
    rw [taken, known, known, List.filter_filter]
    simp only [Bool.and_self]
  exact ⟨again, encoded, ext_entries (whole.trans all) ▸ read⟩

theorem insert_all {entries : List (Nat × Nat)} {start : Settings}
    (room : start.entries.length + entries.length ≤ settingsLen)
    (distinct : ((start.entries ++ entries).map Prod.fst).Nodup) :
    ∃ told, entries.foldlM (fun settings entry => settings.insert entry.1 entry.2) start = .ok told ∧
      told.entries = start.entries ++ entries := by
  induction entries generalizing start with
  | nil => exact ⟨start, rfl, (List.append_nil _).symm⟩
  | cons entry entries ih =>
    rw [List.length_cons] at room
    have absent : entry.1 ∉ start.entries.map Prod.fst := by
      intro member
      rw [List.map_append, List.nodup_append] at distinct
      exact distinct.2.2 _ member _ (List.mem_cons_self ..) rfl
    obtain ⟨more, inserted, grown⟩ := insert_eq entry.2 (show start.entries.length < settingsLen by omega) absent
    have left : more.entries.length + entries.length ≤ settingsLen := by
      rw [grown, List.length_append, List.length_singleton]
      omega
    obtain ⟨told, all, whole⟩ := ih left (by rw [grown, List.append_assoc]; exact distinct)
    refine ⟨told, ?_, by rw [whole, grown, List.append_assoc, List.singleton_append]⟩
    rw [List.foldlM_cons, inserted]
    exact all

end Frame.Settings

/-- The settings as the entries of a frame. -/
def Settings.entries (settings : Settings) : List (Nat × Nat) :=
  [(SettingId.maxHeaderListSize, settings.maxFieldSectionSize),
    (SettingId.enableConnectProtocol, settings.enableExtendedConnect.toNat),
    (SettingId.enableWebtransport, settings.enableWebtransport.toNat),
    (SettingId.h3Datagram, settings.enableDatagram.toNat),
    (SettingId.webtransportMaxSessions, settings.maxWebtransportSessions)]

theorem Config.toFrame_eq (config : Config) (drawn : Nat) : ∃ told, config.toFrame drawn = .ok told ∧
    told.entries = (if config.sendGrease then [(SettingId.grease drawn, 0)] else []) ++
      config.settings.entries := by
  have chain (start : Frame.Settings) (few : start.entries.length ≤ 1)
      (distinct : ((start.entries ++ config.settings.entries).map Prod.fst).Nodup) :=
    Frame.Settings.insert_all
      (by rw [show config.settings.entries.length = 5 from rfl, settingsLen]; omega) distinct
  have ids : config.settings.entries.map Prod.fst = [0x6, 0x8, 0x2B603742, 0x33, 0x2b603743] := rfl
  have own : (config.settings.entries.map Prod.fst).Nodup := by
    rw [ids]
    decide
  unfold toFrame
  by_cases grease : config.sendGrease = true
  · obtain ⟨first, inserted, one⟩ :=
      @Frame.Settings.insert_eq .default (SettingId.grease drawn) 0 (by decide) List.not_mem_nil
    have other : SettingId.grease drawn ∉ config.settings.entries.map Prod.fst := by
      rw [ids, SettingId.grease]
      simp only [List.mem_cons, List.not_mem_nil, or_false]
      omega
    obtain ⟨told, all, whole⟩ := chain first (by rw [one]; exact Nat.le_refl 1) (by
      rw [one]
      exact List.nodup_cons.mpr ⟨other, own⟩)
    refine ⟨told, ?_, ?_⟩
    · rw [if_pos grease, inserted]
      simpa only [Settings.entries, List.foldlM_cons, List.foldlM_nil, bind_pure] using all
    · rw [whole, one, if_pos grease]
      rfl
  · obtain ⟨told, all, whole⟩ := chain .default (by decide) own
    refine ⟨told, ?_, ?_⟩
    · rw [if_neg grease]
      simpa only [Settings.entries, List.foldlM_cons, List.foldlM_nil, bind_pure] using all
    · rw [whole, if_neg grease]
      rfl

/-- Every configuration whose numbers fit can be told. -/
theorem Frame.Settings.encode_of_lt {told : Frame.Settings}
    (small : ∀ entry ∈ told.entries, entry.1 < 2 ^ 62 ∧ entry.2 < 2 ^ 62) :
    ∃ bytes, told.encode = some bytes := by
  obtain ⟨payload, entries⟩ := encodeEntries_of_lt small
  have most : ∀ size ∈ told.entries.map fun entry => VarInt.size entry.1 + VarInt.size entry.2, size ≤ 16 := by
    intro size member
    obtain ⟨entry, _, rfl⟩ := List.mem_map.mp member
    have eight (x : Nat) : VarInt.size x ≤ 8 := by
      unfold VarInt.size
      split_ifs <;> decide
    have name := eight entry.1
    have value := eight entry.2
    omega
  have sum := List.sum_le_card_nsmul _ _ most
  have room := told.room
  rw [settingsLen] at room
  rw [List.length_map, Nat.nsmul_eq_mul, ← len] at sum
  refine ⟨VarInt.encode 4 ++ VarInt.encode told.len ++ payload, ?_⟩
  rw [encode, writeVar, if_pos (by decide), writeVar, if_pos (by omega), entries]
  rfl

theorem Settings.ofFrame_eq {told : Frame.Settings} {settings : Settings}
    (same : told.entries = settings.entries) : ofFrame told = settings := by
  obtain ⟨size, webtransport, connect, datagram, sessions⟩ := settings
  have found : told.get SettingId.maxHeaderListSize = some size ∧
      told.get SettingId.enableConnectProtocol = some connect.toNat ∧
      told.get SettingId.enableWebtransport = some webtransport.toNat ∧
      told.get SettingId.h3Datagram = some datagram.toNat ∧
      told.get SettingId.webtransportMaxSessions = some sessions := by
    simp only [Frame.Settings.get, same, entries]
    exact ⟨rfl, rfl, rfl, rfl, rfl⟩
  obtain ⟨sizeFound, connectFound, webtransportFound, datagramFound, sessionsFound⟩ := found
  rw [ofFrame, sizeFound, connectFound, webtransportFound, datagramFound, sessionsFound]
  cases webtransport <;> cases connect <;> cases datagram <;> rfl

/-- Whatever a peer sends as settings: there is always room for those that are known. Accepted are
exactly the payloads that tell entries, none with a forbidden id and no known one twice, and what
is accepted are the known ones in their order; a known id that is told again is refused by its
name; and what is accepted could be told again. -/
theorem settings_accepted (payload : Bytes) :
    Frame.Settings.decode payload ≠ .error .exceeded ∧
    (∀ settings, Frame.Settings.decode payload = .ok settings ↔ ∃ entries,
      Frame.Settings.Tells payload entries ∧ Frame.Settings.Allowed entries ∧
        settings.entries = Frame.Settings.known entries) ∧
    (∀ entries, Frame.Settings.Tells payload entries → Frame.Settings.Allowed entries →
      ¬ ((Frame.Settings.known entries).map Prod.fst).Nodup → ∃ id,
        2 ≤ ((Frame.Settings.known entries).map Prod.fst).count id ∧
          Frame.Settings.decode payload = .error (.repeated id)) ∧
    ∀ settings, Frame.Settings.decode payload = .ok settings → ∃ again,
      Frame.Settings.encodeEntries settings.entries = some again ∧
        Frame.Settings.decode again = .ok settings := by
  refine ⟨Frame.Settings.decodeLoop_ne_exceeded Frame.Settings.supported_default,
    fun _ => Frame.Settings.decode_eq_ok_iff, ?_, fun _ => Frame.Settings.decode_again⟩
  intro entries tells allowed repeats
  refine (Frame.Settings.decode_tells tells allowed).resolve_left ?_
  rintro ⟨settings, _, taken⟩
  exact repeats (taken ▸ settings.distinct)

/-- A limit of a hundred bytes, between two settings nobody knows. -/
def limitPayload : Bytes := [0x21, 0x00, 0x06, 0x40, 0x64, 0x40, 0x40, 0x05]

theorem settings_accepted_limit : ∃ settings, Frame.Settings.decode limitPayload = .ok settings ∧
    settings.entries = [(0x06, 100)] ∧
    ∃ again, Frame.Settings.encodeEntries settings.entries = some again ∧
      Frame.Settings.decode again = .ok settings := by
  refine ⟨⟨[(0x06, 100)], by decide, by decide⟩, by decide, rfl, ?_⟩
  exact (settings_accepted limitPayload).2.2.2 _ (by decide)

end SingQuic.H3
