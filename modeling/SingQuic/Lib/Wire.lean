import Mathlib.Data.List.Basic
import Mathlib.Data.UInt

/-! Reading framed data from the bytes of a reliable stream that have arrived so
far. A reader that lacks bytes asks for more and consumes nothing, which is what
a suspended exact read looks like from outside; the framing questions are then
questions about list prefixes. -/
namespace Wire

abbrev Bytes := List UInt8

/-- Big-endian bytes of a natural number, truncated to the given width. -/
def bigEndian : Nat → Nat → Bytes
  | 0, _ => []
  | width + 1, value => bigEndian width (value / 256) ++ [UInt8.ofNat value]

/-- One more byte of a big-endian number. -/
def shiftIn (value : Nat) (byte : UInt8) : Nat := value * 256 + byte.toNat

def ofBigEndian (bytes : Bytes) : Nat := bytes.foldl shiftIn 0

@[simp] theorem length_bigEndian (width value : Nat) : (bigEndian width value).length = width := by
  induction width generalizing value with
  | zero => rfl
  | succ width ih => simp [bigEndian, ih]

/-- The most significant byte first, the others being those of a narrower field. -/
theorem bigEndian_cons (width value : Nat) :
    bigEndian (width + 1) value = UInt8.ofNat (value / 256 ^ width) :: bigEndian width value := by
  induction width generalizing value with
  | zero => simp [bigEndian]
  | succ width ih =>
    rw [bigEndian, ih, Nat.div_div_eq_div_mul, ← Nat.pow_succ']
    rfl

theorem foldl_bigEndian (width value start : Nat) :
    (bigEndian width value).foldl shiftIn start = start * 256 ^ width + value % 256 ^ width := by
  induction width generalizing value with
  | zero => simp [bigEndian, Nat.mod_one]
  | succ width ih =>
    have split : value % 256 ^ (width + 1) = value % 256 + 256 * (value / 256 % 256 ^ width) := by
      rw [Nat.pow_succ', Nat.mod_mul]
    have scale : start * 256 ^ (width + 1) = start * 256 ^ width * 256 := by
      rw [Nat.pow_succ, Nat.mul_assoc]
    rw [bigEndian, List.foldl_append, ih, List.foldl_cons, List.foldl_nil, shiftIn,
      UInt8.toNat_ofNat', split, scale]
    omega

theorem ofBigEndian_bigEndian (width value : Nat) :
    ofBigEndian (bigEndian width value) = value % 256 ^ width := by
  rw [ofBigEndian, foldl_bigEndian, Nat.zero_mul, Nat.zero_add]

theorem ofBigEndian_bigEndian_of_lt {width value : Nat} (fits : value < 256 ^ width) :
    ofBigEndian (bigEndian width value) = value := by
  rw [ofBigEndian_bigEndian, Nat.mod_eq_of_lt fits]

theorem foldl_shiftIn (start : Nat) (bytes : Bytes) :
    bytes.foldl shiftIn start = start * 256 ^ bytes.length + ofBigEndian bytes := by
  induction bytes generalizing start with
  | nil => simp [ofBigEndian]
  | cons byte bytes ih =>
    have whole : ofBigEndian (byte :: bytes) = byte.toNat * 256 ^ bytes.length + ofBigEndian bytes := by
      rw [ofBigEndian, List.foldl_cons, ih, shiftIn, Nat.zero_mul, Nat.zero_add]
    rw [List.foldl_cons, ih, whole, shiftIn, Nat.add_mul, List.length_cons, Nat.pow_succ',
      Nat.mul_assoc, Nat.add_assoc]

theorem ofBigEndian_concat (bytes : Bytes) (byte : UInt8) :
    ofBigEndian (bytes ++ [byte]) = ofBigEndian bytes * 256 + byte.toNat := by
  rw [ofBigEndian, List.foldl_append]
  rfl

theorem ofBigEndian_lt (bytes : Bytes) : ofBigEndian bytes < 256 ^ bytes.length := by
  induction bytes using List.reverseRecOn with
  | nil => decide
  | append_singleton bytes byte ih =>
    have digit := byte.toNat_lt
    rw [ofBigEndian_concat, List.length_append, List.length_singleton, Nat.pow_succ]
    omega

/-- Any bytes are those of the number they spell. -/
theorem bigEndian_ofBigEndian (bytes : Bytes) : bigEndian bytes.length (ofBigEndian bytes) = bytes := by
  induction bytes using List.reverseRecOn with
  | nil => rfl
  | append_singleton bytes byte ih =>
    have digit := byte.toNat_lt
    have high : (ofBigEndian bytes * 256 + byte.toNat) / 256 = ofBigEndian bytes := by omega
    have low : UInt8.ofNat (ofBigEndian bytes * 256 + byte.toNat) = byte := by
      rw [← UInt8.toNat_inj, UInt8.toNat_ofNat']
      omega
    rw [ofBigEndian_concat, List.length_append, List.length_singleton, bigEndian, high, low, ih]

/-- What an attempt to read yields: a value and the bytes after it, a request
for further bytes, or a rejection that no further byte can repair. -/
inductive Read (ε α : Type) where
  | done (value : α) (rest : Bytes)
  | more
  | failed (error : ε)
  deriving DecidableEq, Repr

/-- The answer on a stream that ends after the input: a request for further bytes fails. -/
def Read.atEnd {ε α : Type} (eof : ε) : Read ε α → Except ε (α × Bytes)
  | .done value rest => .ok (value, rest)
  | .more => .error eof
  | .failed error => .error error

def Reader (ε α : Type) := Bytes → Read ε α

namespace Reader
variable {ε α β : Type}

instance : Monad (Reader ε) where
  pure value := fun input => .done value input
  bind first next := fun input =>
    match first input with
    | .done value rest => next value rest
    | .more => .more
    | .failed error => .failed error

/-- The reader that rejects its input, whatever follows. -/
def fail (error : ε) : Reader ε α := fun _ => .failed error

def readExact (count : Nat) : Reader ε Bytes := fun input =>
  if count ≤ input.length then .done (input.take count) (input.drop count) else .more

def readByte : Reader ε UInt8
  | [] => .more
  | byte :: rest => .done byte rest

/-- An exact read that remembers how much it read. -/
def readSized (count : Nat) : Reader ε { bytes : Bytes // bytes.length = count } := fun input =>
  if enough : count ≤ input.length then .done ⟨input.take count, by simp [enough]⟩ (input.drop count)
  else .more

@[simp] theorem pure_apply (value : α) (input : Bytes) :
    (pure value : Reader ε α) input = .done value input := rfl

@[simp] theorem fail_apply (error : ε) (input : Bytes) :
    (fail error : Reader ε α) input = .failed error := rfl

theorem bind_apply (first : Reader ε α) (next : α → Reader ε β) (input : Bytes) :
    (first >>= next) input = match first input with
      | .done value rest => next value rest
      | .more => .more
      | .failed error => .failed error := rfl

theorem bind_done {first : Reader ε α} {next : α → Reader ε β} {input rest : Bytes} {value : α}
    (read : first input = .done value rest) : (first >>= next) input = next value rest := by
  rw [bind_apply, read]

theorem bind_failed {first : Reader ε α} {next : α → Reader ε β} {input : Bytes} {error : ε}
    (read : first input = .failed error) : (first >>= next) input = .failed error := by
  rw [bind_apply, read]

theorem bind_eq_done_iff {first : Reader ε α} {next : α → Reader ε β} {input rest : Bytes} {value : β} :
    (first >>= next) input = .done value rest ↔
      ∃ middle left, first input = .done middle left ∧ next middle left = .done value rest := by
  rw [bind_apply]
  constructor
  · intro read
    split at read
    · rename_i middle left decided
      exact ⟨middle, left, decided, read⟩
    · contradiction
    · contradiction
  · rintro ⟨middle, left, decided, read⟩
    rw [decided]
    exact read

/-- Two continuations of a reader are compared only where the reader has read. -/
theorem bind_congr {first : Reader ε α} {next other : α → Reader ε β} {input : Bytes}
    (same : ∀ value rest, first input = .done value rest → next value rest = other value rest) :
    (first >>= next) input = (first >>= other) input := by
  rw [bind_apply, bind_apply]
  cases decided : first input with
  | done value rest => exact same value rest decided
  | more => rfl
  | failed error => rfl

theorem map_done {reader : Reader ε α} {change : α → β} {input rest : Bytes} {value : α}
    (read : reader input = .done value rest) : (change <$> reader) input = .done (change value) rest :=
  bind_done read

theorem bind_map (reader : Reader ε α) (change : α → β) {γ : Type} (next : β → Reader ε γ)
    (input : Bytes) :
    ((change <$> reader) >>= next) input = (reader >>= fun value => next (change value)) input := by
  have mapped : (change <$> reader) = (reader >>= fun value => pure (change value)) := rfl
  rw [mapped, bind_apply, bind_apply, bind_apply]
  cases reader input <;> rfl

theorem readExact_append (bytes rest : Bytes) :
    (readExact bytes.length : Reader ε Bytes) (bytes ++ rest) = .done bytes rest := by
  simp [readExact]

theorem readExact_eq_done_iff {count : Nat} {input bytes rest : Bytes} :
    (readExact count : Reader ε Bytes) input = .done bytes rest ↔
      bytes.length = count ∧ input = bytes ++ rest := by
  constructor
  · intro read
    simp only [readExact] at read
    split at read
    · obtain ⟨rfl, rfl⟩ := Read.done.inj read
      exact ⟨by simp; omega, (List.take_append_drop _ _).symm⟩
    · contradiction
  · rintro ⟨rfl, rfl⟩
    exact readExact_append bytes rest

theorem readExact_append_of_length {bytes rest : Bytes} {count : Nat} (size : bytes.length = count) :
    (readExact count : Reader ε Bytes) (bytes ++ rest) = .done bytes rest := by
  rw [← size, readExact_append]

theorem readByte_cons (byte : UInt8) (rest : Bytes) :
    (readByte : Reader ε UInt8) (byte :: rest) = .done byte rest := rfl

theorem readByte_eq_done_iff {byte : UInt8} {input rest : Bytes} :
    (readByte : Reader ε UInt8) input = .done byte rest ↔ input = byte :: rest := by
  cases input with
  | nil => simp [readByte]
  | cons first input => simp [readByte]

theorem readSized_append (bytes rest : Bytes) {count : Nat} (size : bytes.length = count) :
    (readSized count : Reader ε _) (bytes ++ rest) = .done ⟨bytes, size⟩ rest := by
  subst count
  simp [readSized]

/-- Once a reader has decided, later bytes change nothing but the leftover. -/
structure Stable (reader : Reader ε α) : Prop where
  done : ∀ {input value rest}, reader input = .done value rest →
    ∀ later, reader (input ++ later) = .done value (rest ++ later)
  failed : ∀ {input error}, reader input = .failed error →
    ∀ later, reader (input ++ later) = .failed error

theorem Stable.pure (value : α) : Stable (Pure.pure value : Reader ε α) where
  done read later := by
    simp only [pure_apply, Read.done.injEq] at read ⊢
    obtain ⟨rfl, rfl⟩ := read
    exact ⟨rfl, rfl⟩
  failed read := by simp at read

theorem Stable.fail (error : ε) : Stable (Reader.fail error : Reader ε α) where
  done read := by simp at read
  failed read later := by simpa using read

theorem Stable.readExact (count : Nat) : Stable (Reader.readExact count : Reader ε Bytes) where
  done {input value rest} read later := by
    simp only [Reader.readExact] at read ⊢
    split at read
    · rename_i enough
      obtain ⟨rfl, rfl⟩ := Read.done.inj read
      rw [if_pos (by simp; omega), List.take_append_of_le_length enough,
        List.drop_append_of_le_length enough]
    · contradiction
  failed read := by
    simp only [Reader.readExact] at read
    split at read <;> contradiction

theorem Stable.readByte : Stable (Reader.readByte : Reader ε UInt8) where
  done {input value rest} read later := by
    cases input with
    | nil => contradiction
    | cons byte tail =>
      obtain ⟨rfl, rfl⟩ := Read.done.inj read
      rfl
  failed {input error} read := by
    cases input <;> contradiction

theorem Stable.readSized (count : Nat) : Stable (Reader.readSized count : Reader ε _) where
  done {input value rest} read later := by
    simp only [Reader.readSized] at read ⊢
    split at read
    · rename_i enough
      obtain ⟨rfl, rfl⟩ := Read.done.inj read
      rw [dif_pos (by simp; omega)]
      simp only [List.take_append_of_le_length enough, List.drop_append_of_le_length enough]
    · contradiction
  failed read := by
    simp only [Reader.readSized] at read
    split at read <;> contradiction

theorem Stable.bind {first : Reader ε α} {next : α → Reader ε β} (head : Stable first)
    (tail : ∀ value, Stable (next value)) : Stable (first >>= next) where
  done {input value rest} read later := by
    cases decided : first input with
    | done middle remaining =>
      rw [bind_done decided] at read
      rw [bind_done (head.done decided later)]
      exact (tail middle).done read later
    | more => simp only [bind_apply, decided] at read; contradiction
    | failed error => simp only [bind_apply, decided] at read; contradiction
  failed {input error} read later := by
    cases decided : first input with
    | done middle remaining =>
      rw [bind_done decided] at read
      rw [bind_done (head.done decided later)]
      exact (tail middle).failed read later
    | more => simp only [bind_apply, decided] at read; contradiction
    | failed error =>
      simp only [bind_apply, decided] at read
      rw [bind_failed (head.failed decided later)]
      exact read

/-- A reader decides by the bytes it consumes, and leaves the others as they are. -/
structure Exact (reader : Reader ε α) : Prop where
  consumes : ∀ {input value rest}, reader input = .done value rest →
    ∃ used, input = used ++ rest ∧ reader used = .done value []

theorem Exact.pure (value : α) : Exact (Pure.pure value : Reader ε α) where
  consumes {input found rest} read := by
    obtain ⟨rfl, rfl⟩ := Read.done.inj read
    exact ⟨[], rfl, rfl⟩

theorem Exact.fail (error : ε) : Exact (Reader.fail error : Reader ε α) where
  consumes read := by simp at read

theorem Exact.readExact (count : Nat) : Exact (Reader.readExact count : Reader ε Bytes) where
  consumes {input found rest} read := by
    obtain ⟨size, rfl⟩ := readExact_eq_done_iff.mp read
    have alone : (Reader.readExact count : Reader ε Bytes) (found ++ []) = .done found [] :=
      readExact_append_of_length size
    rw [List.append_nil] at alone
    exact ⟨found, rfl, alone⟩

theorem Exact.readByte : Exact (Reader.readByte : Reader ε UInt8) where
  consumes {input found rest} read := by
    obtain rfl := readByte_eq_done_iff.mp read
    exact ⟨[found], rfl, rfl⟩

theorem Exact.readSized (count : Nat) : Exact (Reader.readSized count : Reader ε _) where
  consumes {input found rest} read := by
    have whole : input = found.val ++ rest := by
      simp only [Reader.readSized] at read
      split at read
      · obtain ⟨rfl, rfl⟩ := Read.done.inj read
        exact (List.take_append_drop _ _).symm
      · contradiction
    have alone : (Reader.readSized count : Reader ε _) (found.val ++ []) = .done found [] :=
      readSized_append found.val [] found.property
    rw [List.append_nil] at alone
    exact ⟨found.val, whole, alone⟩

theorem Exact.bind {first : Reader ε α} {next : α → Reader ε β} (stable : Stable first)
    (head : Exact first) (tail : ∀ value, Exact (next value)) : Exact (first >>= next) where
  consumes {input found rest} read := by
    obtain ⟨middle, left, began, went⟩ := bind_eq_done_iff.mp read
    obtain ⟨used, rfl, own⟩ := head.consumes began
    obtain ⟨more, rfl, other⟩ := (tail middle).consumes went
    refine ⟨used ++ more, (List.append_assoc _ _ _).symm, ?_⟩
    rw [bind_done (stable.done own more)]
    exact other

/-- A proper prefix of a frame decides nothing: the reader waits for the rest.
This is what makes a concatenation of frames independent of how it is split. -/
theorem Stable.prefix_more {reader : Reader ε α} (stable : Stable reader) {input later : Bytes}
    {value : α} (whole : reader (input ++ later) = .done value []) (missing : later ≠ []) :
    reader input = .more := by
  cases decided : reader input with
  | more => rfl
  | failed error =>
    rw [stable.failed decided later] at whole
    contradiction
  | done other rest =>
    rw [stable.done decided later] at whole
    have empty := (Read.done.inj whole).2
    exact absurd (List.append_eq_nil_iff.mp empty).2 missing

/-- Reading from a prefix of a concatenation of frames: the reader waits, or it
yields the first frame and leaves a prefix of the others. -/
theorem Stable.frames {reader : Reader ε α} (stable : Stable reader) (waits : reader [] = .more)
    {bytes : β → Bytes} {value : β → α} {frames : List β}
    (decodes : ∀ frame ∈ frames, ∀ rest, reader (bytes frame ++ rest) = .done (value frame) rest)
    {unread : Bytes} (part : unread <+: frames.flatMap bytes) :
    reader unread = .more ∨ ∃ frame later rest, frames = frame :: later ∧
      unread = bytes frame ++ rest ∧ reader unread = .done (value frame) rest ∧
      rest <+: later.flatMap bytes := by
  cases frames with
  | nil =>
    rw [List.flatMap_nil, List.prefix_nil] at part
    exact Or.inl (part ▸ waits)
  | cons frame later =>
    rw [List.flatMap_cons] at part
    have read := decodes frame (by simp)
    rcases List.prefix_or_prefix_of_prefix part (List.prefix_append _ _) with
      ⟨missing, same⟩ | ⟨rest, rfl⟩
    · cases missing with
      | nil =>
        rw [List.append_nil] at same
        subst unread
        have whole := read []
        rw [List.append_nil] at whole
        exact Or.inr ⟨frame, later, [], rfl, (List.append_nil _).symm, whole, List.nil_prefix⟩
      | cons byte tail =>
        have whole : reader (unread ++ byte :: tail) = .done (value frame) [] := by
          rw [same, ← List.append_nil (bytes frame)]
          exact read []
        exact Or.inl (stable.prefix_more whole (by simp))
    · exact Or.inr ⟨frame, later, rest, rfl, rfl, read rest, (List.prefix_append_right_inj _).mp part⟩

/-- If a reader waits although a frame has arrived as a whole, it is past that frame. -/
theorem passed_of_more {reader : Reader ε α} {bytes : β → Bytes} {value : β → α}
    {frames consumed before after : List β} {frame : β} {unread : Bytes}
    (decodes : ∀ frame ∈ frames, ∀ rest, reader (bytes frame ++ rest) = .done (value frame) rest)
    (part : consumed <+: frames) (split : frames = before ++ frame :: after)
    (arrived : consumed.flatMap bytes ++ unread <+: frames.flatMap bytes)
    (enough : ((before ++ [frame]).flatMap bytes).length ≤ (consumed.flatMap bytes ++ unread).length)
    (waits : reader unread = .more) : before.length < consumed.length := by
  by_contra few
  have inside : before <+: frames := ⟨frame :: after, split.symm⟩
  obtain ⟨middle, rfl⟩ := List.prefix_of_prefix_length_le part inside (Nat.le_of_not_lt few)
  have whole : (consumed ++ middle ++ [frame]).flatMap bytes <+: frames.flatMap bytes :=
    ⟨after.flatMap bytes, by simp [split]⟩
  have ahead := List.prefix_of_prefix_length_le whole arrived enough
  rw [List.append_assoc, List.flatMap_append, List.prefix_append_right_inj] at ahead
  -- the first of the frames that have arrived but were not consumed can be read
  obtain ⟨first, rest, listed⟩ : ∃ first rest, middle ++ [frame] = first :: rest :=
    List.exists_cons_of_ne_nil (by simp)
  have member : first ∈ frames := by
    rw [split, List.append_cons, List.append_assoc consumed, listed]
    simp
  obtain ⟨more, rfl⟩ := ahead
  rw [listed, List.flatMap_cons, List.append_assoc, decodes first member] at waits
  contradiction

/-- Successive reads: the values read so far and the bytes that are left. -/
inductive Reads (reader : Reader ε α) (input : Bytes) : List α → Bytes → Prop where
  | nil : Reads reader input [] input
  | concat {values : List α} {value : α} {middle rest : Bytes} (earlier : Reads reader input values middle)
      (read : reader middle = .done value rest) : Reads reader input (values ++ [value]) rest

theorem Reads.append {reader : Reader ε α} (stable : Stable reader) {input rest : Bytes} {values : List α}
    (reads : Reads reader input values rest) (later : Bytes) :
    Reads reader (input ++ later) values (rest ++ later) := by
  induction reads with
  | nil => exact .nil
  | concat _ read ih => exact .concat ih (stable.done read later)

/-- Whole frames are read one after another. -/
theorem reads_flatMap {reader : Reader ε α} {bytes : β → Bytes} {value : β → α} {frames : List β}
    (decodes : ∀ frame ∈ frames, ∀ rest, reader (bytes frame ++ rest) = .done (value frame) rest)
    (rest : Bytes) : Reads reader (frames.flatMap bytes ++ rest) (frames.map value) rest := by
  induction frames using List.reverseRecOn generalizing rest with
  | nil => exact .nil
  | append_singleton frames frame ih =>
    have earlier := ih (fun other member => decodes other (List.mem_append_left _ member))
      (bytes frame ++ rest)
    rw [List.flatMap_append, List.flatMap_singleton, List.append_assoc, List.map_append]
    exact .concat earlier (decodes frame (by simp) rest)

/-- What is read from a prefix of a concatenation of frames is the first of them. -/
theorem Reads.frames {reader : Reader ε α} (stable : Stable reader) (waits : reader [] = .more)
    {bytes : β → Bytes} {value : β → α} {frames : List β}
    (decodes : ∀ frame ∈ frames, ∀ rest, reader (bytes frame ++ rest) = .done (value frame) rest)
    {input rest : Bytes} {values : List α} (part : input <+: frames.flatMap bytes)
    (reads : Reads reader input values rest) :
    ∃ consumed later, frames = consumed ++ later ∧ values = consumed.map value ∧
      input = consumed.flatMap bytes ++ rest ∧ rest <+: later.flatMap bytes := by
  induction reads with
  | nil => exact ⟨[], frames, rfl, rfl, rfl, part⟩
  | concat _ read ih =>
    obtain ⟨consumed, later, rfl, rfl, rfl, onward⟩ := ih
    have after : ∀ frame ∈ later, ∀ rest, reader (bytes frame ++ rest) = .done (value frame) rest :=
      fun frame member => decodes frame (List.mem_append_right _ member)
    rcases stable.frames waits after onward with more | ⟨frame, final, left, rfl, same, done, kept⟩
    · rw [more] at read
      contradiction
    · obtain ⟨rfl, rfl⟩ := Read.done.inj (done.symm.trans read)
      exact ⟨consumed ++ [frame], final, by simp, by simp, by simp [same], kept⟩

/-- The frames that lie whole within the first bytes of their concatenation. -/
def wholeFrames (bytes : β → Bytes) : Nat → List β → List β
  | _, [] => []
  | room, frame :: rest =>
    if (bytes frame).length ≤ room then frame :: wholeFrames bytes (room - (bytes frame).length) rest
    else []

theorem wholeFrames_append (bytes : β → Bytes) (frames later : List β) (room : Nat) :
    wholeFrames bytes ((frames.flatMap bytes).length + room) (frames ++ later) =
      frames ++ wholeFrames bytes room later := by
  induction frames with
  | nil => simp
  | cons frame frames ih =>
    have fits : (bytes frame).length ≤ ((frame :: frames).flatMap bytes).length + room := by
      rw [List.flatMap_cons, List.length_append]
      omega
    have left : ((frame :: frames).flatMap bytes).length + room - (bytes frame).length =
        (frames.flatMap bytes).length + room := by
      rw [List.flatMap_cons, List.length_append]
      omega
    rw [List.cons_append, wholeFrames, if_pos fits, left, ih, List.cons_append]

/-- All frames lie whole within their concatenation. -/
theorem wholeFrames_all (bytes : β → Bytes) (frames : List β) :
    wholeFrames bytes (frames.flatMap bytes).length frames = frames := by
  have all := wholeFrames_append bytes frames [] 0
  rwa [List.append_nil, Nat.add_zero, wholeFrames, List.append_nil] at all

/-- A frame of which a part is missing does not count. -/
theorem wholeFrames_concat (bytes : β → Bytes) {frames : List β} {last : β} {room : Nat}
    (short : room < ((frames ++ [last]).flatMap bytes).length) :
    wholeFrames bytes room (frames ++ [last]) = wholeFrames bytes room frames := by
  induction frames generalizing room with
  | nil =>
    rw [List.nil_append, List.flatMap_singleton] at short
    exact if_neg (Nat.not_le.mpr short)
  | cons frame frames ih =>
    rw [List.cons_append, List.flatMap_cons, List.length_append] at short
    rw [List.cons_append, wholeFrames, wholeFrames]
    split
    · rw [ih (by omega)]
    · rfl

/-- A reader that can read no further has read exactly the frames that have arrived
as a whole. -/
theorem Reads.whole {reader : Reader ε α} (stable : Stable reader) (waits : reader [] = .more)
    {bytes : β → Bytes} {value : β → α} {frames : List β}
    (decodes : ∀ frame ∈ frames, ∀ rest, reader (bytes frame ++ rest) = .done (value frame) rest)
    {input rest : Bytes} {values : List α} (part : input <+: frames.flatMap bytes)
    (reads : Reads reader input values rest) (stuck : reader rest = .more) :
    values = (wholeFrames bytes input.length frames).map value := by
  obtain ⟨consumed, later, rfl, rfl, rfl, onward⟩ := reads.frames stable waits decodes part
  have none' : wholeFrames bytes rest.length later = [] := by
    cases later with
    | nil => rfl
    | cons frame later =>
      -- a whole frame could still be read
      refine if_neg fun fits => ?_
      rw [List.flatMap_cons] at onward
      obtain ⟨left, rfl⟩ := List.prefix_of_prefix_length_le (List.prefix_append _ _) onward fits
      rw [decodes frame (by simp)] at stuck
      contradiction
  rw [List.length_append, wholeFrames_append, none', List.append_nil]

end Reader
end Wire
