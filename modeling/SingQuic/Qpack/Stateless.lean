import SingQuic.Qpack.Block

/-! The header codec of the connection: no dynamic table, so a block stands for itself. What is
written is read back field by field, up to the limit on the size of the headers. -/
namespace SingQuic.Qpack
open Wire

inductive DecoderError where
  | invalidInteger (error : PrefixInt.Error)
  | invalidString (error : PrefixString.Error)
  | invalidStaticIndex (index : Nat)
  | unknownPrefix (first : UInt8)
  | missingRefs (count : Nat)
  | badBaseIndex (base : Int)
  | headerTooLong (size : Nat)
  deriving DecidableEq, Repr

def DecoderError.ofParse : ParseError → DecoderError
  | .integer error => .invalidInteger error
  | .string error => .invalidString error
  | .invalidPrefix flags => .unknownPrefix flags
  | .invalidBase base => .badBaseIndex base

def DecoderError.ofStatic : StaticTable.Error → DecoderError
  | .unknown index => .invalidStaticIndex index

structure Decoded where
  fields : List HeaderField
  memSize : Nat
  dynRef : Bool
  deriving DecidableEq, Repr

/-- The body of the loop of `encode_stateless`. -/
def encodeField (field : HeaderField) : Bytes :=
  match StaticTable.find field with
  | some index => (Indexed.static index).encode
  | none =>
    match StaticTable.findName field.name with
    | some index => (LiteralWithNameRef.static index field.value).encode
    | none => (Literal.mk field.name field.value).encode

def totalSize (fields : List HeaderField) : Nat := (fields.map HeaderField.memSize).sum

/-- The block, and the size that is checked against the peer's limit. -/
def encodeStateless (fields : List HeaderField) : Bytes × Nat :=
  ((((HeaderPrefix.new 0 0 0 0).map HeaderPrefix.encode).getD []) ++ fields.flatMap encodeField,
    totalSize fields)

/-- The field line that starts with `first`. -/
def decodeField (first : UInt8) (buf : Bytes) : Except DecoderError (HeaderField × Bytes) :=
  match HeaderBlockField.decode first with
  | .indexedWithPostBase => .error (.missingRefs 0)
  | .literalWithPostBaseNameRef => .error (.missingRefs 0)
  | .indexed => do
    let (indexed, buf) ← (Indexed.decode buf).mapError .ofParse
    match indexed with
    | .static index => do
      let field ← (StaticTable.get index).mapError .ofStatic
      .ok (field, buf)
    | .dynamic _ => .error (.missingRefs 0)
  | .literalWithNameRef => do
    let (literal, buf) ← (LiteralWithNameRef.decode buf).mapError .ofParse
    match literal with
    | .dynamic _ _ => .error (.missingRefs 0)
    | .static index value => do
      let field ← (StaticTable.get index).mapError .ofStatic
      .ok (field.withValue value, buf)
  | .literal => do
    let (literal, buf) ← (Literal.decode buf).mapError .ofParse
    .ok (⟨literal.name, literal.value⟩, buf)
  | .unknown => .error (.unknownPrefix first)

theorem Indexed.length_decode {buf rest : Bytes} {indexed : Indexed}
    (read : decode buf = .ok (indexed, rest)) : rest.length < buf.length := by
  obtain ⟨⟨⟨flags, index⟩, after⟩, number, read⟩ := bind_ok.mp read
  have shorter := PrefixInt.length_decode (mapError_ok.mp number)
  dsimp only at read
  split at read
  · obtain ⟨_, _, done⟩ := bind_ok.mp read
    obtain ⟨_, rfl⟩ := Prod.mk.inj (Except.ok.inj done)
    exact shorter
  · split at read
    · obtain ⟨_, _, done⟩ := bind_ok.mp read
      obtain ⟨_, rfl⟩ := Prod.mk.inj (Except.ok.inj done)
      exact shorter
    · cases read

theorem LiteralWithNameRef.length_decode {buf rest : Bytes} {literal : LiteralWithNameRef}
    (read : decode buf = .ok (literal, rest)) : rest.length < buf.length := by
  obtain ⟨⟨⟨flags, index⟩, after⟩, number, read⟩ := bind_ok.mp read
  have shorter := PrefixInt.length_decode (mapError_ok.mp number)
  dsimp only at read
  split at read
  · obtain ⟨_, _, read⟩ := bind_ok.mp read
    obtain ⟨⟨value, last⟩, string, done⟩ := bind_ok.mp read
    obtain ⟨_, rfl⟩ := Prod.mk.inj (Except.ok.inj done)
    exact Nat.lt_trans (PrefixString.length_decode (mapError_ok.mp string)) shorter
  · split at read
    · obtain ⟨_, _, read⟩ := bind_ok.mp read
      obtain ⟨⟨value, last⟩, string, done⟩ := bind_ok.mp read
      obtain ⟨_, rfl⟩ := Prod.mk.inj (Except.ok.inj done)
      exact Nat.lt_trans (PrefixString.length_decode (mapError_ok.mp string)) shorter
    · cases read

theorem Literal.length_decode {buf rest : Bytes} {literal : Literal}
    (read : decode buf = .ok (literal, rest)) : rest.length < buf.length := by
  cases buf with
  | nil => cases read
  | cons first buf =>
    simp only [decode] at read
    split at read
    · cases read
    · obtain ⟨⟨name, after⟩, string, read⟩ := bind_ok.mp read
      obtain ⟨⟨value, last⟩, second, done⟩ := bind_ok.mp read
      obtain ⟨_, rfl⟩ := Prod.mk.inj (Except.ok.inj done)
      exact Nat.lt_trans (PrefixString.length_decode (mapError_ok.mp second))
        (PrefixString.length_decode (mapError_ok.mp string))

/-- A field line is at least a byte long, so the loop over them ends. -/
theorem length_decodeField {first : UInt8} {buf rest : Bytes} {field : HeaderField}
    (read : decodeField first buf = .ok (field, rest)) : rest.length < buf.length := by
  unfold decodeField at read
  split at read
  · cases read
  · cases read
  · obtain ⟨⟨indexed, after⟩, number, read⟩ := bind_ok.mp read
    cases indexed with
    | static index =>
      obtain ⟨_, _, done⟩ := bind_ok.mp read
      obtain ⟨_, rfl⟩ := Prod.mk.inj (Except.ok.inj done)
      exact Indexed.length_decode (mapError_ok.mp number)
    | dynamic index => cases read
  · obtain ⟨⟨literal, after⟩, line, read⟩ := bind_ok.mp read
    cases literal with
    | dynamic index value => cases read
    | static index value =>
      obtain ⟨_, _, done⟩ := bind_ok.mp read
      obtain ⟨_, rfl⟩ := Prod.mk.inj (Except.ok.inj done)
      exact LiteralWithNameRef.length_decode (mapError_ok.mp line)
  · obtain ⟨⟨literal, after⟩, line, done⟩ := bind_ok.mp read
    obtain ⟨_, rfl⟩ := Prod.mk.inj (Except.ok.inj done)
    exact Literal.length_decode (mapError_ok.mp line)
  · cases read

/-- The loop of `decode_stateless`. The sum of the sizes stays below `2 ^ 64`, being that of
strings in memory. -/
def decodeFields (maxSize memSize : Nat) (fields : List HeaderField) (buf : Bytes) :
    Except DecoderError Decoded :=
  match buf with
  | [] => .ok ⟨fields, memSize, false⟩
  | first :: tail =>
    match _read : decodeField first (first :: tail) with
    | .error error => .error error
    | .ok (field, rest) =>
      let memSize := memSize + field.memSize
      if maxSize < memSize then .error (.headerTooLong memSize)
      else decodeFields maxSize memSize (fields ++ [field]) rest
termination_by buf.length
decreasing_by exact length_decodeField _read

def decodeStateless (buf : Bytes) (maxSize : Nat) : Except DecoderError Decoded := do
  let (headerPrefix, buf) ← (HeaderPrefix.decode buf).mapError .ofParse
  let (requiredRef, _) ← (headerPrefix.get 0 0).mapError .ofParse
  if 0 < requiredRef then .error (.missingRefs requiredRef)
  else decodeFields maxSize 0 [] buf

section encoded
variable {field : HeaderField}

/-- The strings of a field can be packed. -/
def HeaderField.Packable (self : HeaderField) : Prop := Qpack.Packable self.name ∧ Qpack.Packable self.value

theorem decode_indexed {index : Nat} (bound : index < 99) (rest : Bytes) :
    Indexed.decode ((Indexed.static index).encode ++ rest) = .ok (.static index, rest) := by
  have number := PrefixInt.decode_encode 6 0b11 (by decide) (by decide) (by decide) index rest
  rw [if_pos (Nat.lt_add_left _ (show index < 2 ^ 63 by omega))] at number
  simp only [Indexed.encode, Indexed.decode, number, Except.mapError, bind, Except.bind,
    toUsize_ok (show index ≤ usizeMax by rw [usizeMax]; omega), if_true]

theorem decode_literalWithNameRef {index : Nat} {value : Bytes} (bound : index < 99)
    (packable : Packable value) (rest : Bytes) :
    LiteralWithNameRef.decode ((LiteralWithNameRef.static index value).encode ++ rest) =
      .ok (.static index value, rest) := by
  have number := PrefixInt.decode_encode 4 0b0101 (by decide) (by decide) (by decide) index
    (PrefixString.encode 8 0 value ++ rest)
  have string := PrefixString.decode_encode 8 0 (by decide) (by decide) (by decide) packable rest
  rw [if_pos (Nat.lt_add_left _ (show index < 2 ^ 63 by omega))] at number
  simp only [LiteralWithNameRef.encode, LiteralWithNameRef.decode, List.append_assoc, number, string,
    Except.mapError, bind, Except.bind, toUsize_ok (show index ≤ usizeMax by rw [usizeMax]; omega)]
  rfl

theorem decode_literal (literal : Literal) {first : UInt8} {tail rest : Bytes}
    (name : Packable literal.name) (value : Packable literal.value)
    (starts : literal.encode ++ rest = first :: tail)
    (marked : first &&& 0b1110_0000 = 0b0010_0000) :
    Literal.decode (literal.encode ++ rest) = .ok (literal, rest) := by
  have front := PrefixString.decode_encode 4 0b0010 (by decide) (by decide) (by decide) name
    (PrefixString.encode 8 0 literal.value ++ rest)
  have back := PrefixString.decode_encode 8 0 (by decide) (by decide) (by decide) value rest
  rw [← List.append_assoc, ← Literal.encode, starts] at front
  rw [starts, Literal.decode]
  simp only [marked, ne_eq, not_true_eq_false, if_false, front, back, Except.mapError, bind, Except.bind]

theorem forall_byte {holds : UInt8 → Prop} (all : ∀ value : Fin 256, holds (UInt8.ofNat value))
    (byte : UInt8) : holds byte := by
  simpa using all ⟨byte.toNat, byte.toNat_lt⟩

/-- What the first byte of a line says, by the flags that were put into it. -/
theorem kind_indexed : ∀ first : UInt8, UInt8.ofNat (first.toNat >>> 6) = 0b11 →
    HeaderBlockField.decode first = .indexed :=
  forall_byte (by decide +kernel)

theorem kind_literalWithNameRef : ∀ first : UInt8, UInt8.ofNat (first.toNat >>> 4) = 0b0101 →
    HeaderBlockField.decode first = .literalWithNameRef :=
  forall_byte (by decide +kernel)

theorem kind_literal : ∀ first : UInt8, UInt8.ofNat (first.toNat >>> 3) = (0b0010 : UInt8) <<< 1 ||| 1 →
    HeaderBlockField.decode first = .literal ∧ first &&& 0b1110_0000 = 0b0010_0000 :=
  forall_byte (by decide +kernel)

/-- Whichever representation the tables make the writer choose, the reader finds the field. -/
theorem decodeField_encodeField (packable : field.Packable) (rest : Bytes) :
    ∃ first tail, encodeField field ++ rest = first :: tail ∧
      decodeField first (first :: tail) = .ok (field, rest) := by
  obtain ⟨name, value⟩ := packable
  unfold encodeField
  split
  · rename_i index found
    obtain ⟨listed, bound⟩ := StaticTable.get_of_find found
    obtain ⟨first, tail, starts, flags⟩ := PrefixInt.encode_head 6 0b11 (by decide) (by decide) index
    have read := decode_indexed bound rest
    rw [Indexed.encode, starts, List.cons_append] at read
    refine ⟨first, tail ++ rest, by rw [Indexed.encode, starts, List.cons_append], ?_⟩
    simp only [decodeField, kind_indexed first flags, read, listed, Except.mapError, bind, Except.bind]
  · split
    · rename_i index found
      obtain ⟨other, listed, bound⟩ := StaticTable.get_of_findName found
      obtain ⟨first, tail, starts, flags⟩ := PrefixInt.encode_head 4 0b0101 (by decide) (by decide) index
      have read := decode_literalWithNameRef bound value rest
      rw [LiteralWithNameRef.encode, starts, List.cons_append, List.cons_append] at read
      refine ⟨first, _, by rw [LiteralWithNameRef.encode, starts, List.cons_append, List.cons_append], ?_⟩
      simp only [decodeField, kind_literalWithNameRef first flags, read, listed, Except.mapError, bind,
        Except.bind, HeaderField.withValue]
    · obtain ⟨first, tail, starts, flags⟩ := PrefixInt.encode_head 3 ((0b0010 : UInt8) <<< 1 ||| 1)
        (by decide) (by decide) (hpackEncode field.name).length
      obtain ⟨kind, marked⟩ := kind_literal first flags
      have whole : (Literal.mk field.name field.value).encode ++ rest = first :: (tail ++
          hpackEncode field.name ++ PrefixString.encode 8 0 field.value ++ rest) := by
        simp only [Literal.encode, PrefixString.encode, Nat.reduceSub, starts, List.cons_append,
          List.append_assoc]
      have read := decode_literal ⟨field.name, field.value⟩ name value whole marked
      rw [whole] at read
      refine ⟨first, _, whole, ?_⟩
      simp only [decodeField, kind, read, Except.mapError, bind, Except.bind]

end encoded

@[simp] theorem totalSize_nil : totalSize [] = 0 := rfl

@[simp] theorem totalSize_cons (field : HeaderField) (fields : List HeaderField) :
    totalSize (field :: fields) = field.memSize + totalSize fields := by
  rw [totalSize, List.map_cons, List.sum_cons, totalSize]

@[simp] theorem totalSize_append (front back : List HeaderField) :
    totalSize (front ++ back) = totalSize front + totalSize back := by
  rw [totalSize, List.map_append, List.sum_append, totalSize, totalSize]

section loop
variable {maxSize memSize : Nat} {read fields : List HeaderField}

/-- One encoded field in front of the loop. -/
theorem decodeFields_encodeField {field : HeaderField} (packable : field.Packable) (rest : Bytes) :
    decodeFields maxSize memSize read (encodeField field ++ rest) =
      if maxSize < memSize + field.memSize then .error (.headerTooLong (memSize + field.memSize))
      else decodeFields maxSize (memSize + field.memSize) (read ++ [field]) rest := by
  obtain ⟨first, tail, starts, decoded⟩ := decodeField_encodeField packable rest
  rw [starts, decodeFields]
  split
  · rename_i error failed
    rw [decoded] at failed
    cases failed
  · rename_i other after found
    rw [decoded] at found
    obtain ⟨rfl, rfl⟩ := Prod.mk.inj (Except.ok.inj found)
    rfl

/-- The loop gives the encoded fields back when they fit. -/
theorem decodeFields_of_le (packable : ∀ field ∈ fields, field.Packable)
    (fits : memSize + totalSize fields ≤ maxSize) :
    decodeFields maxSize memSize read (fields.flatMap encodeField) =
      .ok ⟨read ++ fields, memSize + totalSize fields, false⟩ := by
  induction fields generalizing memSize read with
  | nil =>
    rw [List.flatMap_nil, decodeFields, List.append_nil, totalSize_nil, Nat.add_zero]
  | cons field fields ih =>
    rw [totalSize_cons] at fits
    rw [List.flatMap_cons, decodeFields_encodeField (packable field (List.mem_cons_self ..)),
      if_neg (by omega), ih (fun other member => packable other (List.mem_cons_of_mem _ member)) (by omega),
      List.append_assoc, List.singleton_append, totalSize_cons, Nat.add_assoc]

/-- Otherwise it stops at the first field that does not. -/
theorem decodeFields_of_lt (packable : ∀ field ∈ fields, field.Packable) (below : memSize ≤ maxSize)
    (long : maxSize < memSize + totalSize fields) :
    ∃ front field back, fields = front ++ field :: back ∧ memSize + totalSize front ≤ maxSize ∧
      maxSize < memSize + totalSize (front ++ [field]) ∧
      decodeFields maxSize memSize read (fields.flatMap encodeField) =
        .error (.headerTooLong (memSize + totalSize (front ++ [field]))) := by
  induction fields generalizing memSize read with
  | nil =>
    rw [totalSize_nil] at long
    omega
  | cons field fields ih =>
    rw [List.flatMap_cons, decodeFields_encodeField (packable field (List.mem_cons_self ..))]
    by_cases tooLong : maxSize < memSize + field.memSize
    · exact ⟨[], field, fields, rfl, by simpa using below, by simpa using tooLong, by simp [tooLong]⟩
    · rw [totalSize_cons, ← Nat.add_assoc] at long
      rw [if_neg tooLong]
      obtain ⟨front, other, back, rfl, before, after, failed⟩ :=
        ih (fun other member => packable other (List.mem_cons_of_mem _ member)) (Nat.not_lt.mp tooLong) long
      refine ⟨field :: front, other, back, rfl, ?_, ?_, ?_⟩
      · rw [totalSize_cons, ← Nat.add_assoc]
        exact before
      · rw [List.cons_append, totalSize_cons, ← Nat.add_assoc]
        exact after
      · rw [List.cons_append, totalSize_cons, ← Nat.add_assoc]
        exact failed

/-- Whatever the input, the size that is reported is that of the fields, and it is within the limit. -/
theorem decodeFields_sound {buf : Bytes} {decoded : Decoded} (below : memSize ≤ maxSize)
    (accepted : decodeFields maxSize memSize read buf = .ok decoded) :
    decoded.memSize ≤ maxSize ∧ ∃ fields, decoded.fields = read ++ fields ∧
      decoded.memSize = memSize + totalSize fields ∧ decoded.dynRef = false := by
  fun_induction decodeFields maxSize memSize read buf with
  | case1 memSize read =>
    obtain rfl := Except.ok.inj accepted
    exact ⟨below, [], (List.append_nil _).symm, rfl, rfl⟩
  | case2 memSize read first tail error failed => cases accepted
  | case3 memSize read first tail field rest found size tooLong => cases accepted
  | case4 memSize read first tail field rest found size fits ih =>
    obtain ⟨within, fields, all, sum, stateless⟩ := ih (Nat.not_lt.mp fits) accepted
    refine ⟨within, field :: fields, ?_, ?_, stateless⟩
    · rw [all, List.append_assoc, List.singleton_append]
    · rw [sum, totalSize_cons, ← Nat.add_assoc]

end loop

/-- The prefix that the writer puts in front asks for nothing. -/
theorem decodeStateless_encodeStateless (fields : List HeaderField) (maxSize : Nat) :
    decodeStateless (encodeStateless fields).1 maxSize =
      decodeFields maxSize 0 [] (fields.flatMap encodeField) := by
  have start : (encodeStateless fields).1 = 0 :: 0 :: fields.flatMap encodeField := rfl
  rw [start]
  rfl

theorem length_le_totalSize (fields : List HeaderField) :
    32 * fields.length ≤ totalSize fields := by
  induction fields with
  | nil => exact Nat.le_refl _
  | cons field fields ih =>
    rw [List.length_cons, totalSize_cons, HeaderField.memSize, estimatedOverheadBytes]
    omega

theorem memSize_le_totalSize {field : HeaderField} {fields : List HeaderField} (member : field ∈ fields) :
    field.memSize ≤ totalSize fields := by
  obtain ⟨front, back, rfl⟩ := List.append_of_mem member
  rw [totalSize_append, totalSize_cons]
  omega

theorem packable_of_memSize {field : HeaderField} (small : field.memSize < 2 ^ 27) : field.Packable := by
  rw [HeaderField.memSize] at small
  exact ⟨packable_of_length (by omega), packable_of_length (by omega)⟩

theorem decodeStateless_of_le {fields : List HeaderField} {maxSize : Nat}
    (packable : ∀ field ∈ fields, field.Packable) (fits : (encodeStateless fields).2 ≤ maxSize) :
    decodeStateless (encodeStateless fields).1 maxSize = .ok ⟨fields, (encodeStateless fields).2, false⟩ := by
  have start : 0 + totalSize fields ≤ maxSize := by rwa [Nat.zero_add]
  rw [decodeStateless_encodeStateless, decodeFields_of_le packable start, List.nil_append, Nat.zero_add]
  rfl

theorem decodeStateless_of_lt {fields : List HeaderField} {maxSize : Nat}
    (packable : ∀ field ∈ fields, field.Packable) (long : maxSize < (encodeStateless fields).2) :
    ∃ front field back, fields = front ++ field :: back ∧
      totalSize front ≤ maxSize ∧ maxSize < totalSize (front ++ [field]) ∧
      decodeStateless (encodeStateless fields).1 maxSize =
        .error (.headerTooLong (totalSize (front ++ [field]))) := by
  have start : maxSize < 0 + totalSize fields := by rwa [Nat.zero_add]
  obtain ⟨front, field, back, split, before, after, failed⟩ :=
    decodeFields_of_lt packable (Nat.zero_le maxSize) start
  rw [Nat.zero_add] at before after failed
  refine ⟨front, field, back, split, before, after, ?_⟩
  rw [decodeStateless_encodeStateless]
  exact failed

/-- What is written is read back, field by field and with the size that the writer computed, unless
it is too long; then the reader stops at the first field that makes it so. -/
theorem header_block_read {fields : List HeaderField} (packable : ∀ field ∈ fields, field.Packable)
    (maxSize : Nat) :
    ((encodeStateless fields).2 ≤ maxSize →
      decodeStateless (encodeStateless fields).1 maxSize = .ok ⟨fields, (encodeStateless fields).2, false⟩) ∧
    (maxSize < (encodeStateless fields).2 → ∃ front field back, fields = front ++ field :: back ∧
      totalSize front ≤ maxSize ∧ maxSize < totalSize (front ++ [field]) ∧
      decodeStateless (encodeStateless fields).1 maxSize =
        .error (.headerTooLong (totalSize (front ++ [field])))) := by
  exact ⟨decodeStateless_of_le packable, decodeStateless_of_lt packable⟩

def authPath : HeaderField := ⟨asBytes ":path", asBytes "/auth"⟩

theorem packable_authPath : ∀ field ∈ [authPath], field.Packable := by
  intro field member
  obtain rfl := List.mem_singleton.mp member
  exact ⟨by decide +kernel, by decide +kernel⟩

theorem header_block_read_authPath :
    decodeStateless (encodeStateless [authPath]).1 42 = .ok ⟨[authPath], 42, false⟩ :=
  (header_block_read packable_authPath 42).1 (by decide)

/-- A block that is accepted, from whomever, is within the limit in all its fields together, so in their
number too; and what was read from it can be written again and is read as the same. -/
theorem header_block_accepted {buf : Bytes} {maxSize : Nat} {decoded : Decoded}
    (accepted : decodeStateless buf maxSize = .ok decoded) :
    decoded.memSize = totalSize decoded.fields ∧ decoded.memSize ≤ maxSize ∧
      32 * decoded.fields.length ≤ maxSize ∧
      (maxSize < 2 ^ 27 → decodeStateless (encodeStateless decoded.fields).1 maxSize = .ok decoded) := by
  obtain ⟨⟨headerPrefix, after⟩, _, accepted⟩ := bind_ok.mp accepted
  obtain ⟨⟨required, base⟩, _, accepted⟩ := bind_ok.mp accepted
  dsimp only at accepted
  split at accepted
  · cases accepted
  · obtain ⟨within, fields, all, sum, stateless⟩ := decodeFields_sound (Nat.zero_le _) accepted
    rw [List.nil_append] at all
    rw [Nat.zero_add] at sum
    obtain ⟨read, size, reference⟩ := decoded
    dsimp only at all sum stateless within
    obtain rfl := all
    obtain rfl := sum
    obtain rfl := stateless
    have number := length_le_totalSize read
    refine ⟨rfl, within, Nat.le_trans number within, fun small => ?_⟩
    have packable (field : HeaderField) (member : field ∈ read) : field.Packable :=
      packable_of_memSize (Nat.lt_of_le_of_lt (Nat.le_trans (memSize_le_totalSize member) within) small)
    rw [decodeStateless_encodeStateless, decodeFields_of_le packable (by rw [Nat.zero_add]; exact within),
      List.nil_append, Nat.zero_add]

theorem header_block_accepted_authPath : 32 * [authPath].length ≤ 50 ∧
    decodeStateless (encodeStateless [authPath]).1 50 = .ok ⟨[authPath], 42, false⟩ := by
  have accepted : decodeStateless (encodeStateless [authPath]).1 50 = .ok ⟨[authPath], 42, false⟩ := by
    rw [decodeStateless_encodeStateless, decodeFields_of_le packable_authPath (by decide)]
    rfl
  exact ⟨(header_block_accepted accepted).2.2.1, (header_block_accepted accepted).2.2.2 (by decide)⟩

end SingQuic.Qpack
