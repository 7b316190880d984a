import SingQuic.Qpack.HuffmanEncoder

/-! The Huffman decoder. Its tables are walked over the bits of the input; bits that are left
when a table needs more of them are padding if they are ones, and an error otherwise. -/
namespace SingQuic.Qpack
open Wire PrefixCode

inductive HuffmanError where
  | missingBits (position : BitWindow)
  | unhandled (position : BitWindow) (value : Nat)
  /-- No error of the source: the loop of the model met its bound, which it never does
  (`hpackDecode_ne_exhausted`). -/
  | exhausted
  deriving DecidableEq, Repr

/-- The bytes read are inside `src` (`readBits_spec`), where the source would panic. -/
def readBits (src : Bytes) (byteOffset bitOffset len : Nat) : Option UInt8 :=
  if len = 0 ∨ 8 < len ∨
      u32 (u32 src.length * 8) < u32 (u32 (u32 (byteOffset * 8) + bitOffset) + len) then none
  else
    let byteOffset := byteOffset + bitOffset / 8
    let bitOffset := bitOffset - bitOffset / 8 * 8
    if bitOffset + len ≤ 8 then
      some ((src.getD byteOffset 0 <<< UInt8.ofNat bitOffset) >>> UInt8.ofNat (8 - len))
    else
      let result := (src.getD byteOffset 0).toUInt16 <<< 8 ||| (src.getD (byteOffset + 1) 0).toUInt16
      some ((result <<< UInt16.ofNat bitOffset) >>> UInt16.ofNat (16 - len)).toUInt8

def checkEof (bitPos : BitWindow) (input : Bytes) : Except HuffmanError (Option Nat) :=
  match compare (u32 (bitPos.byte + 1)) input.length with
  | .gt => .ok none
  | .eq =>
    let side := bitPos.oppositeBitWindow
    match readBits input side.byte side.bit side.count with
    | none => .error (.missingBits side)
    | some rest =>
      let eofFiller := UInt8.ofNat (2 <<< (side.count - 1) - 1)
      if rest &&& eofFiller = eofFiller then .ok none else .error (.missingBits bitPos)
  | .lt => .error (.missingBits bitPos)

def fetchValue (bitPos : BitWindow) (input : Bytes) : Except HuffmanError (Option Nat) :=
  match readBits input bitPos.byte bitPos.bit bitPos.count with
  | some value => .ok (some value.toNat)
  | none => checkEof bitPos input

mutual
/-- The answer comes with the position after it, which the source leaves in `bit_pos`. -/
def decodeNext : HuffmanDecoder → BitWindow → Bytes → Except HuffmanError (Option (UInt8 × BitWindow))
  | .leaf value, bitPos, _ => .ok (some (value, bitPos))
  | .node lookup table, bitPos, input =>
    let bitPos := bitPos.forwards lookup
    match fetchValue bitPos input with
    | .ok (some value) => decodeAt value bitPos input table value
    | .ok none => .ok none
    | .error error => .error error

/-- `table.get(value)`, and what is done with the entry. -/
def decodeAt (value : Nat) (bitPos : BitWindow) (input : Bytes) :
    List HuffmanDecoder → Nat → Except HuffmanError (Option (UInt8 × BitWindow))
  | [], _ => .error (.unhandled bitPos value)
  | decoder :: _, 0 => decodeNext decoder bitPos input
  | _ :: table, index + 1 => decodeAt value bitPos input table index
end

/-- The symbols of a `DecodeIter` up to its end or its first error. -/
def collect : Nat → BitWindow → Bytes → Except HuffmanError Bytes
  | 0, _, _ => .error .exhausted
  | fuel + 1, bitPos, input =>
    match decodeNext hpackStringDecoder bitPos input with
    | .error error => .error error
    | .ok none => .ok []
    | .ok (some (value, bitPos)) => (collect fuel bitPos input).map (value :: ·)

def hpackDecode (input : Bytes) : Except HuffmanError Bytes :=
  collect (8 * input.length + 1) .new input

/-- A `u32` counts the bits of the string, and those of one more byte. -/
def Addressable (input : Bytes) : Prop := 8 * input.length + 8 < 2 ^ 32

instance (input : Bytes) : Decidable (Addressable input) := inferInstanceAs (Decidable (_ < _))

theorem toNat_read_inside (byte : UInt8) {bit len : Nat} (positive : 0 < len) (fits : bit + len ≤ 8) :
    ((byte <<< UInt8.ofNat bit) >>> UInt8.ofNat (8 - len)).toNat =
      Bits.toNat (((Bits.ofNat 8 byte.toNat).drop bit).take len) := by
  have whole : bit + len + (8 - bit - len) = 8 := by omega
  rw [UInt8.toNat_shiftRight, toNat_shift (by omega), UInt8.toNat_shiftLeft, toNat_shift (by omega),
    Bits.shift_field whole]

theorem toNat_read_across (first second : UInt8) {bit len : Nat} (narrow : bit < 8) (positive : 0 < len)
    (short : len ≤ 8) :
    (((first.toUInt16 <<< 8 ||| second.toUInt16) <<< UInt16.ofNat bit) >>>
      UInt16.ofNat (16 - len)).toUInt8.toNat =
        Bits.toNat (((Bits.ofNat 8 first.toNat ++ Bits.ofNat 8 second.toNat).drop bit).take len) := by
  have whole : bit + len + (16 - bit - len) = 16 := by omega
  have low := second.toNat_lt
  have high := first.toNat_lt
  have word : (first.toUInt16 <<< 8 ||| second.toUInt16).toNat = 2 ^ 8 * first.toNat + second.toNat := by
    rw [UInt16.toNat_or, UInt16.toNat_shiftLeft, UInt8.toNat_toUInt16, UInt8.toNat_toUInt16,
      Nat.two_pow_add_eq_or_of_lt low, Nat.shiftLeft_eq]
    simp only [UInt16.reduceToNat, Nat.reduceMod]
    rw [Nat.mod_eq_of_lt (by omega), Nat.mul_comm]
  have fields : Bits.ofNat 16 (2 ^ 8 * first.toNat + second.toNat) =
      Bits.ofNat 8 first.toNat ++ Bits.ofNat 8 second.toNat := by
    rw [Bits.ofNat_append 8 8, Nat.shiftRight_eq_div_pow, Nat.mul_add_div (by decide),
      Nat.div_eq_of_lt low, Nat.add_zero, ← Bits.ofNat_mod 8 (_ + _), Nat.mul_add_mod, Bits.ofNat_mod]
  have amount (count : Nat) (small : count < 16) : (UInt16.ofNat count).toNat % 16 = count := by
    rw [UInt16.toNat_ofNat']
    omega
  have size : Bits.toNat (((Bits.ofNat 8 first.toNat ++ Bits.ofNat 8 second.toNat).drop bit).take len) <
      2 ^ 8 := by
    apply Nat.lt_of_lt_of_le (Bits.toNat_lt _)
    apply Nat.pow_le_pow_right (by decide)
    rw [List.length_take]
    omega
  rw [UInt16.toNat_toUInt8, UInt16.toNat_shiftRight, amount _ (by omega), UInt16.toNat_shiftLeft,
    amount _ (by omega), word, Bits.shift_field whole, fields, Nat.mod_eq_of_lt size]

/-- Bits are read where the window stands, if that many are left. -/
theorem readBits_spec {src : Bytes} {byte bit len : Nat} (small : Addressable src) (narrow : bit < 8)
    (positive : 0 < len) (short : len ≤ 8) (inside : 8 * byte + bit + len ≤ 8 * src.length) :
    ∃ value, readBits src byte bit len = some value ∧
      value.toNat = Bits.toNat (((Bits.ofBytes src).drop (8 * byte + bit)).take len) := by
  simp only [Addressable] at small
  have guard : ¬ (len = 0 ∨ 8 < len ∨
      u32 (u32 src.length * 8) < u32 (u32 (u32 (byte * 8) + bit) + len)) := by
    simp only [u32]
    omega
  have zero : bit / 8 = 0 := Nat.div_eq_of_lt narrow
  have here : byte < src.length := by omega
  have bits : (Bits.ofBytes src).drop (8 * byte + bit) =
      (Bits.ofNat 8 (src[byte]).toNat ++ (Bits.ofBytes src).drop (8 * (byte + 1))).drop bit := by
    rw [← List.drop_drop, Bits.drop_ofBytes here]
  rw [readBits, if_neg guard]
  simp only [zero, Nat.zero_mul, Nat.sub_zero, Nat.add_zero, List.getD_eq_getElem _ _ here]
  split
  · rename_i fits
    refine ⟨_, rfl, ?_⟩
    rw [toNat_read_inside _ positive fits, bits, List.drop_append_of_le_length (by simp; omega),
      List.take_append_of_le_length (by simp; omega)]
  · have next : byte + 1 < src.length := by omega
    have both (after : List Bool) :
        ((Bits.ofNat 8 (src[byte]).toNat ++ (Bits.ofNat 8 (src[byte + 1]).toNat ++ after)).drop bit).take len =
          ((Bits.ofNat 8 (src[byte]).toNat ++ Bits.ofNat 8 (src[byte + 1]).toNat).drop bit).take len := by
      rw [← List.append_assoc, List.drop_append_of_le_length (by simp; omega),
        List.take_append_of_le_length (by simp; omega)]
    refine ⟨_, rfl, ?_⟩
    rw [List.getD_eq_getElem _ _ next, toNat_read_across _ _ narrow positive short, bits,
      Bits.drop_ofBytes next, both]

theorem readBits_eq_none {src : Bytes} {byte bit len : Nat} (small : Addressable src)
    (short : len ≤ 8) (start : 8 * byte + bit ≤ 8 * src.length)
    (few : 8 * src.length < 8 * byte + bit + len) : readBits src byte bit len = none := by
  simp only [Addressable] at small
  apply if_pos
  simp only [u32]
  omega

/-- `bits` are what a reader that stands at the end of its window has not read. -/
structure Reads (input : Bytes) (position : BitWindow) (bits : List Bool) : Prop where
  narrow : position.bit < 8
  short : position.count ≤ 8
  finish : position.finish + bits.length = 8 * input.length
  rest : (Bits.ofBytes input).drop position.finish = bits

variable {input : Bytes}

theorem reads_new (input : Bytes) : Reads input .new (Bits.ofBytes input) :=
  ⟨by decide, by decide, by rw [Bits.length_ofBytes]; exact Nat.zero_add _, rfl⟩

/-- What the decoder answers when its table walks to the given outcome. -/
def Answers (input : Bytes) : Outcome UInt8 → Except HuffmanError (Option (UInt8 × BitWindow)) → Prop
  | .symbol value rest, answer => ∃ position, answer = .ok (some (value, position)) ∧
      Reads input position rest
  | .short rest, answer => if rest.all id then answer = .ok none
      else ∃ position, answer = .error (.missingBits position)
  | .unassigned, answer => ∃ position value, answer = .error (.unhandled position value)

/-- A rest that is too short for a table is padding exactly when it is ones. -/
theorem checkEof_spec {bitPos : BitWindow} {rest : List Bool} (small : Addressable input)
    (narrow : bitPos.bit < 8) (finish : bitPos.start + rest.length = 8 * input.length)
    (content : (Bits.ofBytes input).drop bitPos.start = rest) (few : rest.length < 8) :
    checkEof bitPos input = if rest.all id then .ok none else .error (.missingBits bitPos) := by
  have bound := small
  simp only [Addressable] at bound
  have start := finish
  simp only [BitWindow.start] at start
  have next : u32 (bitPos.byte + 1) = bitPos.byte + 1 := Nat.mod_eq_of_lt (by omega)
  rw [checkEof, next]
  by_cases nothing : rest = []
  · subst nothing
    have past : compare (bitPos.byte + 1) input.length = .gt := by
      rw [Nat.compare_eq_gt]
      simp only [List.length_nil] at start
      omega
    rw [past]
    rfl
  · have left := List.length_pos_iff.mpr nothing
    have last : compare (bitPos.byte + 1) input.length = .eq := by
      rw [Nat.compare_eq_eq]
      omega
    have count : 8 - bitPos.bit % 8 = rest.length := by omega
    obtain ⟨value, read, spelled⟩ := readBits_spec small narrow left (by omega)
      (show 8 * bitPos.byte + bitPos.bit + rest.length ≤ 8 * input.length by omega)
    rw [← BitWindow.start, content, List.take_length] at spelled
    have filler : (UInt8.ofNat (2 <<< (rest.length - 1) - 1)).toNat = 2 ^ rest.length - 1 := by
      have power := Nat.pow_le_pow_right (n := 2) (by decide) (Nat.le_of_lt few)
      have double : 2 <<< (rest.length - 1) = 2 ^ rest.length := by
        rw [Nat.shiftLeft_eq, ← Nat.pow_succ', Nat.succ_eq_add_one, Nat.sub_add_cancel left]
      rw [double, UInt8.toNat_ofNat', Nat.mod_eq_of_lt (by omega)]
    have ones : value &&& UInt8.ofNat (2 <<< (rest.length - 1) - 1) =
        UInt8.ofNat (2 <<< (rest.length - 1) - 1) ↔ rest.all id = true := by
      rw [← UInt8.toNat_inj, UInt8.toNat_and, filler, Nat.and_two_pow_sub_one_eq_mod, spelled,
        Nat.mod_eq_of_lt (Bits.toNat_lt rest), Bits.toNat_eq_ones]
    simp only [last, BitWindow.oppositeBitWindow, count, read, ones]

/-- Walking the tables over the bytes is walking them over the bits. -/
theorem decodeNext_answers (small : Addressable input) (decoder : HuffmanDecoder) :
    ∀ (bitPos : BitWindow) (bits : List Bool), (∀ width ∈ decoder.widths, 0 < width ∧ width ≤ 8) →
      Reads input bitPos bits → Answers input (decoder.walk bits) (decodeNext decoder bitPos input) := by
  have bound := small
  simp only [Addressable] at bound
  refine CodeTree.rec
    (motive_1 := fun decoder => ∀ (bitPos : BitWindow) (bits : List Bool),
      (∀ width ∈ decoder.widths, 0 < width ∧ width ≤ 8) → Reads input bitPos bits →
        Answers input (decoder.walk bits) (decodeNext decoder bitPos input))
    (motive_2 := fun table => ∀ (bitPos : BitWindow) (bits : List Bool) (value index : Nat),
      (∀ width ∈ branchWidths table, 0 < width ∧ width ≤ 8) → Reads input bitPos bits →
        Answers input (walkBranch table index bits) (decodeAt value bitPos input table index))
    ?_ ?_ ?_ ?_ decoder
  · intro leaf bitPos bits _ reads
    exact ⟨bitPos, by rw [decodeNext], reads⟩
  · intro width table ih bitPos bits widths reads
    rw [CodeTree.widths] at widths
    obtain ⟨positive, narrow⟩ := widths width (List.mem_cons_self ..)
    have finish := reads.finish
    have content := reads.rest
    have start : (bitPos.forwards width).start = bitPos.finish := by
      have short := reads.short
      apply BitWindow.forwards_start width reads.narrow (by omega)
      rw [BitWindow.finish] at finish
      omega
    rw [← start] at finish content
    have bit := bitPos.forwards_bit width
    rw [CodeTree.walk, decodeNext]
    split
    · rename_i few
      have unread := readBits_eq_none small narrow
        (show (bitPos.forwards width).start ≤ 8 * input.length by omega)
        (show 8 * input.length < (bitPos.forwards width).start + width by omega)
      have ends := checkEof_spec small bit finish content (by omega)
      simp only [fetchValue, BitWindow.forwards_count, unread, ends, Answers]
      split
      · rfl
      · exact ⟨_, rfl⟩
    · rename_i enough
      rw [Nat.not_lt] at enough
      obtain ⟨value, read, spelled⟩ := readBits_spec small bit positive narrow
        (show (bitPos.forwards width).start + width ≤ 8 * input.length by omega)
      rw [← BitWindow.start, content] at spelled
      have after : Reads input (bitPos.forwards width) (bits.drop width) := by
        refine ⟨bit, narrow, ?_, ?_⟩
        · rw [BitWindow.finish, BitWindow.forwards_count, List.length_drop]
          omega
        · rw [BitWindow.finish, BitWindow.forwards_count, ← List.drop_drop, content]
      simp only [fetchValue, BitWindow.forwards_count, read, spelled]
      exact ih _ _ _ _ (fun other member => widths other (List.mem_cons_of_mem _ member)) after
  · intro bitPos bits value index _ reads
    exact ⟨bitPos, value, by rw [decodeAt]⟩
  · intro tree table ihTree ihTable bitPos bits value index widths reads
    rw [branchWidths] at widths
    cases index with
    | zero =>
      rw [walkBranch, decodeAt]
      exact ihTree _ _ (fun width member => widths width (List.mem_append_left _ member)) reads
    | succ index =>
      rw [walkBranch, decodeAt]
      exact ihTable _ _ _ _ (fun width member => widths width (List.mem_append_right _ member)) reads

theorem hpackStringDecoder_widths : ∀ width ∈ hpackStringDecoder.widths, 0 < width ∧ width ≤ 8 := by
  decide +kernel

/-- Bits that end a string: no code word stands at their front, and what is left behind the tables
that did get their bits is ones. -/
def Ends (tail : List Bool) : Prop := ∃ rest, hpackStringDecoder.walk tail = .short rest ∧ rest.all id = true

theorem Ends.stops {tail : List Bool} (ends : Ends tail) : hpackStringDecoder.Stops tail := by
  intro value rest found
  obtain ⟨left, walked, _⟩ := ends
  rw [walked] at found
  cases found

/-- The symbols collected are those whose code words the bits are, up to an end. -/
theorem collect_eq_ok_iff (small : Addressable input) (fuel : Nat) {bitPos : BitWindow} {bits : List Bool}
    (reads : Reads input bitPos bits) (enough : bits.length < fuel) (value : Bytes) :
    collect fuel bitPos input = .ok value ↔
      ∃ tail, bits = encode codeWord value ++ tail ∧ Ends tail := by
  induction fuel generalizing bitPos bits value with
  | zero => exact absurd enough (Nat.not_lt_zero _)
  | succ fuel ih =>
    have answer := decodeNext_answers small hpackStringDecoder _ _ hpackStringDecoder_widths reads
    have start (code : UInt8) (rest : Bytes) (tail : List Bool)
        (split : bits = encode codeWord (code :: rest) ++ tail) :
        hpackStringDecoder.walk bits = .symbol code (encode codeWord rest ++ tail) := by
      rw [split, encode_cons, List.append_assoc, hpackString_spells.walk_code]
    rw [collect]
    cases walked : hpackStringDecoder.walk bits with
    | symbol code rest =>
      rw [walked] at answer
      obtain ⟨position, found, after⟩ := answer
      have split := hpackString_spells.of_symbol walked
      have shorter : rest.length < fuel := by
        have size := congrArg List.length split
        have positive := (bitCount_bounds code).1
        rw [List.length_append, length_codeWord] at size
        omega
      simp only [found]
      constructor
      · intro collected
        cases others : collect fuel position input with
        | error error => simp [others, Except.map] at collected
        | ok symbols =>
          rw [others] at collected
          obtain rfl := Except.ok.inj collected
          obtain ⟨tail, whole, ends⟩ := (ih after shorter symbols).mp others
          exact ⟨tail, by rw [split, whole, encode_cons, List.append_assoc], ends⟩
      · rintro ⟨tail, whole, ends⟩
        cases value with
        | nil =>
          rw [encode_nil, List.nil_append] at whole
          exact absurd (whole ▸ walked) (ends.stops code rest)
        | cons head symbols =>
          have begun := start head symbols tail whole
          rw [walked] at begun
          obtain ⟨rfl, rfl⟩ := Outcome.symbol.inj begun
          rw [(ih after shorter symbols).mpr ⟨tail, rfl, ends⟩]
          rfl
    | short rest =>
      rw [walked] at answer
      have onlyEnd : (∃ tail, bits = encode codeWord value ++ tail ∧ Ends tail) ↔
          value = [] ∧ rest.all id = true := by
        constructor
        · rintro ⟨tail, whole, left, ended, ones⟩
          cases value with
          | nil =>
            rw [encode_nil, List.nil_append] at whole
            rw [whole, ended] at walked
            exact ⟨rfl, Outcome.short.inj walked ▸ ones⟩
          | cons head symbols =>
            rw [start head symbols tail whole] at walked
            cases walked
        · rintro ⟨rfl, ones⟩
          exact ⟨bits, rfl, rest, walked, ones⟩
      rw [onlyEnd]
      simp only [Answers] at answer
      split at answer
      · rename_i ones
        simp only [answer, ones, and_true, Except.ok.injEq]
        exact eq_comm
      · rename_i padding
        obtain ⟨position, missing⟩ := answer
        simp only [missing, padding, Bool.false_eq_true, and_false, reduceCtorEq]
    | unassigned =>
      rw [walked] at answer
      obtain ⟨position, index, unhandled⟩ := answer
      simp only [unhandled, reduceCtorEq, false_iff]
      rintro ⟨tail, whole, left, ended, -⟩
      cases value with
      | nil =>
        rw [encode_nil, List.nil_append] at whole
        rw [whole, ended] at walked
        cases walked
      | cons head symbols =>
        rw [start head symbols tail whole] at walked
        cases walked

theorem collect_ne_exhausted (small : Addressable input) (fuel : Nat) {bitPos : BitWindow}
    {bits : List Bool} (reads : Reads input bitPos bits) (enough : bits.length < fuel) :
    collect fuel bitPos input ≠ .error .exhausted := by
  induction fuel generalizing bitPos bits with
  | zero => exact absurd enough (Nat.not_lt_zero _)
  | succ fuel ih =>
    have answer := decodeNext_answers small hpackStringDecoder _ _ hpackStringDecoder_widths reads
    rw [collect]
    cases walked : hpackStringDecoder.walk bits with
    | symbol code rest =>
      rw [walked] at answer
      obtain ⟨position, found, after⟩ := answer
      have shorter : rest.length < fuel := by
        have size := congrArg List.length (hpackString_spells.of_symbol walked)
        have positive := (bitCount_bounds code).1
        rw [List.length_append, length_codeWord] at size
        omega
      have others := ih after shorter
      simp only [found]
      cases collected : collect fuel position input with
      | error error => simpa [collected, Except.map] using others
      | ok symbols => simp [Except.map]
    | short rest =>
      rw [walked] at answer
      simp only [Answers] at answer
      split at answer
      · simp [answer]
      · obtain ⟨position, missing⟩ := answer
        simp [missing]
    | unassigned =>
      rw [walked] at answer
      obtain ⟨position, index, unhandled⟩ := answer
      simp [unhandled]

theorem hpackDecode_ne_exhausted (small : Addressable input) : hpackDecode input ≠ .error .exhausted :=
  collect_ne_exhausted small _ (reads_new input) (by rw [Bits.length_ofBytes]; exact Nat.lt_succ_self _)

/-- A string is accepted exactly when its bits are the code words of the answer and an end. -/
theorem hpackDecode_eq_ok_iff (small : Addressable input) (value : Bytes) :
    hpackDecode input = .ok value ↔
      ∃ tail, Bits.ofBytes input = encode codeWord value ++ tail ∧ Ends tail :=
  collect_eq_ok_iff small _ (reads_new input)
    (by rw [Bits.length_ofBytes]; exact Nat.lt_succ_self _) value

theorem length_encode (value : Bytes) : 5 * value.length ≤ (encode codeWord value).length ∧
    (encode codeWord value).length ≤ 30 * value.length := by
  induction value with
  | nil => exact ⟨Nat.le_refl _, Nat.le_refl _⟩
  | cons code value ih =>
    obtain ⟨lower, upper⟩ := bitCount_bounds code
    rw [encode_cons, List.length_append, length_codeWord, List.length_cons]
    omega

/-- No string unpacks to more than eight fifths of its bytes. -/
theorem length_hpackDecode_le (small : Addressable input) {value : Bytes}
    (decoded : hpackDecode input = .ok value) : 5 * value.length ≤ 8 * input.length := by
  obtain ⟨tail, whole, _⟩ := (hpackDecode_eq_ok_iff small value).mp decoded
  have size := congrArg List.length whole
  have lower := (length_encode value).1
  rw [Bits.length_ofBytes, List.length_append] at size
  omega

/-- Bits that lead to a table: those of the numbers from `first` to `last`, with `length` bits
each. The table reads `width` bits. -/
structure Stems where
  length : Nat
  first : Nat
  last : Nat
  width : Nat

def stems : List Stems :=
  [⟨0, 0, 0, 5⟩, ⟨5, 10, 22, 1⟩, ⟨5, 23, 31, 2⟩, ⟨7, 124, 127, 1⟩, ⟨8, 254, 254, 2⟩, ⟨8, 255, 255, 1⟩,
    ⟨9, 510, 510, 1⟩, ⟨9, 511, 511, 2⟩, ⟨10, 1021, 1021, 1⟩, ⟨11, 2045, 2045, 1⟩, ⟨11, 2046, 2047, 2⟩,
    ⟨13, 8190, 8191, 1⟩, ⟨14, 16382, 16383, 1⟩, ⟨15, 32767, 32767, 4⟩, ⟨19, 524275, 524278, 1⟩,
    ⟨19, 524279, 524282, 2⟩, ⟨19, 524283, 524285, 3⟩, ⟨19, 524286, 524287, 4⟩, ⟨21, 2097129, 2097131, 1⟩,
    ⟨22, 4194284, 4194287, 1⟩, ⟨23, 8388597, 8388602, 1⟩, ⟨23, 8388603, 8388603, 2⟩,
    ⟨23, 8388604, 8388605, 3⟩, ⟨23, 8388606, 8388607, 4⟩, ⟨26, 67108847, 67108847, 1⟩,
    ⟨27, 134217713, 134217727, 1⟩, ⟨28, 268435455, 268435455, 2⟩, ⟨30, 1073741823, 1073741823, 8⟩]

/-- What may stand after the last code word: bits that lead to a table, which need not be ones,
and then fewer ones than the table reads. -/
def Padding (tail : List Bool) : Prop :=
  ∃ row ∈ stems, ∃ stem ones, row.first ≤ stem ∧ stem ≤ row.last ∧ ones < row.width ∧
    tail = Bits.ofNat row.length stem ++ List.replicate ones true

theorem hpackStringDecoder_tables : ∀ entry ∈ hpackStringDecoder.tables, ∃ row ∈ stems,
    entry.1.length = row.length ∧ row.first ≤ Bits.toNat entry.1 ∧ Bits.toNat entry.1 ≤ row.last ∧
      entry.2 = row.width := by
  decide +kernel

theorem walk_stems : ∀ row ∈ stems, ∀ offset < row.last + 1 - row.first, ∀ ones < row.width,
    hpackStringDecoder.walk (Bits.ofNat row.length (row.first + offset) ++ List.replicate ones true) =
      .short (List.replicate ones true) := by
  decide +kernel

theorem ends_iff_padding {tail : List Bool} : Ends tail ↔ Padding tail := by
  constructor
  · rintro ⟨rest, walked, ones⟩
    obtain ⟨stem, width, member, rfl, few⟩ := walk_short _ walked
    obtain ⟨row, listed, length, lower, upper, rfl⟩ := hpackStringDecoder_tables _ member
    dsimp only at length lower upper few
    refine ⟨row, listed, Bits.toNat stem, rest.length, lower, upper, few, ?_⟩
    have filled : rest = List.replicate rest.length true :=
      List.eq_replicate_of_mem (by simpa using List.all_eq_true.mp ones)
    rw [← length, Bits.ofNat_toNat, ← filled]
  · rintro ⟨row, listed, stem, ones, lower, upper, few, rfl⟩
    have walked := walk_stems row listed (stem - row.first) (by omega) ones few
    rw [Nat.add_sub_cancel' lower] at walked
    exact ⟨_, walked, by simp⟩

example : hpackDecode [0x02, 0x8A] = .ok [48, 32] := by decide +kernel

/-- The padding of the encoder is an end to the decoder. -/
theorem ends_ones {ones : Nat} (few : ones < 8) : Ends (List.replicate ones true) := by
  obtain ⟨left, walked⟩ := (by decide +kernel : ∀ ones : Fin 8, ∃ left : Fin 8,
    hpackStringDecoder.walk (List.replicate ones.val true) = .short (List.replicate left.val true))
    ⟨ones, few⟩
  exact ⟨_, walked, by simp⟩

/-- The bytes of an encoding are those its bits need. -/
theorem length_hpackEncode {value : Bytes} (few : (encode codeWord value).length < 2 ^ 32) :
    8 * (hpackEncode value).length ≤ (encode codeWord value).length + 7 := by
  obtain ⟨ones, less, bits⟩ := hpackEncode_spec few
  have size := congrArg List.length bits
  rw [Bits.length_ofBytes, List.length_append, List.length_replicate] at size
  omega

/-- Decoding inverts encoding, for every string whose code words 32 bits can count. -/
theorem hpackDecode_hpackEncode {value : Bytes} (few : (encode codeWord value).length + 16 < 2 ^ 32) :
    Addressable (hpackEncode value) ∧ hpackDecode (hpackEncode value) = .ok value := by
  have countable := Nat.lt_of_le_of_lt (Nat.le_add_right _ 16) few
  obtain ⟨ones, less, bits⟩ := hpackEncode_spec countable
  have size := length_hpackEncode countable
  have small : Addressable (hpackEncode value) := by
    rw [Addressable]
    omega
  exact ⟨small, (hpackDecode_eq_ok_iff small value).mpr ⟨_, bits, ends_ones less⟩⟩

end SingQuic.Qpack
