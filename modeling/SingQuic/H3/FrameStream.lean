import SingQuic.H3.Frame
import SingQuic.Lib.Transition

/-! Frames off a QUIC stream. The stream hands over its bytes in chunks of any size; frames and the
payloads of DATA come out the same however it is cut, and nothing that is there is held back. -/
namespace SingQuic.H3
open Wire Framing

inductive Poll (α : Type) where
  | pending
  | ready (value : α)
  deriving DecidableEq, Repr

inductive StreamErrorIncoming where
  | connectionErrorIncoming
  | streamTerminated (errorCode : Nat)
  | unknown
  deriving DecidableEq, Repr

/-- A `FrameProtocolError` is told by the error of the frame it comes from. -/
inductive FrameStreamError where
  | proto (error : FrameError)
  | quic (error : StreamErrorIncoming)
  | unexpectedEnd
  deriving DecidableEq, Repr

/-- The answers that the transport has ready: a chunk, the end of the stream, or its failure. -/
abbrev Incoming := List (Except StreamErrorIncoming (Option Bytes))

/-- The chunks of a `BufList`, none of them empty. -/
abbrev BufList := List Bytes

namespace BufList

def advance (cnt : Nat) : BufList → BufList
  | [] => []
  | front :: bufs =>
    if cnt = 0 then front :: bufs
    else if cnt < front.length then front.drop cnt :: bufs
    else advance (cnt - front.length) bufs

def takeChunk (maxLen : Nat) : BufList → Option Bytes × BufList
  | [] => (none, [])
  | front :: bufs =>
    (some (front.take maxLen), if front.drop maxLen = [] then bufs else front.drop maxLen :: bufs)

theorem flatten_advance (cnt : Nat) (bufs : BufList) : (advance cnt bufs).flatten = bufs.flatten.drop cnt := by
  induction bufs generalizing cnt with
  | nil => simp [advance]
  | cons front bufs ih =>
    rw [advance]
    split_ifs with zero inside
    · rw [zero, List.drop_zero]
    · rw [List.flatten_cons, List.flatten_cons, List.drop_append_of_le_length (Nat.le_of_lt inside)]
    · rw [ih, List.flatten_cons, List.drop_append, List.drop_eq_nil_of_le (Nat.not_lt.mp inside),
        List.nil_append]

theorem advance_ne_nil {cnt : Nat} {bufs : BufList} (chunks : ∀ chunk ∈ bufs, chunk ≠ []) :
    ∀ chunk ∈ advance cnt bufs, chunk ≠ [] := by
  induction bufs generalizing cnt with
  | nil => exact chunks
  | cons front bufs ih =>
    rw [advance]
    split_ifs with zero inside
    · exact chunks
    · intro chunk member
      rcases List.mem_cons.mp member with rfl | member
      · exact fun empty => absurd (List.drop_eq_nil_iff.mp empty) (Nat.not_le.mpr inside)
      · exact chunks chunk (List.mem_cons_of_mem _ member)
    · exact ih fun chunk member => chunks chunk (List.mem_cons_of_mem _ member)

/-- What is taken comes off the front. -/
theorem takeChunk_spec {maxLen : Nat} {bufs rest : BufList} {chunk : Bytes} (positive : 0 < maxLen)
    (chunks : ∀ chunk ∈ bufs, chunk ≠ []) (taken : takeChunk maxLen bufs = (some chunk, rest)) :
    bufs.flatten = chunk ++ rest.flatten ∧ chunk.length ≤ maxLen ∧ chunk ≠ [] ∧
      ∀ chunk ∈ rest, chunk ≠ [] := by
  cases bufs with
  | nil => cases taken
  | cons front bufs =>
    obtain ⟨same, rfl⟩ := Prod.mk.inj taken
    obtain rfl := Option.some.inj same
    have some' := chunks front (List.mem_cons_self ..)
    have later : ∀ chunk ∈ bufs, chunk ≠ [] := fun chunk member => chunks chunk (List.mem_cons_of_mem _ member)
    refine ⟨?_, List.length_take_le _ _, ?_, ?_⟩
    · split_ifs with all
      · rw [List.flatten_cons, List.take_of_length_le (List.drop_eq_nil_iff.mp all)]
      · rw [List.flatten_cons, List.flatten_cons, ← List.append_assoc, List.take_append_drop]
    · intro empty
      rcases List.take_eq_nil_iff.mp empty with none | none
      · omega
      · exact some' none
    · split_ifs with all
      · exact later
      · intro chunk member
        rcases List.mem_cons.mp member with rfl | member
        · exact all
        · exact later chunk member

theorem takeChunk_none {maxLen : Nat} {bufs rest : BufList} (taken : takeChunk maxLen bufs = (none, rest)) :
    bufs = [] ∧ rest = [] := by
  cases bufs with
  | nil => exact ⟨rfl, (Prod.mk.inj taken).2.symm⟩
  | cons front bufs => cases taken

end BufList

namespace FrameDecoder

/-- The loop of `FrameDecoder::decode`, with what is expected and the buffered chunks. Every round
but the last takes an unknown frame off, so that there are no more of them than bytes. -/
def decodeLoop : Nat → Option Nat → BufList →
    Except FrameStreamError (Option (Frame Nat)) × Option Nat × BufList
  | 0, expected, src => (.ok none, expected, src)
  | rounds + 1, expected, src =>
    if src.flatten = [] then (.ok none, expected, src)
    else if expected.any (src.flatten.length < ·) then (.ok none, expected, src)
    else match Frame.decode src.flatten with
      | .error (.unknownFrame _ after) =>
        decodeLoop rounds none (src.advance (src.flatten.length - after.length))
      | .error (.incomplete min) => (.ok none, some min, src)
      | .ok (frame, after) =>
        (.ok (some frame), none, src.advance (src.flatten.length - after.length))
      | .error error => (.error (.proto error), expected, src)

def decode (expected : Option Nat) (src : BufList) :
    Except FrameStreamError (Option (Frame Nat)) × Option Nat × BufList :=
  decodeLoop src.flatten.length expected src

end FrameDecoder

structure FrameStream where
  bufs : BufList
  eos : Bool
  expected : Option Nat
  remainingData : Nat
  deriving DecidableEq, Repr

namespace FrameStream

def new : FrameStream := ⟨[], false, none, 0⟩

/-- `try_recv`, its error taken out as `?` does. -/
def tryRecv (self : FrameStream) (incoming : Incoming) :
    Except StreamErrorIncoming (Poll Bool) × FrameStream × Incoming :=
  if self.eos then (.ok (.ready true), self, incoming)
  else match incoming with
    | [] => (.ok .pending, self, [])
    | .error error :: incoming => (.error error, self, incoming)
    | .ok none :: incoming => (.ok (.ready true), { self with eos := true }, incoming)
    | .ok (some data) :: incoming => (.ok (.ready false), { self with bufs := self.bufs ++ [data] }, incoming)

/-- The loop of `poll_next`, which goes on only after a chunk was there. -/
def pollNextLoop : Nat → FrameStream → Incoming →
    Poll (Except FrameStreamError (Option (Frame Nat))) × FrameStream × Incoming
  | rounds, self, incoming =>
    match self.tryRecv incoming with
    | (.error error, self, incoming) => (.ready (.error (.quic error)), self, incoming)
    | (.ok end', self, incoming) =>
      match FrameDecoder.decode self.expected self.bufs with
      | (.error error, expected, bufs) =>
        (.ready (.error error), { self with expected := expected, bufs := bufs }, incoming)
      | (.ok (some frame), expected, bufs) =>
        (.ready (.ok (some frame)),
          { self with expected := expected, bufs := bufs, remainingData := frame.remainingData }, incoming)
      | (.ok none, expected, bufs) =>
        let self := { self with expected := expected, bufs := bufs }
        match end', rounds with
        | .pending, _ => (.pending, self, incoming)
        | .ready true, _ =>
          if bufs.flatten ≠ [] then (.ready (.error .unexpectedEnd), self, incoming)
          else (.ready (.ok none), self, incoming)
        | .ready false, rounds + 1 => pollNextLoop rounds self incoming
        | .ready false, 0 => (.pending, self, incoming)

/-- The caller has read the payload of the frame before. -/
def pollNext (self : FrameStream) (incoming : Incoming) :
    Poll (Except FrameStreamError (Option (Frame Nat))) × FrameStream × Incoming :=
  pollNextLoop incoming.length self incoming

def pollData (self : FrameStream) (incoming : Incoming) :
    Poll (Except FrameStreamError (Option Bytes)) × FrameStream × Incoming :=
  if self.remainingData = 0 then (.ready (.ok none), self, incoming)
  else match self.tryRecv incoming with
    | (.error error, self, incoming) => (.ready (.error (.quic error)), self, incoming)
    | (.ok end', self, incoming) =>
      match self.bufs.takeChunk self.remainingData with
      | (none, bufs) =>
        (if end' = .ready true then .ready (.ok none) else .pending, { self with bufs := bufs }, incoming)
      | (some data, bufs) =>
        if end' = .ready true ∧ data.length < self.remainingData ∧ bufs.flatten = [] then
          (.ready (.error .unexpectedEnd), { self with bufs := bufs }, incoming)
        else (.ready (.ok (some data)),
          { self with bufs := bufs, remainingData := self.remainingData - data.length }, incoming)

end FrameStream

/-- What the decoder has asked for is what it asked of some first part of what is there now. -/
def Asked (expected : Option Nat) (buf : Bytes) : Prop :=
  ∀ min, expected = some min → ∃ seen later, buf = seen ++ later ∧ Frame.decode seen = .error (.incomplete min)

theorem asked_none (buf : Bytes) : Asked none buf := fun _ asked => nomatch asked

theorem Asked.append {expected : Option Nat} {buf : Bytes} (asked : Asked expected buf) (later : Bytes) :
    Asked expected (buf ++ later) := by
  intro min wanted
  obtain ⟨seen, more, rfl, waits⟩ := asked min wanted
  exact ⟨seen, more ++ later, List.append_assoc .., waits⟩

namespace FrameDecoder
open SingQuic.H3.Frame

/-- The bytes up to the cursor are taken off. -/
theorem flatten_advance_cursor {src : BufList} {message : Option (Frame Nat)} {after : Bytes}
    (read : reader src.flatten = .done message after) :
    (src.advance (src.flatten.length - after.length)).flatten = after := by
  obtain ⟨used, _, whole⟩ := reader_suffix read
  rw [BufList.flatten_advance, whole, List.length_append, Nat.add_sub_cancel, List.drop_left]

/-- The answers of the loop: it has read past unknown frames, to a frame or to what it cannot read. -/
inductive Answered (buf : Bytes) :
    Except FrameStreamError (Option (Frame Nat)) → Option Nat → Bytes → Prop where
  | waiting {expected : Option Nat} {rest : Bytes} : Parses reader remainingData 0 buf [] 0 rest →
      reader rest = .more → Asked expected rest → Answered buf (.ok none) expected rest
  | frame {frame : Frame Nat} {rest : Bytes} :
      Parses reader remainingData 0 buf [.head frame] frame.remainingData rest →
      Answered buf (.ok (some frame)) none rest
  | refused {error : FrameError} {expected : Option Nat} {rest : Bytes} :
      Parses reader remainingData 0 buf [] 0 rest → reader rest = .failed error →
      Answered buf (.error (.proto error)) expected rest

theorem Answered.passed {buf middle rest : Bytes} {expected : Option Nat}
    {answer : Except FrameStreamError (Option (Frame Nat))} (read : reader buf = .done none middle)
    (answered : Answered middle answer expected rest) : Answered buf answer expected rest := by
  cases answered with
  | waiting parsed waits asked => exact .waiting (.passed read parsed) waits asked
  | frame parsed => exact .frame (.passed read parsed)
  | refused parsed refused => exact .refused (.passed read parsed) refused

theorem decodeLoop_spec {rounds : Nat} {expected : Option Nat} {src : BufList}
    (enough : src.flatten.length ≤ rounds) (asked : Asked expected src.flatten)
    (chunks : ∀ chunk ∈ src, chunk ≠ []) : ∃ answer expected' src',
    decodeLoop rounds expected src = (answer, expected', src') ∧
      (∀ chunk ∈ src', chunk ≠ []) ∧ Answered src.flatten answer expected' src'.flatten := by
  induction rounds generalizing expected src with
  | zero =>
    have empty : src.flatten = [] := List.eq_nil_of_length_eq_zero (Nat.le_zero.mp enough)
    exact ⟨_, _, _, rfl, chunks, .waiting .nil (by rw [empty]; rfl) asked⟩
  | succ rounds ih =>
    by_cases empty : src.flatten = []
    · exact ⟨_, _, _, if_pos empty, chunks, .waiting .nil (by rw [empty]; rfl) asked⟩
    by_cases few : expected.any (src.flatten.length < ·) = true
    · -- less is there than was asked for
      have waits : reader src.flatten = .more := by
        cases expected with
        | none => cases few
        | some min =>
          obtain ⟨seen, later, whole, waits⟩ := asked min rfl
          have less : src.flatten.length < min := of_decide_eq_true few
          rw [whole] at less ⊢
          exact reader_more_of_lt waits later less
      refine ⟨_, _, _, ?_, chunks, .waiting .nil waits asked⟩
      rw [decodeLoop, if_neg empty, if_pos few]
    cases found : Frame.decode src.flatten with
    | ok read =>
      obtain ⟨frame, after⟩ := read
      have read : reader src.flatten = .done (some frame) after := by
        rw [reader, found]
        rfl
      refine ⟨_, _, _, by rw [decodeLoop, if_neg empty, if_neg few, found],
        BufList.advance_ne_nil chunks, ?_⟩
      rw [flatten_advance_cursor read]
      exact .frame (.head read .nil)
    | error error =>
      have same : reader src.flatten = answer (.error error) := by
        rw [reader, found]
      cases error with
      | unknownFrame ty after =>
        have read : reader src.flatten = .done none after := same
        have shorter := reader_shrinks read
        have cursor := flatten_advance_cursor read
        obtain ⟨answer, expected', src', decoded, kept, answered⟩ := ih
          (by rw [cursor]; omega) (asked_none _) (BufList.advance_ne_nil chunks)
        rw [cursor] at answered
        refine ⟨answer, expected', src', ?_, kept, answered.passed read⟩
        rw [decodeLoop, if_neg empty, if_neg few, found]
        exact decoded
      | incomplete min =>
        refine ⟨_, _, _, by rw [decodeLoop, if_neg empty, if_neg few, found], chunks,
          .waiting .nil same ?_⟩
        intro wanted
        rintro ⟨⟩
        exact ⟨src.flatten, [], (List.append_nil _).symm, found⟩
      | _ =>
        exact ⟨_, _, _, by rw [decodeLoop, if_neg empty, if_neg few, found], chunks, .refused .nil same⟩

end FrameDecoder

namespace Incoming

/-- The bytes of the chunks that are ready. -/
def bytes (incoming : Incoming) : Bytes :=
  incoming.flatMap fun answer => match answer with
    | .ok (some data) => data
    | _ => []

/-- The transport hands over no empty chunks. -/
def Chunked (incoming : Incoming) : Prop := ∀ data, .ok (some data) ∈ incoming → data ≠ []

theorem Chunked.tail {answer : Except StreamErrorIncoming (Option Bytes)} {incoming : Incoming}
    (chunked : Chunked (answer :: incoming)) : Chunked incoming :=
  fun data member => chunked data (List.mem_cons_of_mem _ member)

theorem Chunked.concat {answer : Except StreamErrorIncoming (Option Bytes)} {incoming : Incoming}
    (chunked : Chunked incoming) (whole : ∀ data, answer = .ok (some data) → data ≠ []) :
    Chunked (incoming ++ [answer]) := by
  intro data member
  rcases List.mem_append.mp member with member | member
  · exact chunked data member
  · exact whole data (List.mem_singleton.mp member).symm

end Incoming

namespace FrameStream
open SingQuic.H3.Frame

/-- What has been received is what has been handed on, and then what is buffered. -/
structure Sound (stream : FrameStream) (received : Bytes) (log : List (Item (Frame Nat))) : Prop where
  parsed : Parses reader Frame.remainingData 0 received log stream.remainingData stream.bufs.flatten
  chunks : ∀ chunk ∈ stream.bufs, chunk ≠ []
  asked : Asked stream.expected stream.bufs.flatten
  idle : stream.remainingData ≠ 0 → stream.expected = none

variable {self : FrameStream} {incoming : Incoming} {received : Bytes} {log : List (Item (Frame Nat))}

theorem sound_new : new.Sound [] [] where
  parsed := .nil
  chunks := fun _ member => absurd member List.not_mem_nil
  asked := asked_none _
  idle := fun _ => rfl

/-- What `try_recv` leads to: an answer of the transport is taken, if one is there. -/
inductive Received (self : FrameStream) (incoming : Incoming) :
    Except StreamErrorIncoming (Poll Bool) → FrameStream → Incoming → Bytes → Prop where
  | ended : self.eos = true → Received self incoming (.ok (.ready true)) self incoming []
  | pending : incoming = [] → Received self incoming (.ok .pending) self [] []
  | failed {error : StreamErrorIncoming} {rest : Incoming} : incoming = .error error :: rest →
      Received self incoming (.error error) self rest []
  | finished {rest : Incoming} : incoming = .ok none :: rest →
      Received self incoming (.ok (.ready true)) { self with eos := true } rest []
  | chunk {data : Bytes} {rest : Incoming} : incoming = .ok (some data) :: rest →
      Received self incoming (.ok (.ready false)) { self with bufs := self.bufs ++ [data] } rest data

theorem tryRecv_spec (self : FrameStream) (incoming : Incoming) : ∃ answer self' incoming' taken,
    self.tryRecv incoming = (answer, self', incoming') ∧ Received self incoming answer self' incoming' taken := by
  by_cases ended : self.eos = true
  · exact ⟨_, _, _, _, if_pos ended, .ended ended⟩
  unfold tryRecv
  rw [if_neg ended]
  cases incoming with
  | nil => exact ⟨_, _, _, _, rfl, .pending rfl⟩
  | cons answer rest =>
    cases answer with
    | error error => exact ⟨_, _, _, _, rfl, .failed rfl⟩
    | ok chunk =>
      cases chunk with
      | none => exact ⟨_, _, _, _, rfl, .finished rfl⟩
      | some data => exact ⟨_, _, _, _, rfl, .chunk rfl⟩

section received
variable {answer : Except StreamErrorIncoming (Poll Bool)} {self' : FrameStream} {incoming' : Incoming}
  {taken : Bytes}

theorem Received.bytes (step : Received self incoming answer self' incoming' taken) :
    incoming.bytes = taken ++ incoming'.bytes := by
  cases step with
  | ended _ => rfl
  | pending none => rw [none]; rfl
  | failed first => rw [first]; rfl
  | finished first => rw [first]; rfl
  | chunk first => rw [first]; rfl

theorem Received.chunked (step : Received self incoming answer self' incoming' taken)
    (chunked : incoming.Chunked) : incoming'.Chunked := by
  cases step with
  | ended _ => exact chunked
  | pending none => exact none ▸ chunked
  | failed first => exact (first ▸ chunked).tail
  | finished first => exact (first ▸ chunked).tail
  | chunk first => exact (first ▸ chunked).tail

theorem Received.remainingData (step : Received self incoming answer self' incoming' taken) :
    self'.remainingData = self.remainingData := by
  cases step <;> rfl

theorem Received.sound (step : Received self incoming answer self' incoming' taken)
    (chunked : incoming.Chunked) (sound : self.Sound received log) :
    self'.Sound (received ++ taken) log := by
  cases step with
  | ended _ => rw [List.append_nil]; exact sound
  | pending _ => rw [List.append_nil]; exact sound
  | failed _ => rw [List.append_nil]; exact sound
  | finished _ =>
    rw [List.append_nil]
    exact ⟨sound.parsed, sound.chunks, sound.asked, sound.idle⟩
  | chunk first =>
    have grown : (self.bufs ++ [taken]).flatten = self.bufs.flatten ++ taken := by
      rw [List.flatten_append, List.flatten_singleton]
    refine ⟨?_, ?_, ?_, sound.idle⟩
    · rw [grown]
      exact sound.parsed.append reader_stable taken
    · intro chunk member
      rcases List.mem_append.mp member with member | member
      · exact sound.chunks chunk member
      · obtain rfl := List.mem_singleton.mp member
        exact chunked chunk (by rw [first]; exact List.mem_cons_self ..)
    · rw [grown]
      exact sound.asked.append taken

end received

/-- The answers of `poll_next`, with what has been received by then. -/
inductive PolledNext (received : Bytes) (log : List (Item (Frame Nat))) (self : FrameStream)
    (incoming : Incoming) : Poll (Except FrameStreamError (Option (Frame Nat))) → Prop where
  | frame {frame : Frame Nat} : self.Sound received (log ++ [.head frame]) →
      PolledNext received log self incoming (.ready (.ok (some frame)))
  | finished : self.Sound received log → self.remainingData = 0 → self.eos = true → self.bufs.flatten = [] →
      PolledNext received log self incoming (.ready (.ok none))
  | pending : self.Sound received log → self.remainingData = 0 → incoming = [] →
      reader self.bufs.flatten = .more → PolledNext received log self incoming .pending
  | unexpectedEnd : self.Sound received log → self.remainingData = 0 → self.eos = true →
      self.bufs.flatten ≠ [] → reader self.bufs.flatten = .more →
      PolledNext received log self incoming (.ready (.error .unexpectedEnd))
  | proto {error : FrameError} : self.remainingData = 0 →
      Parses reader Frame.remainingData 0 received log 0 self.bufs.flatten →
      reader self.bufs.flatten = .failed error →
      PolledNext received log self incoming (.ready (.error (.proto error)))
  | quic {error : StreamErrorIncoming} : self.Sound received log →
      PolledNext received log self incoming (.ready (.error (.quic error)))

/-- One round of the loop: it answers, or a chunk was taken that did not complete a frame. -/
theorem pollNextLoop_round (chunked : incoming.Chunked) (sound : self.Sound received log)
    (done : self.remainingData = 0) : ∃ self' incoming' taken,
    incoming.bytes = taken ++ incoming'.bytes ∧ incoming'.Chunked ∧
    ((∃ answer, (∀ rounds, pollNextLoop rounds self incoming = (answer, self', incoming')) ∧
        PolledNext (received ++ taken) log self' incoming' answer) ∨
      (self'.Sound (received ++ taken) log ∧ self'.remainingData = 0 ∧ incoming'.length < incoming.length ∧
        ∀ rounds, pollNextLoop (rounds + 1) self incoming = pollNextLoop rounds self' incoming')) := by
  obtain ⟨answer, self', incoming', taken, tried, step⟩ := tryRecv_spec self incoming
  have bytes := step.bytes
  have kept := step.chunked chunked
  have now := step.sound chunked sound
  have still := step.remainingData.trans done
  cases answer with
  | error error =>
    refine ⟨self', incoming', taken, bytes, kept, Or.inl ⟨.ready (.error (.quic error)), ?_, .quic now⟩⟩
    intro rounds
    rw [pollNextLoop, tried]
  | ok end' =>
    obtain ⟨found, expected, bufs, decoded, chunks, answered⟩ :=
      FrameDecoder.decodeLoop_spec (Nat.le_refl _) now.asked now.chunks
    have parsed := now.parsed
    rw [still] at parsed
    cases answered with
    | @frame frame _ read =>
      refine ⟨{ self' with expected := none, bufs := bufs, remainingData := frame.remainingData },
        incoming', taken, bytes, kept, Or.inl ⟨.ready (.ok (some frame)), ?_, .frame ?_⟩⟩
      · intro rounds
        rw [pollNextLoop, tried]
        simp only [FrameDecoder.decode, decoded]
      · exact ⟨parsed.trans read, chunks, asked_none _, fun _ => rfl⟩
    | @refused error _ _ read refused =>
      refine ⟨{ self' with expected := expected, bufs := bufs }, incoming', taken, bytes, kept,
        Or.inl ⟨.ready (.error (.proto error)), ?_, .proto still ?_ refused⟩⟩
      · intro rounds
        rw [pollNextLoop, tried]
        simp only [FrameDecoder.decode, decoded]
      · have whole := parsed.trans read
        rwa [List.append_nil] at whole
    | waiting read waits asked =>
      have whole := parsed.trans read
      rw [List.append_nil] at whole
      have after : ({ self' with expected := expected, bufs := bufs } : FrameStream).Sound
          (received ++ taken) log :=
        ⟨by rw [show self'.remainingData = 0 from still]; exact whole, chunks, asked,
          fun some' => absurd still some'⟩
      cases end' with
      | pending =>
        have none : incoming' = [] := by
          cases step
          rfl
        refine ⟨_, incoming', taken, bytes, kept, Or.inl ⟨.pending, ?_, .pending after still none waits⟩⟩
        intro rounds
        rw [pollNextLoop, tried]
        simp only [FrameDecoder.decode, decoded]
      | ready eos =>
        cases eos with
        | true =>
          have ended : self'.eos = true := by
            cases step with
            | ended ended => exact ended
            | finished _ => rfl
          by_cases empty : bufs.flatten = []
          · refine ⟨_, incoming', taken, bytes, kept,
              Or.inl ⟨.ready (.ok none), ?_, .finished after still ended empty⟩⟩
            intro rounds
            rw [pollNextLoop, tried]
            simp only [FrameDecoder.decode, decoded, empty, ne_eq, not_true_eq_false, if_false]
          · refine ⟨_, incoming', taken, bytes, kept, Or.inl ⟨.ready (.error .unexpectedEnd), ?_,
              .unexpectedEnd after still ended empty waits⟩⟩
            intro rounds
            rw [pollNextLoop, tried]
            simp only [FrameDecoder.decode, decoded, empty, ne_eq, not_false_eq_true, if_true]
        | false =>
          have fewer : incoming'.length < incoming.length := by
            cases step with
            | chunk first =>
              rw [first]
              exact Nat.lt_succ_self _
          refine ⟨_, incoming', taken, bytes, kept, Or.inr ⟨after, still, fewer, ?_⟩⟩
          intro rounds
          rw [pollNextLoop, tried]
          simp only [FrameDecoder.decode, decoded]

theorem pollNextLoop_spec {rounds : Nat} (enough : incoming.length ≤ rounds) (chunked : incoming.Chunked)
    (sound : self.Sound received log) (done : self.remainingData = 0) : ∃ answer self' incoming' taken,
    pollNextLoop rounds self incoming = (answer, self', incoming') ∧
      incoming.bytes = taken ++ incoming'.bytes ∧ incoming'.Chunked ∧
      PolledNext (received ++ taken) log self' incoming' answer := by
  induction rounds generalizing self incoming received with
  | zero =>
    obtain ⟨self', incoming', taken, bytes, kept, answered | ⟨_, _, fewer, _⟩⟩ :=
      pollNextLoop_round chunked sound done
    · obtain ⟨answer, polled, answered⟩ := answered
      exact ⟨answer, self', incoming', taken, polled 0, bytes, kept, answered⟩
    · omega
  | succ rounds ih =>
    obtain ⟨self', incoming', taken, bytes, kept, answered | ⟨now, still, fewer, again⟩⟩ :=
      pollNextLoop_round chunked sound done
    · obtain ⟨answer, polled, answered⟩ := answered
      exact ⟨answer, self', incoming', taken, polled (rounds + 1), bytes, kept, answered⟩
    · obtain ⟨answer, final, left, more, polled, rest, last, answered⟩ := ih (by omega) kept now still
      rw [List.append_assoc] at answered
      refine ⟨answer, final, left, taken ++ more, (again rounds).trans polled, ?_, last, answered⟩
      rw [bytes, rest, List.append_assoc]

/-- The answers of `poll_data` while there is a payload to read. At the end of the stream the last part
of a payload that is cut off is dropped; nothing is said if it was read before the end was known. -/
inductive PolledData (received : Bytes) (log : List (Item (Frame Nat))) (self : FrameStream)
    (incoming : Incoming) : Poll (Except FrameStreamError (Option Bytes)) → Prop where
  | data {data : Bytes} : self.Sound received (log ++ data.map .body) → data ≠ [] →
      PolledData received log self incoming (.ready (.ok (some data)))
  | pending : self.Sound received log → incoming = [] → self.remainingData ≠ 0 → self.bufs.flatten = [] →
      PolledData received log self incoming .pending
  | finished : self.Sound received log → self.remainingData ≠ 0 → self.eos = true → self.bufs.flatten = [] →
      PolledData received log self incoming (.ready (.ok none))
  | unexpectedEnd {data : Bytes} {left : Nat} : self.eos = true → left ≠ 0 →
      Parses reader Frame.remainingData 0 received (log ++ data.map .body) left [] →
      PolledData received log self incoming (.ready (.error .unexpectedEnd))
  | quic {error : StreamErrorIncoming} : self.Sound received log →
      PolledData received log self incoming (.ready (.error (.quic error)))

theorem pollData_spec (chunked : incoming.Chunked) (sound : self.Sound received log)
    (more : self.remainingData ≠ 0) : ∃ answer self' incoming' taken,
    self.pollData incoming = (answer, self', incoming') ∧
      incoming.bytes = taken ++ incoming'.bytes ∧ incoming'.Chunked ∧
      PolledData (received ++ taken) log self' incoming' answer := by
  obtain ⟨answer, self', incoming', taken, tried, step⟩ := tryRecv_spec self incoming
  have bytes := step.bytes
  have kept := step.chunked chunked
  have now := step.sound chunked sound
  have still : self'.remainingData ≠ 0 := by
    rw [step.remainingData]
    exact more
  cases answer with
  | error error =>
    refine ⟨.ready (.error (.quic error)), self', incoming', taken, ?_, bytes, kept, .quic now⟩
    rw [pollData, if_neg more, tried]
  | ok end' =>
    cases first : self'.bufs.takeChunk self'.remainingData with
    | mk chunk bufs =>
      cases chunk with
      | none =>
        obtain ⟨before, rfl⟩ := BufList.takeChunk_none first
        have empty : self'.bufs.flatten = [] := by rw [before]; rfl
        have same : ({ self' with bufs := [] } : FrameStream) = self' := by rw [← before]
        cases end' with
        | pending =>
          have none : incoming' = [] := by
            cases step
            rfl
          refine ⟨.pending, self', incoming', taken, ?_, bytes, kept, .pending now none still empty⟩
          rw [pollData, if_neg more, tried]
          simp only [first, same, reduceCtorEq, if_false]
        | ready eos =>
          cases eos with
          | true =>
            have ended : self'.eos = true := by
              cases step with
              | ended ended => exact ended
              | finished _ => rfl
            refine ⟨.ready (.ok none), self', incoming', taken, ?_, bytes, kept,
              .finished now still ended empty⟩
            rw [pollData, if_neg more, tried]
            simp only [first, same, if_true]
          | false =>
            cases step with
            | chunk _ => exact absurd before (by simp)
      | some data =>
        obtain ⟨whole, fits, some', chunks⟩ :=
          BufList.takeChunk_spec (Nat.pos_of_ne_zero still) now.chunks first
        have split : self'.remainingData - data.length + data.length = self'.remainingData :=
          Nat.sub_add_cancel fits
        have body : Parses reader Frame.remainingData (self'.remainingData - data.length + data.length)
            (data ++ bufs.flatten) (data.map .body) (self'.remainingData - data.length) bufs.flatten :=
          .bodies data _ _
        rw [split, ← whole] at body
        have parsed := now.parsed.trans body
        by_cases torn : end' = .ready true ∧ data.length < self'.remainingData ∧ bufs.flatten = []
        · obtain ⟨ended, short, rest⟩ := torn
          have eos : self'.eos = true := by
            subst ended
            cases step with
            | ended ended => exact ended
            | finished _ => rfl
          rw [rest] at parsed
          refine ⟨.ready (.error .unexpectedEnd), { self' with bufs := bufs }, incoming', taken, ?_, bytes, kept,
            .unexpectedEnd eos (Nat.sub_ne_zero_of_lt short) parsed⟩
          rw [pollData, if_neg more, tried]
          simp only [first]
          rw [if_pos ⟨ended, short, rest⟩]
        · refine ⟨.ready (.ok (some data)),
            { self' with bufs := bufs, remainingData := self'.remainingData - data.length }, incoming', taken,
            ?_, bytes, kept, .data ⟨parsed, chunks, ?_, fun _ => now.idle still⟩ some'⟩
          · rw [pollData, if_neg more, tried]
            simp only [first]
            rw [if_neg torn]
          · rw [show self'.expected = none from now.idle still]
            exact asked_none _

end FrameStream

/-- What the last poll answered. A poll for a payload answers that there is none for two reasons:
`noPayload` when the payload is at its end, `noData` when the stream is. -/
inductive Polled where
  | frame (frame : Frame Nat)
  | noFrame
  | data (data : Bytes)
  | noPayload
  | noData
  | pending
  | failed (error : FrameStreamError)
  deriving DecidableEq, Repr

/-- A stream with its transport: the answers that are ready, the bytes that were taken of them, what has
been handed on, and the answer of the last poll unless something has arrived since. -/
structure Reception where
  stream : FrameStream
  incoming : Incoming
  received : Bytes
  log : List (Item (Frame Nat))
  polled : Option Polled
  deriving DecidableEq, Repr

inductive ReceptionAction where
  | arrive (data : Bytes)
  | finish
  | abort (error : StreamErrorIncoming)
  | pollNext
  | pollData
  deriving DecidableEq, Repr

namespace Reception

def initial : Reception := ⟨.new, [], [], [], none⟩

def failed (self : Reception) : Bool :=
  match self.polled with
  | some (.failed _) => true
  | _ => false

/-- The bytes of the answers that were taken. -/
def take (self : Reception) (incoming : Incoming) : Bytes :=
  self.received ++ self.incoming.bytes.take (self.incoming.bytes.length - incoming.bytes.length)

def onNext : Poll (Except FrameStreamError (Option (Frame Nat))) → List (Item (Frame Nat)) × Polled
  | .pending => ([], .pending)
  | .ready (.ok none) => ([], .noFrame)
  | .ready (.ok (some frame)) => ([.head frame], .frame frame)
  | .ready (.error error) => ([], .failed error)

/-- The answer to a caller for whom so much of the payload was left. -/
def onData (left : Nat) : Poll (Except FrameStreamError (Option Bytes)) → List (Item (Frame Nat)) × Polled
  | .pending => ([], .pending)
  | .ready (.ok none) => ([], if left = 0 then .noPayload else .noData)
  | .ready (.ok (some data)) => (data.map .body, .data data)
  | .ready (.error error) => ([], .failed error)

/-- Chunks are not empty; a failure discards what has not been taken. A caller polls for a payload at any
time, also when nothing is left of one, as after an empty DATA frame. It polls for a frame only when it has
read the payload before: `poll_next` panics otherwise. It gives up after an error. -/
def step (self : Reception) : ReceptionAction → Option Reception
  | .arrive data =>
    if data = [] ∨ self.failed then none
    else some { self with incoming := self.incoming ++ [.ok (some data)], polled := none }
  | .finish =>
    if self.failed then none else some { self with incoming := self.incoming ++ [.ok none], polled := none }
  | .abort error => if self.failed then none else some { self with incoming := [.error error], polled := none }
  | .pollNext =>
    if self.failed ∨ self.stream.remainingData ≠ 0 then none
    else
      let (answer, stream, incoming) := self.stream.pollNext self.incoming
      some ⟨stream, incoming, self.take incoming, self.log ++ (onNext answer).1, some (onNext answer).2⟩
  | .pollData =>
    if self.failed then none
    else
      let left := self.stream.remainingData
      let (answer, stream, incoming) := self.stream.pollData self.incoming
      some ⟨stream, incoming, self.take incoming, self.log ++ (onData left answer).1,
        some (onData left answer).2⟩

end Reception

/-- Those items, and no more, are to be had of the bytes. -/
def HoldsAll (received : Bytes) (items : List (Item (Frame Nat))) : Prop :=
  ∃ left rest, Parses Frame.reader Frame.remainingData 0 received items left rest ∧
    Settled Frame.reader left rest

/-- What an input holds, all in all, is one list. -/
theorem HoldsAll.unique {received : Bytes} {items others : List (Item (Frame Nat))}
    (first : HoldsAll received items) (second : HoldsAll received others) : items = others := by
  obtain ⟨_, _, parsed, settled⟩ := first
  obtain ⟨_, _, other, done⟩ := second
  exact parsed.settled_unique settled other done

namespace Reception

/-- What each answer says. -/
def Meaning (self : Reception) : Polled → Prop
  | .frame frame => ∃ before, self.log = before ++ [.head frame]
  | .data data => ∃ before, self.log = before ++ data.map .body
  | .pending => self.incoming = [] ∧ HoldsAll self.received self.log
  | .noFrame => self.stream.eos = true ∧
      Parses Frame.reader Frame.remainingData 0 self.received self.log 0 []
  | .noPayload => ∃ rest, Parses Frame.reader Frame.remainingData 0 self.received self.log 0 rest
  | .noData => self.stream.eos = true ∧ HoldsAll self.received self.log
  | .failed (.proto error) => ∃ rest,
      Parses Frame.reader Frame.remainingData 0 self.received self.log 0 rest ∧
      Frame.reader rest = .failed error
  | .failed .unexpectedEnd => self.stream.eos = true ∧ ∃ last left rest,
      Parses Frame.reader Frame.remainingData 0 self.received (self.log ++ last) left rest ∧
      Settled Frame.reader left rest ∧ (left ≠ 0 ∨ rest ≠ [])
  | .failed (.quic _) => True

structure Invariant (state : Reception) : Prop where
  chunked : state.incoming.Chunked
  sound : state.failed = false → state.stream.Sound state.received state.log
  begun : ∃ last left rest,
    Parses Frame.reader Frame.remainingData 0 state.received (state.log ++ last) left rest
  meaning : ∀ answer, state.polled = some answer → state.Meaning answer

theorem invariant_initial : initial.Invariant where
  chunked := fun _ member => absurd member List.not_mem_nil
  sound := fun _ => FrameStream.sound_new
  begun := ⟨[], 0, [], .nil⟩
  meaning := fun _ polled => nomatch polled

/-- Something arrives. -/
theorem Invariant.arrived {state : Reception} (holds : state.Invariant) (live : state.failed = false)
    {incoming : Incoming} (chunked : incoming.Chunked) :
    ({ state with incoming := incoming, polled := none } : Reception).Invariant where
  chunked := chunked
  sound := fun _ => holds.sound live
  begun := holds.begun
  meaning := fun _ polled => nomatch polled

theorem take_eq {self : Reception} {incoming : Incoming} {taken : Bytes}
    (bytes : self.incoming.bytes = taken ++ incoming.bytes) : self.take incoming = self.received ++ taken := by
  rw [take, bytes, List.length_append, Nat.add_sub_cancel, List.take_left]

theorem begun_of_sound {stream : FrameStream} {received : Bytes} {log : List (Item (Frame Nat))}
    (sound : stream.Sound received log) : ∃ last left rest,
    Parses Frame.reader Frame.remainingData 0 received (log ++ last) left rest :=
  ⟨[], _, _, by rw [List.append_nil]; exact sound.parsed⟩

/-- A poll for a frame. -/
theorem Invariant.polledNext {stream : FrameStream} {incoming : Incoming} {received : Bytes}
    {log : List (Item (Frame Nat))} {answer : Poll (Except FrameStreamError (Option (Frame Nat)))}
    (chunked : incoming.Chunked) (answered : stream.PolledNext received log incoming answer) :
    (⟨stream, incoming, received, log ++ (onNext answer).1, some (onNext answer).2⟩ : Reception).Invariant := by
  cases answered with
  | frame sound =>
    refine ⟨chunked, fun _ => sound, begun_of_sound sound, ?_⟩
    rintro _ ⟨⟩
    exact ⟨log, rfl⟩
  | finished sound done eos empty =>
    simp only [onNext, List.append_nil]
    refine ⟨chunked, fun _ => sound, begun_of_sound sound, ?_⟩
    rintro _ ⟨⟩
    have parsed := sound.parsed
    rw [done, empty] at parsed
    exact ⟨eos, parsed⟩
  | pending sound done none waits =>
    simp only [onNext, List.append_nil]
    refine ⟨chunked, fun _ => sound, begun_of_sound sound, ?_⟩
    rintro _ ⟨⟩
    have parsed := sound.parsed
    rw [done] at parsed
    exact ⟨none, 0, _, parsed, settled_more Frame.reader waits⟩
  | unexpectedEnd sound done eos some' waits =>
    simp only [onNext, List.append_nil]
    refine ⟨chunked, (fun live => nomatch live), begun_of_sound sound, ?_⟩
    rintro _ ⟨⟩
    have parsed := sound.parsed
    rw [done] at parsed
    exact ⟨eos, [], 0, _, by rw [List.append_nil]; exact parsed, settled_more Frame.reader waits, Or.inr some'⟩
  | proto done parsed refused =>
    simp only [onNext, List.append_nil]
    refine ⟨chunked, (fun live => nomatch live), ⟨[], 0, _, by rw [List.append_nil]; exact parsed⟩, ?_⟩
    rintro _ ⟨⟩
    exact ⟨_, parsed, refused⟩
  | quic sound =>
    simp only [onNext, List.append_nil]
    refine ⟨chunked, (fun live => nomatch live), begun_of_sound sound, ?_⟩
    rintro _ ⟨⟩
    trivial

/-- A poll for a payload. -/
theorem Invariant.polledData {stream : FrameStream} {incoming : Incoming} {received : Bytes}
    {log : List (Item (Frame Nat))} {answer : Poll (Except FrameStreamError (Option Bytes))} {left : Nat}
    (more : left ≠ 0) (chunked : incoming.Chunked) (answered : stream.PolledData received log incoming answer) :
    (⟨stream, incoming, received, log ++ (onData left answer).1,
      some (onData left answer).2⟩ : Reception).Invariant := by
  have all (sound : stream.Sound received log) (empty : stream.bufs.flatten = []) : HoldsAll received log := by
    have parsed := sound.parsed
    rw [empty] at parsed
    exact ⟨_, [], parsed, settled_nil Frame.reader Frame.reader_nil⟩
  cases answered with
  | data sound _ =>
    refine ⟨chunked, fun _ => sound, begun_of_sound sound, ?_⟩
    rintro _ ⟨⟩
    exact ⟨log, rfl⟩
  | pending sound none _ empty =>
    simp only [onData, List.append_nil]
    refine ⟨chunked, fun _ => sound, begun_of_sound sound, ?_⟩
    rintro _ ⟨⟩
    exact ⟨none, all sound empty⟩
  | finished sound _ eos empty =>
    simp only [onData, List.append_nil, if_neg more]
    refine ⟨chunked, fun _ => sound, begun_of_sound sound, ?_⟩
    rintro _ ⟨⟩
    exact ⟨eos, all sound empty⟩
  | unexpectedEnd eos torn parsed =>
    simp only [onData, List.append_nil]
    refine ⟨chunked, (fun live => nomatch live), ⟨_, _, _, parsed⟩, ?_⟩
    rintro _ ⟨⟩
    exact ⟨eos, _, _, [], parsed, settled_nil Frame.reader Frame.reader_nil, Or.inl torn⟩
  | quic sound =>
    simp only [onData, List.append_nil]
    refine ⟨chunked, (fun live => nomatch live), begun_of_sound sound, ?_⟩
    rintro _ ⟨⟩
    trivial

/-- A poll for a payload of which nothing is left changes nothing. -/
theorem Invariant.polledPayload {state : Reception} (holds : state.Invariant) (live : state.failed = false)
    (done : state.stream.remainingData = 0) :
    ({ state with polled := some .noPayload } : Reception).Invariant where
  chunked := holds.chunked
  sound := fun _ => holds.sound live
  begun := holds.begun
  meaning := by
    rintro _ ⟨⟩
    have parsed := (holds.sound live).parsed
    rw [done] at parsed
    exact ⟨_, parsed⟩

theorem Invariant.step {state next : Reception} {action : ReceptionAction} (holds : state.Invariant)
    (stepped : state.step action = some next) : next.Invariant := by
  cases action with
  | arrive data =>
    rw [Reception.step] at stepped
    split at stepped
    · cases stepped
    · rename_i legal
      obtain ⟨some', live⟩ := not_or.mp legal
      obtain rfl := Option.some.inj stepped
      refine holds.arrived (Bool.eq_false_iff.mpr live) (holds.chunked.concat ?_)
      rintro _ ⟨⟩
      exact some'
  | finish =>
    rw [Reception.step] at stepped
    split at stepped
    · cases stepped
    · rename_i live
      obtain rfl := Option.some.inj stepped
      refine holds.arrived (Bool.eq_false_iff.mpr live) (holds.chunked.concat ?_)
      rintro _ ⟨⟩
  | abort error =>
    rw [Reception.step] at stepped
    split at stepped
    · cases stepped
    · rename_i live
      obtain rfl := Option.some.inj stepped
      refine holds.arrived (Bool.eq_false_iff.mpr live) ?_
      intro chunk member
      obtain ⟨⟩ := List.mem_singleton.mp member
  | pollNext =>
    rw [Reception.step] at stepped
    split at stepped
    · cases stepped
    · rename_i legal
      obtain ⟨live, done⟩ := not_or.mp legal
      obtain ⟨answer, stream, incoming, taken, polled, bytes, kept, answered⟩ :=
        FrameStream.pollNextLoop_spec (Nat.le_refl _) holds.chunked (holds.sound (Bool.eq_false_iff.mpr live))
          (not_not.mp done)
      rw [FrameStream.pollNext, polled] at stepped
      obtain rfl := Option.some.inj stepped
      rw [take_eq bytes]
      exact .polledNext kept answered
  | pollData =>
    rw [Reception.step] at stepped
    split at stepped
    · cases stepped
    · rename_i legal
      have live : state.failed = false := Bool.eq_false_iff.mpr legal
      by_cases done : state.stream.remainingData = 0
      · rw [FrameStream.pollData, if_pos done] at stepped
        obtain rfl := Option.some.inj stepped
        have nothing : state.take state.incoming = state.received := by
          rw [take_eq (List.nil_append _).symm, List.append_nil]
        simp only [onData, if_pos done, List.append_nil, nothing]
        exact holds.polledPayload live done
      · obtain ⟨answer, stream, incoming, taken, polled, bytes, kept, answered⟩ :=
          FrameStream.pollData_spec holds.chunked (holds.sound live) done
        rw [polled] at stepped
        obtain rfl := Option.some.inj stepped
        rw [take_eq bytes]
        exact .polledData done kept answered

theorem run_invariant {actions : List ReceptionAction} {state : Reception}
    (execution : Transition.run step initial actions = some state) : state.Invariant :=
  Transition.run_invariant (fun holds stepped => Invariant.step holds stepped) execution invariant_initial

/-- An answer that nothing more is to be had at present. That a payload is at its end is no such
answer. -/
def Idle : Polled → Prop
  | .pending | .noFrame | .noData => True
  | _ => False

theorem Meaning.holdsAll {state : Reception} {answer : Polled} (meaning : state.Meaning answer)
    (idle : Idle answer) : HoldsAll state.received state.log := by
  cases answer with
  | pending => exact meaning.2
  | noFrame => exact ⟨0, [], meaning.2, settled_nil Frame.reader Frame.reader_nil⟩
  | noData => exact meaning.2
  | _ => exact idle.elim

end Reception
open Reception

/-- Whatever the chunks and whenever it is polled, a stream hands on what the bytes it has received hold,
in order, and every answer means what it says: it waits only when all that has arrived is handed on, it
ends only at the end of the stream, a payload ends only where the bytes of one have all been handed on, and
it refuses only bytes that no later byte can mend. -/
theorem frames_received {actions : List ReceptionAction} {state : Reception}
    (execution : Transition.run Reception.step .initial actions = some state) :
    (∃ all, HoldsAll state.received all ∧ state.log <+: all) ∧
    ∀ answer, state.polled = some answer → state.Meaning answer := by
  have holds := run_invariant execution
  refine ⟨?_, holds.meaning⟩
  obtain ⟨last, left, rest, begun⟩ := holds.begun
  obtain ⟨more, after, final, onward, settled⟩ : ∃ more after final,
      Parses Frame.reader Frame.remainingData left rest more after final ∧ Settled Frame.reader after final :=
    Parses.exists_settled Frame.reader_shrinks left rest
  refine ⟨_, ⟨after, final, begun.trans onward, settled⟩, ?_⟩
  rw [List.append_assoc]
  exact List.prefix_append ..

/-- The bytes of frames that are written one after another, each with what its grease draws. -/
def wireAll : List (Nat × Frame Bytes) → Option Bytes
  | [] => some []
  | (drawn, frame) :: frames => do
    let first ← frame.wire drawn
    let rest ← wireAll frames
    some (first ++ rest)

theorem parses_wireAll {frames : List (Nat × Frame Bytes)} {bytes : Bytes}
    (written : wireAll frames = some bytes) (exchanged : ∀ frame ∈ frames, frame.2.Exchanged) :
    Parses Frame.reader Frame.remainingData 0 bytes (frames.flatMap (·.2.items)) 0 [] := by
  induction frames generalizing bytes with
  | nil =>
    obtain rfl := Option.some.inj written
    exact .nil
  | cons frame frames ih =>
    simp only [wireAll, Option.bind_eq_bind, Option.bind_eq_some_iff] at written
    obtain ⟨first, head, rest, tail, whole⟩ := written
    obtain rfl := Option.some.inj whole
    have one := (Frame.parses_wire head (exchanged frame (List.mem_cons_self ..))).append Frame.reader_stable rest
    have others := ih tail fun other member => exchanged other (List.mem_cons_of_mem _ member)
    rw [List.flatMap_cons]
    exact one.trans others

/-- What the peer writes on the stream of a request is received: never anything else, in order, every
frame that has arrived as a whole, and without an error of the protocol. -/
theorem exchanged_received {actions : List ReceptionAction} {state : Reception}
    {frames : List (Nat × Frame Bytes)} {bytes : Bytes}
    (execution : Transition.run Reception.step .initial actions = some state)
    (written : wireAll frames = some bytes) (exchanged : ∀ frame ∈ frames, frame.2.Exchanged)
    (arrived : state.received <+: bytes) :
    state.log <+: frames.flatMap (·.2.items) ∧
    (∀ error, state.polled ≠ some (.failed (.proto error))) ∧
    ∀ front back part answer, frames = front ++ back → wireAll front = some part →
      part <+: state.received → state.polled = some answer → Idle answer →
      front.flatMap (·.2.items) <+: state.log := by
  have holds := run_invariant execution
  have whole := parses_wireAll written exchanged
  have settled : Settled Frame.reader 0 [] := settled_nil Frame.reader Frame.reader_nil
  obtain ⟨later, rfl⟩ := arrived
  refine ⟨?_, ?_, ?_⟩
  · obtain ⟨last, left, rest, begun⟩ := holds.begun
    obtain ⟨more, all, _⟩ := (begun.append Frame.reader_stable later).rest_of_settled whole settled
    rw [all, List.append_assoc]
    exact List.prefix_append ..
  · intro error polled
    obtain ⟨rest, parsed, refused⟩ := holds.meaning _ polled
    have still := Frame.reader_stable.failed refused later
    obtain ⟨more, _, onward⟩ := (parsed.append Frame.reader_stable later).rest_of_settled whole settled
    rw [← onward.of_failed still] at still
    exact absurd (Frame.reader_nil.symm.trans still) (by simp)
  · intro front back part answer split head received polled idle
    obtain ⟨left, rest, parsed, done⟩ := (holds.meaning answer polled).holdsAll idle
    have first := parses_wireAll head fun frame member =>
      exchanged frame (by rw [split]; exact List.mem_append_left _ member)
    obtain ⟨others, same⟩ := received
    have begun := first.append Frame.reader_stable others
    rw [same] at begun
    obtain ⟨more, all, _⟩ := begun.rest_of_settled parsed done
    rw [all]
    exact List.prefix_append ..

/-- A block of headers and two bytes of a body, cut in the middle of both. -/
def twoChunks : List ReceptionAction :=
  [.arrive [0x01, 0x02, 0xaa], .pollNext, .arrive [0xbb, 0x00, 0x02, 0x07], .pollNext, .pollNext, .pollData,
    .pollData]

/-- The second byte of the body has not arrived. -/
def halfBody : Reception :=
  ⟨⟨[], false, none, 1⟩, [], [0x01, 0x02, 0xaa, 0xbb, 0x00, 0x02, 0x07],
    [.head (.headers [0xaa, 0xbb]), .head (.data 2), .body 0x07], some .pending⟩

theorem run_twoChunks : Transition.run Reception.step .initial twoChunks = some halfBody := by
  decide +kernel

theorem frames_received_twoChunks : HoldsAll halfBody.received halfBody.log :=
  ((frames_received run_twoChunks).2 .pending rfl).2

theorem exchanged_received_twoChunks : [Item.head (.headers [0xaa, 0xbb])] <+: halfBody.log := by
  have written : wireAll [(0, .headers [0xaa, 0xbb]), (0, .data [0x07, 0x08])] =
      some [0x01, 0x02, 0xaa, 0xbb, 0x00, 0x02, 0x07, 0x08] := by decide
  exact (exchanged_received run_twoChunks written (by simp [Frame.Exchanged]) (by decide)).2.2
    [(0, .headers [0xaa, 0xbb])] _ [0x01, 0x02, 0xaa, 0xbb] .pending rfl (by decide) (by decide) rfl trivial

end SingQuic.H3
