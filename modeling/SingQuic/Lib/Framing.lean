import SingQuic.Lib.Wire

/-! Messages with bodies on a byte stream. A reader tells the head of a message, or that one is to
be passed over; a body of the announced length follows each head. What a stream holds is told
byte by byte, so that it does not depend on the pieces the stream arrives in. -/
namespace SingQuic.Framing
open Wire

inductive Item (μ : Type) where
  | head (message : μ)
  | body (byte : UInt8)
  deriving DecidableEq, Repr

section
variable {ε μ : Type} (reader : Reader ε (Option μ)) (size : μ → Nat)

/-- What is read, in order, from an input that begins `left` bytes before the end of a body, and
what is left then. -/
inductive Parses : Nat → Bytes → List (Item μ) → Nat → Bytes → Prop where
  | nil {left : Nat} {input : Bytes} : Parses left input [] left input
  | body {left after : Nat} {byte : UInt8} {input rest : Bytes} {items : List (Item μ)} :
      Parses left input items after rest → Parses (left + 1) (byte :: input) (.body byte :: items) after rest
  | head {after : Nat} {message : μ} {input middle rest : Bytes} {items : List (Item μ)} :
      reader input = .done (some message) middle → Parses (size message) middle items after rest →
      Parses 0 input (.head message :: items) after rest
  | passed {after : Nat} {input middle rest : Bytes} {items : List (Item μ)} :
      reader input = .done none middle → Parses 0 middle items after rest → Parses 0 input items after rest

/-- Nothing more can be read: a body lacks its next byte, or a head is not there or refused. -/
def Settled (left : Nat) (rest : Bytes) : Prop :=
  if left = 0 then ∀ message after, reader rest ≠ .done message after else rest = []

theorem settled_zero {rest : Bytes} :
    Settled reader 0 rest ↔ ∀ message after, reader rest ≠ .done message after := Iff.of_eq (if_pos rfl)

theorem settled_succ {left : Nat} {rest : Bytes} : Settled reader (left + 1) rest ↔ rest = [] :=
  Iff.of_eq (if_neg (Nat.succ_ne_zero left))

theorem settled_more {rest : Bytes} (waits : reader rest = .more) : Settled reader 0 rest := by
  rw [settled_zero]
  intro message after read
  rw [waits] at read
  contradiction

theorem settled_failed {rest : Bytes} {error : ε} (refused : reader rest = .failed error) :
    Settled reader 0 rest := by
  rw [settled_zero]
  intro message after read
  rw [refused] at read
  contradiction

theorem settled_nil {left : Nat} (waits : reader [] = .more) : Settled reader left [] := by
  cases left with
  | zero => exact settled_more reader waits
  | succ left => exact (settled_succ reader).mpr rfl
end

variable {ε μ : Type} {reader : Reader ε (Option μ)} {size : μ → Nat}

namespace Parses

theorem trans {left middle after : Nat} {input between rest : Bytes} {items more : List (Item μ)}
    (first : Parses reader size left input items middle between)
    (second : Parses reader size middle between more after rest) :
    Parses reader size left input (items ++ more) after rest := by
  induction first with
  | nil => exact second
  | body _ ih => exact .body (ih second)
  | head read _ ih => exact .head read (ih second)
  | passed read _ ih => exact .passed read (ih second)

/-- Later bytes only add to what is left. -/
theorem append (stable : reader.Stable) {left after : Nat} {input rest : Bytes} {items : List (Item μ)}
    (parsed : Parses reader size left input items after rest) (later : Bytes) :
    Parses reader size left (input ++ later) items after (rest ++ later) := by
  induction parsed with
  | nil => exact .nil
  | body _ ih => exact .body ih
  | head read _ ih => exact .head (stable.done read later) ih
  | passed read _ ih => exact .passed (stable.done read later) ih

/-- Part of a body. -/
theorem bodies (bytes : Bytes) (left : Nat) (rest : Bytes) :
    Parses reader size (left + bytes.length) (bytes ++ rest) (bytes.map .body) left rest := by
  induction bytes with
  | nil => exact .nil
  | cons byte bytes ih => exact .body ih

/-- Whoever reads on until nothing more can be read passes every point of the way. -/
theorem rest_of_settled {left after end' : Nat} {input rest final : Bytes} {items all : List (Item μ)}
    (part : Parses reader size left input items after rest)
    (whole : Parses reader size left input all end' final) (settled : Settled reader end' final) :
    ∃ more, all = items ++ more ∧ Parses reader size after rest more end' final := by
  induction part generalizing all with
  | nil => exact ⟨all, rfl, whole⟩
  | body _ ih =>
    cases whole with
    | nil => exact absurd ((settled_succ reader).mp settled) (List.cons_ne_nil _ _)
    | body whole =>
      obtain ⟨more, rfl, onward⟩ := ih whole
      exact ⟨more, rfl, onward⟩
  | head read _ ih =>
    cases whole with
    | nil => exact absurd read ((settled_zero reader).mp settled _ _)
    | head other whole =>
      rw [read] at other
      obtain ⟨⟨⟩, rfl⟩ := Read.done.inj other
      obtain ⟨more, rfl, onward⟩ := ih whole
      exact ⟨more, rfl, onward⟩
    | passed other _ =>
      rw [read] at other
      cases other
  | passed read _ ih =>
    cases whole with
    | nil => exact absurd read ((settled_zero reader).mp settled _ _)
    | head other _ =>
      rw [read] at other
      cases other
    | passed other whole =>
      rw [read] at other
      obtain ⟨_, rfl⟩ := Read.done.inj other
      exact ih whole

/-- What an input holds, all in all, is one list. -/
theorem settled_unique {left after end' : Nat} {input rest final : Bytes} {items all : List (Item μ)}
    (first : Parses reader size left input items after rest) (done : Settled reader after rest)
    (second : Parses reader size left input all end' final) (settled : Settled reader end' final) :
    items = all := by
  obtain ⟨more, rfl, _⟩ := rest_of_settled first second settled
  obtain ⟨less, same, _⟩ := rest_of_settled second first done
  have none : more ++ less = [] := by simpa using same
  rw [(List.append_eq_nil_iff.mp none).1, List.append_nil]

/-- Every input can be read to the end if the reader never answers without taking a byte. -/
theorem exists_settled (shrinks : ∀ {input message rest}, reader input = .done message rest →
    rest.length < input.length) (left : Nat) (input : Bytes) :
    ∃ items after rest, Parses reader size left input items after rest ∧ Settled reader after rest := by
  induction length : input.length using Nat.strongRecOn generalizing left input with
  | _ length ih =>
    subst length
    cases left with
    | succ left =>
      cases input with
      | nil => exact ⟨[], left + 1, [], .nil, (settled_succ reader).mpr rfl⟩
      | cons byte input =>
        obtain ⟨items, after, rest, parsed, settled⟩ := ih _ (Nat.lt_succ_self _) left input rfl
        exact ⟨_, after, rest, .body parsed, settled⟩
    | zero =>
      cases read : reader input with
      | more => exact ⟨[], 0, input, .nil, settled_more reader read⟩
      | failed error => exact ⟨[], 0, input, .nil, settled_failed reader read⟩
      | done message middle =>
        cases message with
        | none =>
          obtain ⟨items, after, rest, parsed, settled⟩ := ih _ (shrinks read) 0 middle rfl
          exact ⟨items, after, rest, .passed read parsed, settled⟩
        | some message =>
          obtain ⟨items, after, rest, parsed, settled⟩ := ih _ (shrinks read) (size message) middle rfl
          exact ⟨_, after, rest, .head read parsed, settled⟩

/-- Where the reader refuses, nothing is read. -/
theorem of_failed {after : Nat} {input rest : Bytes} {items : List (Item μ)} {error : ε}
    (parsed : Parses reader size 0 input items after rest) (refused : reader input = .failed error) :
    rest = input := by
  cases parsed with
  | nil => rfl
  | head read _ =>
    rw [refused] at read
    contradiction
  | passed read _ =>
    rw [refused] at read
    contradiction

end Parses
end SingQuic.Framing
