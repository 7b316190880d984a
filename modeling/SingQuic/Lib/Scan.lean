import Mathlib.Data.List.TakeWhile

/-! Scanners that take a value off the front of a list and return what is left. Two
things are tracked through their composition: that a scanner never gets past a certain
symbol, so that text in front of it can be read on its own, and which symbols it takes. -/
namespace Scan
variable {σ α β : Type}

abbrev Scanner (σ α : Type) := List σ → Option (α × List σ)

/-- Further input behind what a scan has left. -/
def extend (later : List σ) (scanned : α × List σ) : α × List σ := (scanned.1, scanned.2 ++ later)

/-- What stands behind the stop symbol changes only what is left. -/
def Local (stop : σ) (scanner : Scanner σ α) : Prop :=
  ∀ input later, scanner (input ++ stop :: later) = (scanner input).map (extend (stop :: later))

/-- A scan takes allowed symbols only. -/
def Takes (allowed : σ → Prop) (scanner : Scanner σ α) : Prop :=
  ∀ {input value rest}, scanner input = some (value, rest) →
    ∃ taken, input = taken ++ rest ∧ ∀ symbol ∈ taken, allowed symbol

/-- In a sequence of scans the further input moves behind what the first has left. -/
theorem Local.bind_apply {stop : σ} {first : Scanner σ α} (head : Local stop first)
    (input later : List σ) (next : α × List σ → Option β) :
    (first (input ++ stop :: later)).bind next =
      (first input).bind fun scanned => next (extend (stop :: later) scanned) := by
  rw [head, Option.bind_map]
  rfl

/-- A scan of the text in front of the stop symbol that leaves nothing. -/
theorem Local.whole {stop : σ} {scanner : Scanner σ α} (base : Local stop scanner) {input : List σ}
    {value : α} (read : scanner input = some (value, [])) (later : List σ) :
    scanner (input ++ stop :: later) = some (value, stop :: later) := by
  rw [base, read]
  rfl

/-- What a scan leaves of a text with the stop symbol in it, it leaves of the text in
front of the symbol. -/
theorem Local.before {stop : σ} {scanner : Scanner σ α} (base : Local stop scanner)
    {input left later : List σ} {value : α}
    (read : scanner (input ++ stop :: later) = some (value, left ++ stop :: later)) :
    scanner input = some (value, left) := by
  rw [base] at read
  obtain ⟨⟨other, rest⟩, scanned, same⟩ := Option.map_eq_some_iff.mp read
  obtain ⟨rfl, kept⟩ := Prod.mk.inj same
  obtain rfl := List.append_cancel_right kept
  exact scanned

theorem Takes.mono {allowed wider : σ → Prop} {scanner : Scanner σ α} (takes : Takes allowed scanner)
    (widens : ∀ symbol, allowed symbol → wider symbol) : Takes wider scanner := by
  intro input value rest read
  obtain ⟨taken, same, only⟩ := takes read
  exact ⟨taken, same, fun symbol member => widens symbol (only symbol member)⟩

/-- A maximal run is cut off by the first symbol that is not in it. -/
theorem takeWhile_exact {included : σ → Bool} {run rest : List σ} (all : ∀ symbol ∈ run, included symbol = true)
    (ends : ∀ symbol ∈ rest.head?, included symbol = false) :
    (run ++ rest).takeWhile included = run ∧ (run ++ rest).dropWhile included = rest := by
  rw [List.takeWhile_append_of_pos all, List.dropWhile_append_of_pos all]
  cases rest with
  | nil => simp
  | cons symbol rest =>
    have outside := ends symbol (by simp)
    simp [outside]

theorem takeWhile_stop (included : σ → Bool) {stop : σ} (outside : included stop = false) (input later : List σ) :
    (input ++ stop :: later).takeWhile included = input.takeWhile included ∧
      (input ++ stop :: later).dropWhile included = input.dropWhile included ++ stop :: later := by
  induction input with
  | nil => simp [outside]
  | cons symbol input ih =>
    rw [List.cons_append, List.takeWhile_cons, List.takeWhile_cons, List.dropWhile_cons,
      List.dropWhile_cons, ih.1, ih.2]
    split <;> simp

theorem drop_takeWhile (included : σ → Bool) (input : List σ) :
    input.drop (input.takeWhile included).length = input.dropWhile included := by
  induction input with
  | nil => rfl
  | cons symbol input ih =>
    rw [List.takeWhile_cons, List.dropWhile_cons]
    split
    · exact ih
    · rfl

theorem head_dropWhile (included : σ → Bool) (input : List σ) :
    ∀ symbol ∈ (input.dropWhile included).head?, included symbol = false := by
  induction input with
  | nil => simp
  | cons symbol input ih =>
    rw [List.dropWhile_cons]
    split
    · exact ih
    · rename_i outside
      simpa using outside

end Scan
