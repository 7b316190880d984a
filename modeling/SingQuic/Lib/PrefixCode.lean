import SingQuic.Lib.Bits
import Mathlib.Data.List.Perm.Subperm

/-! Prefix codes decoded with tables. A decoder is a tree whose nodes look at
several bits at once; what it does to a bit string is `walk`, and the code it
decodes is the list of paths to its leaves. When those are the code words of an
encoder, decoding inverts encoding and nothing else decodes. -/
namespace PrefixCode

inductive CodeTree (α : Type) where
  | leaf (symbol : α)
  | node (width : Nat) (branches : List (CodeTree α))

/-- The answer of a walk: a symbol and the bits after it, a node for which too
few bits are left, or an index that the node has no branch for. -/
inductive Outcome (α : Type) where
  | symbol (value : α) (rest : List Bool)
  | short (rest : List Bool)
  | unassigned
  deriving DecidableEq

variable {α : Type}

mutual
def CodeTree.walk : CodeTree α → List Bool → Outcome α
  | .leaf value, bits => .symbol value bits
  | .node width branches, bits =>
    if bits.length < width then .short bits
    else walkBranch branches (Bits.toNat (bits.take width)) (bits.drop width)

def walkBranch : List (CodeTree α) → Nat → List Bool → Outcome α
  | [], _, _ => .unassigned
  | tree :: _, 0, bits => tree.walk bits
  | _ :: trees, index + 1, bits => walkBranch trees index bits
end

mutual
/-- The paths from the root to the leaves, with what stands there. -/
def CodeTree.codes : CodeTree α → List (List Bool × α)
  | .leaf value => [([], value)]
  | .node width branches => branchCodes width 0 branches

def branchCodes (width : Nat) : Nat → List (CodeTree α) → List (List Bool × α)
  | _, [] => []
  | index, tree :: trees =>
    tree.codes.map (fun entry => (Bits.ofNat width index ++ entry.1, entry.2)) ++
      branchCodes width (index + 1) trees
end

mutual
/-- How many bits the nodes look at. -/
def CodeTree.widths : CodeTree α → List Nat
  | .leaf _ => []
  | .node width branches => width :: branchWidths branches

def branchWidths : List (CodeTree α) → List Nat
  | [] => []
  | tree :: trees => tree.widths ++ branchWidths trees
end

mutual
/-- The paths from the root to the nodes, with how many bits a node looks at. -/
def CodeTree.tables : CodeTree α → List (List Bool × Nat)
  | .leaf _ => []
  | .node width branches => ([], width) :: branchTables width 0 branches

def branchTables (width : Nat) : Nat → List (CodeTree α) → List (List Bool × Nat)
  | _, [] => []
  | index, tree :: trees =>
    tree.tables.map (fun entry => (Bits.ofNat width index ++ entry.1, entry.2)) ++
      branchTables width (index + 1) trees
end

/-- Bits after the code word are left alone. -/
theorem walk_append (tree : CodeTree α) : ∀ {bits rest : List Bool} {value : α} (more : List Bool),
    tree.walk bits = .symbol value rest → tree.walk (bits ++ more) = .symbol value (rest ++ more) := by
  refine CodeTree.rec
    (motive_1 := fun tree => ∀ {bits rest : List Bool} {value : α} (more : List Bool),
      tree.walk bits = .symbol value rest → tree.walk (bits ++ more) = .symbol value (rest ++ more))
    (motive_2 := fun trees => ∀ {index : Nat} {bits rest : List Bool} {value : α} (more : List Bool),
      walkBranch trees index bits = .symbol value rest →
        walkBranch trees index (bits ++ more) = .symbol value (rest ++ more)) ?_ ?_ ?_ ?_ tree
  · intro leaf bits rest value more found
    simp only [CodeTree.walk, Outcome.symbol.injEq] at found ⊢
    exact ⟨found.1, by rw [found.2]⟩
  · intro width branches ih bits rest value more found
    rw [CodeTree.walk] at found
    split at found
    · cases found
    · rename_i enough
      rw [Nat.not_lt] at enough
      rw [CodeTree.walk, if_neg (by rw [List.length_append]; omega), List.take_append_of_le_length enough,
        List.drop_append_of_le_length enough]
      exact ih more found
  · intro index bits rest value more found
    cases found
  · intro tree trees ihTree ihTrees index bits rest value more found
    cases index with
    | zero => exact ihTree more found
    | succ index => exact ihTrees more found

/-- A walk to a symbol followed one of the paths. -/
theorem walk_sound (tree : CodeTree α) : ∀ {bits rest : List Bool} {value : α},
    tree.walk bits = .symbol value rest → ∃ code, (code, value) ∈ tree.codes ∧ bits = code ++ rest := by
  refine CodeTree.rec
    (motive_1 := fun tree => ∀ {bits rest : List Bool} {value : α},
      tree.walk bits = .symbol value rest → ∃ code, (code, value) ∈ tree.codes ∧ bits = code ++ rest)
    (motive_2 := fun trees => ∀ {index : Nat} (width start : Nat) {bits rest : List Bool} {value : α},
      walkBranch trees index bits = .symbol value rest →
        ∃ code, (Bits.ofNat width (start + index) ++ code, value) ∈ branchCodes width start trees ∧
          bits = code ++ rest) ?_ ?_ ?_ ?_ tree
  · intro leaf bits rest value found
    simp only [CodeTree.walk, Outcome.symbol.injEq] at found
    exact ⟨[], by rw [CodeTree.codes, found.1]; exact List.mem_singleton.mpr rfl, found.2⟩
  · intro width branches ih bits rest value found
    rw [CodeTree.walk] at found
    split at found
    · cases found
    · rename_i enough
      obtain ⟨code, member, split⟩ := ih width 0 found
      have head : Bits.ofNat width (Bits.toNat (bits.take width)) = bits.take width := by
        have whole := Bits.ofNat_toNat (bits.take width)
        rwa [List.length_take_of_le (Nat.le_of_not_lt enough)] at whole
      rw [Nat.zero_add, head] at member
      refine ⟨bits.take width ++ code, member, ?_⟩
      rw [List.append_assoc, ← split, List.take_append_drop]
  · intro index width start bits rest value found
    cases found
  · intro tree trees ihTree ihTrees index width start bits rest value found
    cases index with
    | zero =>
      obtain ⟨code, member, split⟩ := ihTree found
      refine ⟨code, ?_, split⟩
      rw [branchCodes]
      exact List.mem_append_left _ (List.mem_map.mpr ⟨(code, value), member, rfl⟩)
    | succ index =>
      obtain ⟨code, member, split⟩ := ihTrees width (start + 1) found
      refine ⟨code, ?_, split⟩
      rw [branchCodes, ← Nat.add_assoc, Nat.add_right_comm]
      exact List.mem_append_right _ member

/-- A walk that lacks bits followed the path to a node that looks at more of them. -/
theorem walk_short (tree : CodeTree α) : ∀ {bits rest : List Bool}, tree.walk bits = .short rest →
    ∃ stem width, (stem, width) ∈ tree.tables ∧ bits = stem ++ rest ∧ rest.length < width := by
  refine CodeTree.rec
    (motive_1 := fun tree => ∀ {bits rest : List Bool}, tree.walk bits = .short rest →
      ∃ stem width, (stem, width) ∈ tree.tables ∧ bits = stem ++ rest ∧ rest.length < width)
    (motive_2 := fun trees => ∀ {index : Nat} (width start : Nat) {bits rest : List Bool},
      walkBranch trees index bits = .short rest → ∃ stem looks,
        (Bits.ofNat width (start + index) ++ stem, looks) ∈ branchTables width start trees ∧
          bits = stem ++ rest ∧ rest.length < looks) ?_ ?_ ?_ ?_ tree
  · intro leaf bits rest found
    cases found
  · intro width branches ih bits rest found
    rw [CodeTree.walk] at found
    split at found
    · rename_i few
      obtain rfl := Outcome.short.inj found
      exact ⟨[], width, by rw [CodeTree.tables]; exact List.mem_cons_self .., rfl, few⟩
    · rename_i enough
      obtain ⟨stem, looks, member, split, few⟩ := ih width 0 found
      have head : Bits.ofNat width (Bits.toNat (bits.take width)) = bits.take width := by
        have whole := Bits.ofNat_toNat (bits.take width)
        rwa [List.length_take_of_le (Nat.le_of_not_lt enough)] at whole
      rw [Nat.zero_add, head] at member
      refine ⟨bits.take width ++ stem, looks, ?_, ?_, few⟩
      · rw [CodeTree.tables]
        exact List.mem_cons_of_mem _ member
      · rw [List.append_assoc, ← split, List.take_append_drop]
  · intro index width start bits rest found
    cases found
  · intro tree trees ihTree ihTrees index width start bits rest found
    rw [branchTables]
    cases index with
    | zero =>
      obtain ⟨stem, looks, member, split, few⟩ := ihTree found
      exact ⟨stem, looks, List.mem_append_left _ (List.mem_map.mpr ⟨(stem, looks), member, rfl⟩), split, few⟩
    | succ index =>
      obtain ⟨stem, looks, member, split, few⟩ := ihTrees width (start + 1) found
      refine ⟨stem, looks, List.mem_append_right _ ?_, split, few⟩
      rw [← Nat.add_assoc, Nat.add_right_comm]
      exact member

/-- No symbol stands at the front of the bits. -/
def CodeTree.Stops (tree : CodeTree α) (bits : List Bool) : Prop :=
  ∀ value rest, tree.walk bits ≠ .symbol value rest

/-- The tree decodes exactly the given code words. -/
structure Spells (tree : CodeTree α) (code : α → List Bool) : Prop where
  complete : ∀ value, tree.walk (code value) = .symbol value []
  exact : ∀ entry ∈ tree.codes, entry.1 = code entry.2

def encode (code : α → List Bool) (symbols : List α) : List Bool := symbols.flatMap code

@[simp] theorem encode_nil (code : α → List Bool) : encode code [] = [] := rfl

@[simp] theorem encode_cons (code : α → List Bool) (value : α) (symbols : List α) :
    encode code (value :: symbols) = code value ++ encode code symbols := rfl

namespace Spells
variable {tree : CodeTree α} {code : α → List Bool}

/-- A tree with no more leaves than symbols has no leaf beside those of the code words. -/
theorem of_length {symbols : List α} (distinct : symbols.Nodup)
    (few : tree.codes.length ≤ symbols.length)
    (complete : ∀ value, tree.walk (code value) = .symbol value []) : Spells tree code := by
  refine ⟨complete, ?_⟩
  let words := symbols.map fun value => (code value, value)
  have once : words.Nodup := distinct.map fun first second same => (Prod.mk.inj same).2
  have inside : words ⊆ tree.codes := by
    intro entry member
    obtain ⟨value, -, rfl⟩ := List.mem_map.mp member
    obtain ⟨word, leaf, split⟩ := walk_sound tree (complete value)
    rw [List.append_nil] at split
    exact split ▸ leaf
  have all : words.Perm tree.codes :=
    (once.subperm inside).perm_of_length_le (by rw [List.length_map]; exact few)
  intro entry member
  obtain ⟨value, -, rfl⟩ := List.mem_map.mp (all.mem_iff.mpr member)
  rfl

theorem walk_code (spells : Spells tree code) (value : α) (rest : List Bool) :
    tree.walk (code value ++ rest) = .symbol value rest := by
  simpa using walk_append tree rest (spells.complete value)

theorem of_symbol (spells : Spells tree code) {bits rest : List Bool} {value : α}
    (found : tree.walk bits = .symbol value rest) : bits = code value ++ rest := by
  obtain ⟨word, member, split⟩ := walk_sound tree found
  rw [split, ← spells.exact _ member]

end Spells
end PrefixCode
