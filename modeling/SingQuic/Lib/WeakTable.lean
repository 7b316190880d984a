import Mathlib.Data.Set.Card
import Mathlib.Data.Set.Finite.Range

/-! Tables of weak references: keys lead to targets that live as long as someone else
holds them. An entry is stale once its target is dead; nothing but a write under its key
takes it out of the table. -/
namespace WeakTable
variable {ι κ : Type}

/-- The keys with an entry. -/
def entries (table : ι → Option κ) : Set ι := {key | ∃ target, table key = some target}

/-- The keys whose target is dead. -/
def stale (table : ι → Option κ) (live : Set κ) : Set ι :=
  {key | ∃ target, table key = some target ∧ target ∉ live}

/-- The live targets that can be looked up. -/
def found (table : ι → Option κ) (live : Set κ) : Set κ :=
  {target | target ∈ live ∧ ∃ key, table key = some target}

/-- No target stands under two keys. -/
def Injective (table : ι → Option κ) : Prop :=
  ∀ key other target, table key = some target → table other = some target → key = other

variable {table : ι → Option κ} {live later : Set κ} {key : ι} {target : κ}

theorem entries_update [DecidableEq ι] (table : ι → Option κ) (key : ι) (target : κ) :
    entries (Function.update table key (some target)) = insert key (entries table) := by
  ext other
  by_cases same : other = key
  · subst same
    exact iff_of_true ⟨target, Function.update_self _ _ _⟩ (Set.mem_insert _ _)
  · constructor
    · rintro ⟨found, there⟩
      rw [Function.update_of_ne same] at there
      exact Or.inr ⟨found, there⟩
    · rintro (own | ⟨found, there⟩)
      · exact absurd own same
      · refine ⟨found, ?_⟩
        rw [Function.update_of_ne same]
        exact there

theorem stale_congr (same : ∀ key target, table key = some target → (target ∈ live ↔ target ∈ later)) :
    stale table live = stale table later := by
  ext key
  constructor
  · rintro ⟨target, here, dead⟩
    exact ⟨target, here, mt (same key target here).mpr dead⟩
  · rintro ⟨target, here, dead⟩
    exact ⟨target, here, mt (same key target here).mp dead⟩

/-- When a target dies, its key becomes stale. -/
theorem stale_drop (injective : Injective table) (here : table key = some target) (gone : target ∉ later)
    (others : ∀ other, other ≠ target → (other ∈ live ↔ other ∈ later)) :
    stale table later = insert key (stale table live) := by
  ext other
  constructor
  · rintro ⟨dead, there, missing⟩
    by_cases same : dead = target
    · subst same
      exact Or.inl (injective other key dead there here)
    · exact Or.inr ⟨dead, there, mt (others dead same).mp missing⟩
  · rintro (rfl | ⟨dead, there, missing⟩)
    · exact ⟨target, here, gone⟩
    · by_cases same : dead = target
      · subst same
        exact ⟨dead, there, gone⟩
      · exact ⟨dead, there, mt (others dead same).mpr missing⟩

/-- A write of a live target takes a stale entry out. -/
theorem stale_update [DecidableEq ι] (alive : target ∈ live) :
    stale (Function.update table key (some target)) live = stale table live \ {key} := by
  ext other
  by_cases same : other = key
  · subst same
    constructor
    · rintro ⟨dead, there, missing⟩
      rw [Function.update_self] at there
      cases Option.some.inj there
      exact absurd alive missing
    · rintro ⟨_, other⟩
      exact absurd rfl other
  · constructor
    · rintro ⟨dead, there, missing⟩
      rw [Function.update_of_ne same] at there
      exact ⟨⟨dead, there, missing⟩, same⟩
    · rintro ⟨⟨dead, there, missing⟩, _⟩
      refine ⟨dead, ?_, missing⟩
      rw [Function.update_of_ne same]
      exact there

section Count
variable [Finite ι]

theorem ncard_stale_drop (injective : Injective table) (here : table key = some target)
    (was : target ∈ live) (gone : target ∉ later)
    (others : ∀ other, other ≠ target → (other ∈ live ↔ other ∈ later)) :
    (stale table later).ncard = (stale table live).ncard + 1 := by
  have fresh : key ∉ stale table live := by
    rintro ⟨dead, there, missing⟩
    cases Option.some.inj (here.symm.trans there)
    exact missing was
  rw [stale_drop injective here gone others, Set.ncard_insert_of_notMem fresh (Set.toFinite _)]

theorem found_finite (table : ι → Option κ) (live : Set κ) : (found table live).Finite := by
  have range : (Set.range table).Finite := Set.finite_range table
  apply (range.preimage (Option.some_injective κ).injOn).subset
  rintro target ⟨_, key, here⟩
  exact ⟨key, here⟩

/-- Every entry leads to a live target of its own or is stale. -/
theorem ncard_entries (injective : Injective table) (live : Set κ) :
    (entries table).ncard = (found table live).ncard + (stale table live).ncard := by
  let alive : Set ι := {key | ∃ target, table key = some target ∧ target ∈ live}
  have split : entries table = alive ∪ stale table live := by
    ext key
    constructor
    · rintro ⟨target, here⟩
      by_cases lives : target ∈ live
      · exact Or.inl ⟨target, here, lives⟩
      · exact Or.inr ⟨target, here, lives⟩
    · rintro (⟨target, here, _⟩ | ⟨target, here, _⟩)
      · exact ⟨target, here⟩
      · exact ⟨target, here⟩
  have apart : Disjoint alive (stale table live) := by
    rw [Set.disjoint_left]
    rintro key ⟨target, here, lives⟩ ⟨dead, there, missing⟩
    cases Option.some.inj (here.symm.trans there)
    exact missing lives
  have image : table '' alive = some '' found table live := by
    ext entry
    constructor
    · rintro ⟨key, ⟨target, here, lives⟩, rfl⟩
      exact ⟨target, ⟨lives, key, here⟩, here.symm⟩
    · rintro ⟨target, ⟨lives, key, here⟩, rfl⟩
      exact ⟨key, ⟨target, here, lives⟩, here⟩
  have one : Set.InjOn table alive := by
    rintro key ⟨target, here, _⟩ other _ same
    exact injective key other target here (same.symm.trans here)
  rw [split, Set.ncard_union_eq apart (Set.toFinite _) (Set.toFinite _), ← one.ncard_image, image,
    Set.ncard_image_of_injective _ (Option.some_injective κ)]

end Count
end WeakTable
