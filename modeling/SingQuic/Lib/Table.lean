import Mathlib.Data.List.Induction

/-! Tables in which one entry changes at a time. A table is a list, with its entries
under their positions, or a function into `Option`; afterwards every entry is the new
one or an old one. -/
namespace Table
variable {α : Type} {entries more : List α} {index target : Nat} {entry old later : α}

/-- What stands in a list after one of its entries was replaced. -/
theorem of_set (found : (entries.set target later)[index]? = some entry) :
    index = target ∧ entry = later ∨ index ≠ target ∧ entries[index]? = some entry := by
  by_cases same : index = target
  · subst same
    have inside : index < entries.length := by
      have bound := (List.getElem?_eq_some_iff.mp found).1
      rwa [List.length_set] at bound
    rw [List.getElem?_set_self inside] at found
    exact Or.inl ⟨rfl, (Option.some.inj found).symm⟩
  · rw [List.getElem?_set_ne (Ne.symm same)] at found
    exact Or.inr ⟨same, found⟩

theorem set_self (here : entries[target]? = some old) :
    (entries.set target later)[target]? = some later :=
  List.getElem?_set_self (List.getElem?_eq_some_iff.mp here).1

/-- Every entry has a successor, its own or the one that replaced it. -/
theorem set_related {R : α → α → Prop} (refl : ∀ entry, R entry entry)
    (here : entries[target]? = some old) (related : R old later)
    (found : entries[index]? = some entry) :
    ∃ after, (entries.set target later)[index]? = some after ∧ R entry after := by
  by_cases same : index = target
  · subst same
    obtain rfl := Option.some.inj (here.symm.trans found)
    exact ⟨later, set_self here, related⟩
  · exact ⟨entry, (List.getElem?_set_ne (Ne.symm same)).trans found, refl entry⟩

/-- What stands in a list after an entry was added. -/
theorem of_concat (found : (entries ++ [later])[index]? = some entry) :
    entries[index]? = some entry ∨ index = entries.length ∧ entry = later := by
  by_cases inside : index < entries.length
  · rw [List.getElem?_append_left inside] at found
    exact Or.inl found
  · have bound := (List.getElem?_eq_some_iff.mp found).1
    rw [List.length_append, List.length_singleton] at bound
    obtain rfl : index = entries.length := by omega
    rw [List.getElem?_concat_length] at found
    exact Or.inr ⟨rfl, (Option.some.inj found).symm⟩

/-- Entries stay where they are while a list grows. -/
theorem kept (grows : entries <+: more) (found : entries[index]? = some entry) :
    more[index]? = some entry := by
  obtain ⟨added, rfl⟩ := grows
  rw [List.getElem?_append_left (List.getElem?_eq_some_iff.mp found).1, found]

/-- An ordered list stays ordered if what is added comes last. -/
theorem pairwise_concat {R : α → α → Prop} (ordered : entries.Pairwise R)
    (last : ∀ earlier ∈ entries, R earlier later) : (entries ++ [later]).Pairwise R := by
  apply List.pairwise_append.mpr
  refine ⟨ordered, List.pairwise_singleton _ _, fun earlier member other only => ?_⟩
  rw [List.mem_singleton.mp only]
  exact last earlier member

/-- What stands under a key after one was written. -/
theorem of_update {ι : Type} [DecidableEq ι] {table : ι → Option α} {key other : ι}
    (found : Function.update table key (some later) other = some entry) :
    other = key ∧ entry = later ∨ other ≠ key ∧ table other = some entry := by
  by_cases same : other = key
  · subst same
    rw [Function.update_self] at found
    exact Or.inl ⟨rfl, (Option.some.inj found).symm⟩
  · rw [Function.update_of_ne same] at found
    exact Or.inr ⟨same, found⟩

section
variable {ρ ι : Type} [DecidableEq ι] (key : ρ → ι) (value : ρ → α) {rows : List ρ} {row : ρ}

/-- The table collected from rows: a later row under the same key replaces an earlier one. -/
def collect (rows : List ρ) : ι → Option α :=
  rows.foldl (fun table row => Function.update table (key row) (some (value row))) fun _ => none

theorem collect_concat (rows : List ρ) (row : ρ) :
    collect key value (rows ++ [row]) = Function.update (collect key value rows) (key row) (some (value row)) := by
  rw [collect, List.foldl_append, List.foldl_cons, List.foldl_nil, collect]

/-- Whatever is found was a row. -/
theorem of_collect {wanted : ι} (found : collect key value rows wanted = some entry) :
    ∃ row ∈ rows, key row = wanted ∧ value row = entry := by
  induction rows using List.reverseRecOn with
  | nil => contradiction
  | append_singleton rows last ih =>
    rw [collect_concat] at found
    rcases of_update found with ⟨rfl, rfl⟩ | ⟨_, earlier⟩
    · exact ⟨last, List.mem_append_right _ (List.mem_singleton_self _), rfl, rfl⟩
    · obtain ⟨row, member, spec⟩ := ih earlier
      exact ⟨row, List.mem_append_left _ member, spec⟩

/-- Every key of a row leads to a row under that key. -/
theorem collect_of_mem (member : row ∈ rows) :
    ∃ last ∈ rows, key last = key row ∧ collect key value rows (key row) = some (value last) := by
  have found : ∃ entry, collect key value rows (key row) = some entry := by
    induction rows using List.reverseRecOn with
    | nil => contradiction
    | append_singleton rows last ih =>
      rw [collect_concat]
      by_cases same : key row = key last
      · exact ⟨value last, by rw [same, Function.update_self]⟩
      · rw [Function.update_of_ne same]
        rcases List.mem_append.mp member with earlier | here
        · exact ih earlier
        · exact absurd (congrArg key (List.mem_singleton.mp here)) same
  obtain ⟨entry, found⟩ := found
  obtain ⟨last, inside, same, rfl⟩ := of_collect key value found
  exact ⟨last, inside, same, found⟩

/-- A row whose key no other row has is found under it. -/
theorem collect_of_unique (member : row ∈ rows) (unique : ∀ other ∈ rows, key other = key row → other = row) :
    collect key value rows (key row) = some (value row) := by
  obtain ⟨last, inside, same, found⟩ := collect_of_mem key value member
  rw [found, unique last inside same]

end

end Table
