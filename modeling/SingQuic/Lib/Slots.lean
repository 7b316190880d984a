import Mathlib.Data.Finset.Insert
import Mathlib.Data.List.Basic

/-! Lists of numbered slots that are filled one at a time, in any order, with
the values of a fixed list, and emptied as a whole once no slot is vacant. -/
namespace Slots
variable {α : Type}

def filled (slots : List (Option α)) : Nat := slots.countP Option.isSome

/-- The values of all slots, if none is vacant. -/
def collect (slots : List (Option α)) : Option (List α) := slots.mapM id

/-- Exactly the slots in `seen` hold the value of their position. -/
def masked (values : List α) (seen : Finset Nat) : List (Option α) :=
  values.mapIdx fun index value => if index ∈ seen then some value else none

variable {values : List α} {seen : Finset Nat} {index : Nat} {value : α}

@[simp] theorem length_masked : (masked values seen).length = values.length := by
  simp [masked]

theorem getElem?_masked : (masked values seen)[index]? =
    values[index]?.map fun value => if index ∈ seen then some value else none := by
  simp [masked]

theorem masked_empty : masked values ∅ = List.replicate values.length none := by
  apply List.ext_getElem?
  intro index
  rw [getElem?_masked, List.getElem?_replicate]
  by_cases present : index < values.length
  · simp [present]
  · simp [present]

theorem masked_set (here : values[index]? = some value) :
    (masked values seen).set index (some value) = masked values (insert index seen) := by
  apply List.ext_getElem?
  intro other
  rw [List.getElem?_set, getElem?_masked, getElem?_masked, length_masked]
  by_cases same : index = other
  · subst other
    have present : index < values.length := (List.getElem?_eq_some_iff.mp here).1
    rw [if_pos rfl, if_pos present, here]
    simp
  · rw [if_neg same]
    simp [Ne.symm same]

theorem masked_insert_of_mem (present : index ∈ seen) :
    masked values (insert index seen) = masked values seen := by
  rw [Finset.insert_eq_of_mem present]

theorem collect_map (values : List α) : collect (values.map some) = some values := by
  induction values with
  | nil => rfl
  | cons value rest ih =>
    have tail : (rest.map some).mapM id = some rest := ih
    simp [collect, List.mapM_cons, tail]

theorem eq_map_of_collect {slots : List (Option α)} (all : collect slots = some values) :
    slots = values.map some := by
  induction slots generalizing values with
  | nil =>
    obtain rfl := Option.some.inj all
    rfl
  | cons slot rest ih =>
    simp only [collect, List.mapM_cons, id_eq, Option.pure_def, Option.bind_eq_bind,
      Option.bind_eq_some_iff, Option.some.injEq] at all
    obtain ⟨value, rfl, others, tail, rfl⟩ := all
    rw [List.map_cons, ih tail]

theorem filled_set {slots : List (Option α)} (vacant : slots[index]? = some none) :
    filled (slots.set index (some value)) = filled slots + 1 := by
  obtain ⟨present, empty⟩ := List.getElem?_eq_some_iff.mp vacant
  simp [filled, List.countP_set present, empty]

theorem filled_le (slots : List (Option α)) : filled slots ≤ slots.length := List.countP_le_length

theorem filled_eq_length_iff (slots : List (Option α)) :
    filled slots = slots.length ↔ ∀ slot ∈ slots, slot.isSome = true := by
  simp [filled, List.countP_eq_length]

theorem exists_of_filled {slots : List (Option α)} (all : filled slots = slots.length) :
    ∃ values : List α, slots = values.map some := by
  replace all := (filled_eq_length_iff slots).mp all
  induction slots with
  | nil => exact ⟨[], rfl⟩
  | cons slot rest ih =>
    obtain ⟨value, rfl⟩ := Option.isSome_iff_exists.mp (all slot List.mem_cons_self)
    obtain ⟨values, rfl⟩ := ih fun slot member => all slot (List.mem_cons_of_mem _ member)
    exact ⟨value :: values, rfl⟩

/-- All slots are filled exactly when every position has been seen. -/
theorem filled_masked_iff :
    filled (masked values seen) = values.length ↔ ∀ index < values.length, index ∈ seen := by
  have total := filled_eq_length_iff (masked values seen)
  rw [length_masked] at total
  rw [total]
  constructor
  · intro all index present
    have slot : (masked values seen)[index]? =
        some (if index ∈ seen then some values[index] else none) := by
      rw [getElem?_masked, List.getElem?_eq_getElem present, Option.map_some]
    have here := all _ (List.mem_of_getElem? slot)
    by_contra missing
    simp [missing] at here
  · intro all slot member
    obtain ⟨index, found⟩ := List.mem_iff_getElem?.mp member
    rw [getElem?_masked] at found
    obtain ⟨value, here, rfl⟩ := Option.map_eq_some_iff.mp found
    simp [all index (List.getElem?_eq_some_iff.mp here).1]

theorem collect_masked (all : ∀ index < values.length, index ∈ seen) :
    collect (masked values seen) = some values := by
  have whole : masked values seen = values.map some := by
    apply List.ext_getElem?
    intro index
    rw [getElem?_masked, List.getElem?_map]
    cases here : values[index]? with
    | none => rfl
    | some value => simp [all index (List.getElem?_eq_some_iff.mp here).1]
  rw [whole, collect_map]

end Slots
