import SingQuic.Lib.Transition

/-! Values behind shared handles. Several handles may lead to one cell, and what is done
through one of them is seen through all; a handle that is dropped is one that is never
used again. -/
namespace Shared
variable {α : Type}

structure Store (α : Type) where
  cells : List α
  handles : List Nat
  inside : ∀ cell ∈ handles, cell < cells.length

namespace Store

def empty : Store α := ⟨[], [], by simp⟩

/-- A new cell, and the first handle to it. -/
def alloc (store : Store α) (value : α) : Store α where
  cells := store.cells ++ [value]
  handles := store.handles ++ [store.cells.length]
  inside cell member := by
    rw [List.length_append, List.length_singleton]
    rcases List.mem_append.mp member with old | new
    · exact Nat.lt_succ_of_lt (store.inside cell old)
    · rw [List.mem_singleton.mp new]
      exact Nat.lt_succ_self _

/-- A further handle to the cell of another. -/
def share (store : Store α) (handle : Nat) : Option (Store α) :=
  match found : store.handles[handle]? with
  | none => none
  | some cell => some {
      cells := store.cells
      handles := store.handles ++ [cell]
      inside := by
        intro other member
        rcases List.mem_append.mp member with old | new
        · exact store.inside other old
        · rw [List.mem_singleton.mp new]
          exact store.inside cell (List.mem_of_getElem? found) }

def modify (store : Store α) (handle : Nat) (change : α → α) : Option (Store α) :=
  (store.handles[handle]?).map fun cell => {
    cells := store.cells.modify cell change
    handles := store.handles
    inside := by simpa only [List.length_modify] using store.inside }

def read (store : Store α) (handle : Nat) : Option α :=
  (store.handles[handle]?).bind (store.cells[·]?)

variable {store after : Store α} {handle other cell : Nat} {value new : α} {change : α → α}

theorem read_eq (shares : store.handles[handle]? = some cell)
    (here : store.cells[cell]? = some value) : store.read handle = some value := by
  rw [read, shares, Option.bind_some, here]

theorem cells_alloc_self (store : Store α) (new : α) :
    (store.alloc new).cells[store.cells.length]? = some new :=
  List.getElem?_concat_length

theorem cells_alloc (here : store.cells[cell]? = some value) :
    (store.alloc new).cells[cell]? = some value := by
  have inside := (List.getElem?_eq_some_iff.mp here).1
  exact (List.getElem?_append_left inside).trans here

theorem share_inv (shared : store.share handle = some after) : ∃ cell, store.handles[handle]? = some cell ∧
    after.cells = store.cells ∧ after.handles = store.handles ++ [cell] := by
  unfold share at shared
  split at shared
  · contradiction
  · rename_i cell found
    cases Option.some.inj shared
    exact ⟨cell, found, rfl, rfl⟩

theorem cells_share (shared : store.share handle = some after) : after.cells = store.cells := by
  obtain ⟨_, _, cells, _⟩ := share_inv shared
  exact cells

/-- The new handle leads where the old one does, and no other handle moves. -/
theorem share_of_leads (leads : store.handles[handle]? = some cell) :
    ∃ after, store.share handle = some after ∧ after.handles = store.handles ++ [cell] := by
  unfold share
  split
  · rename_i missing
    rw [leads] at missing
    contradiction
  · rename_i other found
    rw [leads] at found
    cases Option.some.inj found
    exact ⟨_, rfl, rfl⟩

/-- Every handle leads to a value. -/
theorem read_total (live : handle < store.handles.length) : ∃ value, store.read handle = some value := by
  have inside := store.inside _ (List.getElem_mem live)
  exact ⟨_, read_eq (List.getElem?_eq_getElem live) (List.getElem?_eq_getElem inside)⟩

theorem handles_modify (modified : store.modify handle change = some after) :
    after.handles = store.handles := by
  obtain ⟨cell, _, rfl⟩ := Option.map_eq_some_iff.mp modified
  rfl

theorem cells_modify (modified : store.modify handle change = some after)
    (here : store.cells[cell]? = some value) : after.cells[cell]? =
      some (if store.handles[handle]? = some cell then change value else value) := by
  obtain ⟨target, found, rfl⟩ := Option.map_eq_some_iff.mp modified
  rw [found, List.getElem?_modify, here, Option.map_eq_map, Option.map_some]
  by_cases same : target = cell
  · rw [if_pos same, if_pos (congrArg some same)]
  · rw [if_neg same, if_neg fun equal => same (Option.some.inj equal)]

end Store

/-- The handles that come from one by sharing, told from the calls alone: the number of the next
handle, and the members so far. -/
structure Family where
  next : Nat
  members : List Nat

namespace Family

def first (handle : Nat) : Family := ⟨handle + 1, [handle]⟩

/-- A handle that begins a family of its own. -/
def alloc (family : Family) : Family := { family with next := family.next + 1 }

/-- The new handle belongs where the shared one does. -/
def share (family : Family) (handle : Nat) : Family where
  next := family.next + 1
  members := if handle ∈ family.members then family.members ++ [family.next] else family.members

/-- The members are the handles that lead to the cell. -/
structure Leads (family : Family) (store : Store α) (cell : Nat) : Prop where
  next : family.next = store.handles.length
  inside : cell < store.cells.length
  leads : ∀ handle, store.handles[handle]? = some cell ↔ handle ∈ family.members

variable {family : Family} {store after : Store α} {handle cell : Nat} {value : α} {change : α → α}

theorem leads_first (store : Store α) (value : α) :
    (first store.handles.length).Leads (store.alloc value) store.cells.length where
  next := by simp [first, Store.alloc]
  inside := by simp [Store.alloc]
  leads handle := by
    have old : store.handles[handle]? ≠ some store.cells.length := fun found =>
      absurd (store.inside _ (List.mem_of_getElem? found)) (Nat.lt_irrefl _)
    simp only [Store.alloc, first, List.mem_singleton]
    rcases Nat.lt_trichotomy handle store.handles.length with below | rfl | above
    · rw [List.getElem?_append_left below]
      exact ⟨fun found => absurd found old, fun same => absurd same (Nat.ne_of_lt below)⟩
    · simp
    · rw [List.getElem?_eq_none (by simpa using Nat.succ_le_of_lt above)]
      exact ⟨(fun found => nomatch found), fun same => absurd same (Nat.ne_of_gt above)⟩

/-- One more handle, which may lead to the cell or elsewhere. -/
theorem Leads.concat (leads : family.Leads store cell) {target : Nat} (handle : Nat) :
    (store.handles ++ [target])[handle]? = some cell ↔
      handle ∈ family.members ∨ handle = family.next ∧ target = cell := by
  rw [leads.next, ← leads.leads handle]
  rcases Nat.lt_trichotomy handle store.handles.length with below | rfl | above
  · rw [List.getElem?_append_left below]
    exact ⟨Or.inl, fun either => either.elim id fun last => absurd last.1 (Nat.ne_of_lt below)⟩
  · simp
  · rw [List.getElem?_eq_none (by simpa using Nat.succ_le_of_lt above), List.getElem?_eq_none (Nat.le_of_lt above)]
    exact ⟨fun found => (nomatch found),
      fun either => either.elim (fun found => (nomatch found)) fun last => absurd last.1 (Nat.ne_of_gt above)⟩

theorem Leads.alloc (leads : family.Leads store cell) (value : α) :
    family.alloc.Leads (store.alloc value) cell where
  next := by simp [Family.alloc, Store.alloc, leads.next]
  inside := by
    have inside := leads.inside
    simp only [Store.alloc, List.length_append]
    omega
  leads handle := by
    have elsewhere : store.cells.length ≠ cell := Nat.ne_of_gt leads.inside
    refine (leads.concat handle).trans ?_
    simp [Family.alloc, elsewhere]

theorem Leads.share (leads : family.Leads store cell) (shared : store.share handle = some after) :
    (family.share handle).Leads after cell := by
  obtain ⟨target, found, cells, handles⟩ := Store.share_inv shared
  have same : target = cell ↔ handle ∈ family.members := by
    rw [← leads.leads handle, found, Option.some.injEq]
  refine ⟨by simp [Family.share, handles, leads.next], cells ▸ leads.inside, fun other => ?_⟩
  rw [handles, leads.concat, same, Family.share]
  split
  · rename_i member
    simp [member]
  · rename_i foreign
    simp [foreign]

theorem Leads.modify (leads : family.Leads store cell) (modified : store.modify handle change = some after) :
    family.Leads after cell := by
  have handles := Store.handles_modify modified
  obtain ⟨_, _, rfl⟩ := Option.map_eq_some_iff.mp modified
  exact ⟨leads.next, by simpa only [List.length_modify] using leads.inside, leads.leads⟩

end Family
end Shared
