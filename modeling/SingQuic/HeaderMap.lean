import SingQuic.Address

/-! The header map of the HTTP library: names in the order in which they came in, each with its
values in order. The library makes room for so many fields at most; a map that grows past that
field by field is left out. -/
namespace SingQuic
open Wire

/-- A name of the header map with its first value and the others. -/
structure HeaderEntry where
  name : String
  value : Bytes
  others : List Bytes
  deriving DecidableEq, Repr

/-- The values of a name, each under the name. -/
def HeaderEntry.fields (entry : HeaderEntry) : List (String × Bytes) :=
  (entry.name, entry.value) :: entry.others.map (entry.name, ·)

/-- A further value joins the others of its name; a new name comes last. -/
def appendEntry (name : String) (value : Bytes) : List HeaderEntry → List HeaderEntry
  | [] => [⟨name, value, []⟩]
  | entry :: entries =>
    if entry.name = name then { entry with others := entry.others ++ [value] } :: entries
    else entry :: appendEntry name value entries

theorem names_appendEntry {name : String} {value : Bytes} {entries : List HeaderEntry} :
    (appendEntry name value entries).map HeaderEntry.name =
      if name ∈ entries.map HeaderEntry.name then entries.map HeaderEntry.name
      else entries.map HeaderEntry.name ++ [name] := by
  induction entries with
  | nil => rfl
  | cons entry entries ih =>
    rw [appendEntry]
    by_cases same : entry.name = name
    · rw [if_pos same, if_pos (by simp [same])]
      rfl
    · have other : name ≠ entry.name := Ne.symm same
      rw [if_neg same, List.map_cons, List.map_cons, ih]
      by_cases member : name ∈ entries.map HeaderEntry.name
      · rw [if_pos member, if_pos (List.mem_cons_of_mem _ member)]
      · rw [if_neg member, if_neg (by simp [other, member]), List.cons_append]

/-- The values of a name give way to one, in their place. -/
def insertEntry (name : String) (value : Bytes) : List HeaderEntry → List HeaderEntry
  | [] => [⟨name, value, []⟩]
  | entry :: entries =>
    if entry.name = name then ⟨name, value, []⟩ :: entries else entry :: insertEntry name value entries

/-- The last entry moves into the place of the one that is removed. -/
def removeEntry (name : String) : List HeaderEntry → List HeaderEntry
  | [] => []
  | entry :: entries =>
    if entry.name = name then entries.getLast?.toList ++ entries.dropLast
    else entry :: removeEntry name entries

theorem names_insertEntry {name : String} {value : Bytes} {entries : List HeaderEntry} :
    (insertEntry name value entries).map HeaderEntry.name =
      (appendEntry name value entries).map HeaderEntry.name := by
  induction entries with
  | nil => rfl
  | cons entry entries ih =>
    rw [insertEntry, appendEntry]
    split
    · rename_i same
      rw [List.map_cons, List.map_cons, same]
    · rw [List.map_cons, List.map_cons, ih]

/-- Up to their order, the entries of the other names stay. -/
theorem perm_removeEntry {name : String} {entries : List HeaderEntry}
    (distinct : (entries.map HeaderEntry.name).Nodup) :
    (removeEntry name entries).Perm (entries.filter (·.name ≠ name)) := by
  induction entries with
  | nil => exact List.Perm.refl _
  | cons entry entries ih =>
    obtain ⟨fresh, later⟩ := List.nodup_cons.mp distinct
    rw [removeEntry]
    by_cases same : entry.name = name
    · have others : entries.filter (·.name ≠ name) = entries := by
        refine List.filter_eq_self.mpr fun other member => decide_eq_true fun again => fresh ?_
        exact List.mem_map.mpr ⟨other, member, again.trans same.symm⟩
      rw [if_pos same, List.filter_cons_of_neg (by simp [same]), others]
      cases entries using List.reverseRecOn with
      | nil => exact List.Perm.refl _
      | append_singleton front last =>
        rw [List.getLast?_concat, List.dropLast_concat]
        exact List.perm_append_comm
    · rw [if_neg same, List.filter_cons_of_pos (by simp [same])]
      exact (ih later).cons entry

structure HeaderMap where
  entries : List HeaderEntry
  distinct : (entries.map HeaderEntry.name).Nodup
  deriving DecidableEq, Repr

namespace HeaderMap

def empty : HeaderMap := ⟨[], List.nodup_nil⟩

/-- With a third more slots than fields these are `2 ^ 15` slots, which is the limit. -/
def maxCapacity : Nat := 24576

/-- A new map has room for the fields, or the library panics. -/
def withCapacity (capacity : Nat) : Option HeaderMap :=
  if capacity ≤ maxCapacity then some empty else none

/-- The first value under a name. -/
def get (self : HeaderMap) (name : String) : Option Bytes :=
  (self.entries.find? (·.name = name)).map HeaderEntry.value

def append (self : HeaderMap) (name : String) (value : Bytes) : HeaderMap where
  entries := appendEntry name value self.entries
  distinct := by
    rw [names_appendEntry]
    split_ifs with member
    · exact self.distinct
    · refine List.nodup_append.mpr ⟨self.distinct, List.nodup_singleton _, ?_⟩
      rintro other known _ (last : _ ∈ [name]) rfl
      exact member (List.mem_singleton.mp last ▸ known)

/-- Every value of the map with its name, as a `HeaderIter` gives them. -/
def iter (self : HeaderMap) : List (String × Bytes) := self.entries.flatMap HeaderEntry.fields

def insert (self : HeaderMap) (name : String) (value : Bytes) : HeaderMap where
  entries := insertEntry name value self.entries
  distinct := by
    rw [names_insertEntry]
    exact (self.append name value).distinct

def remove (self : HeaderMap) (name : String) : HeaderMap where
  entries := removeEntry name self.entries
  distinct := by
    refine ((perm_removeEntry self.distinct).map _).nodup_iff.mpr ?_
    exact self.distinct.sublist (List.filter_sublist.map _)

def containsKey (self : HeaderMap) (name : String) : Bool := self.entries.any (·.name = name)

/-- All values under a name, in order. -/
def getAll (self : HeaderMap) (name : String) : List Bytes :=
  (self.entries.find? (·.name = name)).elim [] fun entry => entry.value :: entry.others

variable {self : HeaderMap} {name other : String} {value : Bytes} {entry : HeaderEntry}

theorem getAll_of_mem (member : entry ∈ self.entries) :
    self.getAll entry.name = entry.value :: entry.others := by
  obtain ⟨front, back, split⟩ := List.append_of_mem member
  have distinct := self.distinct
  rw [split, List.map_append, List.nodup_append] at distinct
  have before : front.find? (·.name = entry.name) = none :=
    List.find?_eq_none.mpr fun earlier inside => by
      simpa using distinct.2.2 _ (List.mem_map_of_mem inside) _ List.mem_cons_self
  rw [getAll, split, List.find?_append, before, Option.none_or, List.find?_cons_of_pos (by simp)]
  rfl

theorem getAll_of_absent (absent : name ∉ self.entries.map HeaderEntry.name) : self.getAll name = [] := by
  have none : self.entries.find? (·.name = name) = none :=
    List.find?_eq_none.mpr fun entry inside same =>
      absent (List.mem_map.mpr ⟨entry, inside, of_decide_eq_true same⟩)
  rw [getAll, none]
  rfl

/-- Values are those of an entry, or there are none. -/
theorem getAll_cases (self : HeaderMap) (name : String) :
    (∃ entry ∈ self.entries, entry.name = name) ∨ name ∉ self.entries.map HeaderEntry.name := by
  by_cases member : name ∈ self.entries.map HeaderEntry.name
  · exact Or.inl (List.mem_map.mp member)
  · exact Or.inr member

theorem containsKey_eq_false : self.containsKey name = false ↔ self.getAll name = [] := by
  rcases self.getAll_cases name with ⟨entry, member, rfl⟩ | absent
  · rw [getAll_of_mem member]
    simp only [containsKey, reduceCtorEq, iff_false, Bool.not_eq_false, List.any_eq_true]
    exact ⟨entry, member, decide_eq_true rfl⟩
  · rw [getAll_of_absent absent]
    simp only [containsKey, iff_true, List.any_eq_false, decide_eq_true_eq]
    exact fun entry member same => absent (List.mem_map.mpr ⟨entry, member, same⟩)

@[simp] theorem getAll_remove :
    (self.remove name).getAll other = if other = name then [] else self.getAll other := by
  have kept : ∀ entry, entry ∈ (self.remove name).entries ↔ entry ∈ self.entries ∧ entry.name ≠ name := by
    intro entry
    rw [remove, (perm_removeEntry self.distinct).mem_iff, List.mem_filter, decide_eq_true_eq]
  split_ifs with same
  · refine getAll_of_absent fun member => ?_
    obtain ⟨entry, inside, named⟩ := List.mem_map.mp member
    exact ((kept entry).mp inside).2 (named.trans same)
  · rcases self.getAll_cases other with ⟨entry, member, rfl⟩ | absent
    · rw [getAll_of_mem member, getAll_of_mem ((kept entry).mpr ⟨member, same⟩)]
    · rw [getAll_of_absent absent]
      refine getAll_of_absent fun member => absent ?_
      obtain ⟨entry, inside, named⟩ := List.mem_map.mp member
      exact List.mem_map.mpr ⟨entry, ((kept entry).mp inside).1, named⟩

theorem find?_insertEntry (entries : List HeaderEntry) :
    (insertEntry name value entries).find? (·.name = other) =
      if other = name then some ⟨name, value, []⟩ else entries.find? (·.name = other) := by
  induction entries with
  | nil =>
    by_cases same : other = name
    · simp [insertEntry, same]
    · simp [insertEntry, same, Ne.symm same]
  | cons entry entries ih =>
    rw [insertEntry]
    by_cases here : entry.name = name
    · by_cases same : other = name
      · simp [here, same]
      · simp [here, same, Ne.symm same]
    · rw [if_neg here, List.find?_cons, List.find?_cons, ih]
      by_cases same : other = name
      · simp [same, here]
      · simp [same]

@[simp] theorem getAll_insert :
    (self.insert name value).getAll other = if other = name then [value] else self.getAll other := by
  rw [getAll, insert, find?_insertEntry]
  split
  · rfl
  · rfl

/-- A value that is the only one of its name already changes nothing. -/
theorem insert_eq_self (only : self.getAll name = [value]) : self.insert name value = self := by
  have same : insertEntry name value self.entries = self.entries := by
    rw [getAll] at only
    generalize self.entries = entries at only
    induction entries with
    | nil => cases only
    | cons entry entries ih =>
      rw [insertEntry]
      by_cases here : entry.name = name
      · rw [List.find?_cons_of_pos (by simp [here])] at only
        obtain ⟨known, first, others⟩ := entry
        obtain ⟨rfl, rfl⟩ := List.cons.inj only
        cases here
        exact if_pos rfl
      · rw [List.find?_cons_of_neg (by simp [here])] at only
        rw [if_neg here, ih only]
  cases self
  exact (HeaderMap.mk.injEq ..).mpr same

theorem appendEntry_append {front : List HeaderEntry}
    (fresh : name ∉ front.map HeaderEntry.name) (back : List HeaderEntry) :
    appendEntry name value (front ++ back) = front ++ appendEntry name value back := by
  induction front with
  | nil => rfl
  | cons entry front ih =>
    obtain ⟨other, later⟩ := List.ne_and_not_mem_of_not_mem_cons fresh
    rw [List.cons_append, appendEntry, if_neg (Ne.symm other), ih later, List.cons_append]

/-- Further values of the last name. -/
theorem foldl_others {front : List HeaderEntry}
    (fresh : name ∉ front.map HeaderEntry.name) (value : Bytes) (others more : List Bytes) :
    (more.map (name, ·)).foldl (fun entries field => appendEntry field.1 field.2 entries)
      (front ++ [⟨name, value, others⟩]) = front ++ [⟨name, value, others ++ more⟩] := by
  induction more generalizing others with
  | nil => rw [List.append_nil]; rfl
  | cons next more ih =>
    have taken : appendEntry name next [⟨name, value, others⟩] = [⟨name, value, others ++ [next]⟩] := if_pos rfl
    rw [List.map_cons, List.foldl_cons, appendEntry_append fresh, taken, ih, List.append_assoc]
    rfl

theorem foldl_fields {front entries : List HeaderEntry}
    (distinct : ((front ++ entries).map HeaderEntry.name).Nodup) :
    (entries.flatMap HeaderEntry.fields).foldl (fun entries field => appendEntry field.1 field.2 entries) front =
      front ++ entries := by
  induction entries generalizing front with
  | nil => rw [List.append_nil]; rfl
  | cons entry entries ih =>
    have fresh : entry.name ∉ front.map HeaderEntry.name := by
      rw [List.map_append, List.nodup_append] at distinct
      exact fun member => distinct.2.2 _ member _ (List.mem_cons_self ..) rfl
    have first : appendEntry entry.name entry.value (front ++ []) = front ++ [⟨entry.name, entry.value, []⟩] :=
      appendEntry_append fresh []
    rw [List.append_nil] at first
    rw [List.flatMap_cons, List.foldl_append, HeaderEntry.fields, List.foldl_cons, first]
    have rest := foldl_others fresh entry.value [] entry.others
    rw [List.nil_append] at rest
    have joined : front ++ entry :: entries = (front ++ [entry]) ++ entries := by
      rw [List.append_assoc, List.singleton_append]
    rw [joined] at distinct ⊢
    exact (congrArg (List.foldl _ · _) rest).trans (ih distinct)

theorem entries_foldl (fields : List (String × Bytes)) (self : HeaderMap) :
    (fields.foldl (fun map field => map.append field.1 field.2) self).entries =
      fields.foldl (fun entries field => appendEntry field.1 field.2 entries) self.entries := by
  induction fields generalizing self with
  | nil => rfl
  | cons field fields ih => rw [List.foldl_cons, List.foldl_cons, ih]; rfl

/-- The fields of a map make up the map again. -/
theorem foldl_iter (self : HeaderMap) :
    self.iter.foldl (fun map field => map.append field.1 field.2) empty = self := by
  have entries := entries_foldl self.iter empty
  rw [iter, empty, foldl_fields (by rw [List.nil_append]; exact self.distinct), List.nil_append] at entries
  rw [iter]
  cases self
  exact (HeaderMap.mk.injEq ..).mpr entries

end HeaderMap

end SingQuic
