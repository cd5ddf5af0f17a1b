import Mathlib.Data.List.Nodup
import Mathlib.Data.List.Basic

namespace CheckKeeper.Keyed

/-! Lists of items that are told apart by a key.

Rows, jobs and the actions of a batch are kept this way: an item takes the place of
the one with its key, and comes last if there is none.
-/

variable {α : Type} {key : α → String} {item other : α} {items : List α} {k : String}

def replace (key : α → String) (item : α) (items : List α) : List α :=
  items.map fun old => if key old == key item then item else old

/-- Sets an item: in the place of the one with its key, or at the end. -/
def put (key : α → String) (item : α) (items : List α) : List α :=
  if items.any (key · == key item) then replace key item items else items ++ [item]

theorem find?_replace_self (there : items.any (key · == key item)) :
    (replace key item items).find? (key · == key item) = some item := by
  induction items with
  | nil => simp at there
  | cons head rest ih =>
      simp only [replace, List.map_cons, List.find?_cons]
      by_cases same : key head = key item
      · simp [same]
      · have later : rest.any (key · == key item) = true := by simpa [same] using there
        have head_kept : (key head == key item) = false := by simpa using same
        simp only [head_kept, Bool.false_eq_true, if_false]
        exact ih later

theorem find?_replace_other (differs : key item ≠ k) :
    (replace key item items).find? (key · == k) = items.find? (key · == k) := by
  induction items with
  | nil => rfl
  | cons head rest ih =>
      simp only [replace, List.map_cons, List.find?_cons] at ih ⊢
      rw [ih]
      by_cases same : key head = key item
      · have wanted : (key item == k) = false := by simpa using differs
        simp [same, wanted]
      · have head_kept : (key head == key item) = false := by simpa using same
        simp only [head_kept, Bool.false_eq_true, if_false]

theorem find?_put :
    (put key item items).find? (key · == k) =
      if key item = k then some item else items.find? (key · == k) := by
  unfold put
  split
  · rename_i there
    by_cases wanted : key item = k
    · subst wanted
      rw [if_pos rfl]
      exact find?_replace_self there
    · rw [if_neg wanted]
      exact find?_replace_other wanted
  · rename_i absent
    by_cases wanted : key item = k
    · have none_found : items.find? (key · == k) = none := by
        simpa [List.find?_eq_none, ← wanted] using absent
      simp [List.find?_append, none_found, wanted]
    · simp [List.find?_append, wanted]

theorem mem_put (member : other ∈ put key item items) : other = item ∨ other ∈ items := by
  unfold put replace at member
  split at member
  · obtain ⟨old, inside, rfl⟩ := List.mem_map.mp member
    by_cases same : key old = key item
    · simp [same]
    · simp [same, inside]
  · rcases List.mem_append.mp member with inside | last
    · exact Or.inr inside
    · exact Or.inl (List.mem_singleton.mp last)

/-- An item that is set is the only one with its key. -/
theorem eq_of_mem_put (member : other ∈ put key item items) (same : key other = key item) :
    other = item := by
  unfold put replace at member
  split at member
  · obtain ⟨old, _, rfl⟩ := List.mem_map.mp member
    by_cases replaced : key old = key item
    · simp [replaced]
    · simp [replaced] at same
  · rename_i absent
    rcases List.mem_append.mp member with inside | last
    · have there : items.any (key · == key item) = true :=
        List.any_eq_true.mpr ⟨other, inside, by simpa using same⟩
      exact absurd there absent
    · exact List.mem_singleton.mp last

theorem mem_put_of_mem (member : other ∈ items) (differs : key other ≠ key item) :
    other ∈ put key item items := by
  unfold put replace
  split
  · exact List.mem_map.mpr ⟨other, member, by simp [differs]⟩
  · exact List.mem_append_left _ member

theorem map_key_put :
    (put key item items).map key =
      if key item ∈ items.map key then items.map key else items.map key ++ [key item] := by
  unfold put replace
  by_cases there : key item ∈ items.map key
  · have found : items.any (key · == key item) = true := by simpa using there
    rw [if_pos found, if_pos there, List.map_map]
    apply List.map_congr_left
    intro old _
    by_cases same : key old = key item <;> simp [same]
  · have absent : ¬ items.any (key · == key item) = true := by simpa using there
    rw [if_neg absent, if_neg there]
    simp

theorem nodup_put (distinct : (items.map key).Nodup) : ((put key item items).map key).Nodup := by
  rw [map_key_put]
  split
  · exact distinct
  · rename_i absent
    rw [List.nodup_append]
    refine ⟨distinct, List.nodup_singleton _, ?_⟩
    intro a inside b last same
    rw [List.mem_singleton] at last
    exact absent (by rw [← last, ← same]; exact inside)

theorem mem_put_self : item ∈ put key item items := by
  unfold put replace
  split
  · rename_i there
    obtain ⟨old, inside, same⟩ := List.any_eq_true.mp there
    exact List.mem_map.mpr ⟨old, inside, if_pos same⟩
  · exact List.mem_append_right _ (List.mem_singleton_self item)

/-- To set an item that is there changes nothing. -/
theorem put_of_mem (distinct : (items.map key).Nodup) (member : item ∈ items) :
    put key item items = items := by
  have there : items.any (key · == key item) = true :=
    List.any_eq_true.mpr ⟨item, member, by simp⟩
  rw [put, if_pos there, replace]
  refine (List.map_congr_left fun old inside => ?_).trans (List.map_id items)
  by_cases same : key old = key item
  · simp [List.inj_on_of_nodup_map distinct inside member same]
  · simp [same]

/-- A selection that sees neither the item nor any that it replaces stays as it is. -/
theorem filter_put_of_unseen {p : α → Bool} (unseen : p item = false)
    (hidden : ∀ old ∈ items, key old = key item → p old = false) :
    (put key item items).filter p = items.filter p := by
  unfold put replace
  split
  · rename_i there
    clear there
    induction items with
    | nil => rfl
    | cons head rest ih =>
        have rest_same := ih fun old member => hidden old (List.mem_cons_of_mem _ member)
        by_cases same : key head = key item
        · have head_hidden := hidden head List.mem_cons_self same
          simpa [same, unseen, head_hidden] using rest_same
        · simp only [List.map_cons, beq_iff_eq, same, if_false, List.filter_cons]
          simp only [beq_iff_eq] at rest_same
          rw [rest_same]
  · simp [unseen]

theorem find?_of_mem (distinct : (items.map key).Nodup) (member : item ∈ items) :
    items.find? (key · == key item) = some item := by
  induction items with
  | nil => simp at member
  | cons head rest ih =>
      rw [List.map_cons, List.nodup_cons] at distinct
      rcases List.mem_cons.mp member with rfl | later
      · simp
      · have differs : key head ≠ key item := fun same =>
          distinct.1 (same ▸ List.mem_map_of_mem later)
        simp [differs, ih distinct.2 later]

theorem filter_eq_find? (distinct : (items.map key).Nodup) (k : String) :
    items.filter (key · == k) = (items.find? (key · == k)).toList := by
  induction items with
  | nil => rfl
  | cons head rest ih =>
      rw [List.map_cons, List.nodup_cons] at distinct
      by_cases hit : key head = k
      · have alone : rest.filter (key · == k) = [] := by
          rw [List.filter_eq_nil_iff]
          intro later member found
          have same : key later = k := by simpa using found
          exact distinct.1 (by rw [hit, ← same]; exact List.mem_map_of_mem member)
        simp [hit, alone]
      · simp [hit, ih distinct.2]

/-- A selection that only sees the item, and what it replaces, comes to the item. -/
theorem filter_put_of_own {p : α → Bool} (distinct : (items.map key).Nodup) (own : p item = true)
    (alone : ∀ old ∈ items, p old = true → key old = key item) :
    (put key item items).filter p = [item] := by
  have narrow : (put key item items).filter p =
      ((put key item items).filter (key · == key item)).filter p := by
    rw [List.filter_filter]
    apply List.filter_congr
    intro found member
    cases seen : p found with
    | false => rfl
    | true =>
        rcases mem_put member with rfl | old
        · simp
        · simp [alone found old seen]
  rw [narrow, filter_eq_find? (nodup_put distinct), find?_put, if_pos rfl]
  simp [own]

/-- A selection that sees the item, and all that it replaces, selects before or after. -/
theorem filter_put_of_seen {p : α → Bool} (seen : p item = true)
    (shown : ∀ old ∈ items, key old = key item → p old = true) :
    (put key item items).filter p = put key item (items.filter p) := by
  have there : (items.filter p).any (key · == key item) = items.any (key · == key item) := by
    rw [List.any_filter, Bool.eq_iff_iff, List.any_eq_true, List.any_eq_true]
    refine exists_congr fun old => and_congr_right fun member => ?_
    rw [Bool.and_eq_true, and_iff_right_iff_imp, beq_iff_eq]
    exact shown old member
  unfold put replace
  rw [there]
  split
  · rw [List.filter_map]
    congr 1
    apply List.filter_congr
    intro old member
    by_cases same : key old = key item
    · simp [same, seen, shown old member same]
    · simp [same]
  · rw [List.filter_append, List.filter_cons_of_pos seen, List.filter_nil]

theorem map_put {β : Type} {f : α → β} {other : β → String} (same : ∀ item, other (f item) = key item) :
    (put key item items).map f = put other (f item) (items.map f) := by
  have there : (items.map f).any (other · == other (f item)) = items.any (key · == key item) := by
    rw [List.any_map]
    simp only [Function.comp_def, same]
  unfold put replace
  rw [there]
  split
  · rw [List.map_map, List.map_map]
    apply List.map_congr_left
    intro old _
    by_cases hit : key old = key item <;> simp [same, hit]
  · rw [List.map_append, List.map_singleton]

end CheckKeeper.Keyed
