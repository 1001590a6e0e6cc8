import Mathlib.Data.List.Nodup

/-!
# Rows of a table

* `map_column_of_change` : a change of some rows leaves the columns that it leaves in each of them;
* `mem_change` : a row after a change is a changed one, or one that the change has passed over;
* `nodup_column_concat`, `nodup_ids_concat` : a new row keeps a column without duplicates, where its value is not there
  or comes after all;
* `find?_of_unique`, `filter_of_unique` : a lookup, and a selection, that only one row satisfies.
-/

namespace ComplianceHub.Lib

variable {α β : Type} {rows : List α} {P : α → Prop} [DecidablePred P] {f : α → α} {column : α → β} {row new : α}

theorem map_column_of_change (h : ∀ row ∈ rows, P row → column (f row) = column row) :
    (rows.map fun row => if P row then f row else row).map column = rows.map column := by
  rw [List.map_map]
  apply List.map_congr_left
  intro row hrow
  show column (if P row then f row else row) = column row
  split_ifs with hP
  · exact h row hrow hP
  · rfl

theorem mem_change (h : row ∈ rows.map fun row => if P row then f row else row) :
    (∃ old ∈ rows, P old ∧ row = f old) ∨ row ∈ rows ∧ ¬ P row := by
  obtain ⟨old, hold, rfl⟩ := List.mem_map.mp h
  by_cases hP : P old
  · rw [if_pos hP]
    exact .inl ⟨old, hold, hP, rfl⟩
  · rw [if_neg hP]
    exact .inr ⟨hold, hP⟩

theorem nodup_column_concat (h : (rows.map column).Nodup) (hnew : ∀ row ∈ rows, column row ≠ column new) :
    ((rows ++ [new]).map column).Nodup := by
  rw [List.map_append, List.map_singleton]
  refine List.nodup_append.mpr ⟨h, List.nodup_singleton _, ?_⟩
  intro value hvalue other hother
  obtain ⟨row, hrow, rfl⟩ := List.mem_map.mp hvalue
  rw [List.mem_singleton.mp hother]
  exact hnew row hrow

/-- Identifiers that are counted up. -/
theorem nodup_ids_concat {id : α → Nat} (h : (rows.map id).Nodup) (hbelow : ∀ row ∈ rows, id row < id new) :
    ((rows ++ [new]).map id).Nodup :=
  nodup_column_concat h fun row hrow => Nat.ne_of_lt (hbelow row hrow)

section
variable {p : α → Bool}

theorem find?_of_unique (hmem : row ∈ rows) (hrow : p row = true) (h : ∀ other ∈ rows, p other = true → other = row) :
    rows.find? p = some row := by
  obtain ⟨found, hfound⟩ : ∃ found, rows.find? p = some found := by
    rw [← Option.isSome_iff_exists, List.find?_isSome]
    exact ⟨row, hmem, hrow⟩
  rw [hfound, h found (List.mem_of_find?_eq_some hfound) (List.find?_some hfound)]

theorem filter_of_unique (hnodup : rows.Nodup) (hmem : row ∈ rows) (hrow : p row = true)
    (h : ∀ other ∈ rows, p other = true → other = row) : rows.filter p = [row] := by
  induction rows with
  | nil => cases hmem
  | cons head rest ih =>
    obtain ⟨hhead, hrest⟩ := List.nodup_cons.mp hnodup
    by_cases hp : p head = true
    · obtain rfl : head = row := h head List.mem_cons_self hp
      rw [List.filter_cons_of_pos hp, List.filter_eq_nil_iff.mpr]
      intro other hother hpo
      rw [h other (List.mem_cons_of_mem _ hother) hpo] at hother
      exact hhead hother
    · have hne : row ≠ head := by
        rintro rfl
        exact hp hrow
      rw [List.filter_cons_of_neg hp]
      exact ih hrest (List.mem_of_ne_of_mem hne hmem) fun other hother => h other (List.mem_cons_of_mem _ hother)

end

end ComplianceHub.Lib
