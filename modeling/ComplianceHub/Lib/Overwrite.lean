import Mathlib.Data.List.Basic

/-!
# Writes over values, one after the other

* `Overwriting` : each item writes over the values with some keys, whatever they hold, and leaves their keys;
* `foldl_key`, `foldl_untouched`, `foldl_touched` : after some items the key is the same, and a value that one of them
  touches is told by its key;
* `foldl_again` : some of the items written once more change nothing, where they are all that touch the value or none does.
-/

namespace ComplianceHub.Lib

structure Overwriting (ι κ α : Type) where
  key : α → κ
  touches : ι → κ → Bool
  value : ι → κ → α
  key_value : ∀ i k, key (value i k) = k

variable {ι κ α : Type} (o : Overwriting ι κ α)

def Overwriting.write (a : α) (i : ι) : α := if o.touches i (o.key a) then o.value i (o.key a) else a

variable {o} {items : List ι} {a b : α} {i : ι}

theorem write_key : o.key (o.write a i) = o.key a := by
  unfold Overwriting.write
  split_ifs
  · exact o.key_value i _
  · rfl

theorem write_touched (h : o.touches i (o.key a) = true) (hkey : o.key a = o.key b) : o.write a i = o.write b i := by
  unfold Overwriting.write
  rw [← hkey, if_pos h, if_pos h]

theorem write_untouched (h : o.touches i (o.key a) = false) : o.write a i = a := if_neg (Bool.eq_false_iff.mp h)

theorem foldl_key (items : List ι) (a : α) : o.key (items.foldl o.write a) = o.key a := by
  induction items generalizing a with
  | nil => rfl
  | cons item rest ih => exact (ih _).trans write_key

theorem foldl_untouched (h : ∀ i ∈ items, o.touches i (o.key a) = false) : items.foldl o.write a = a := by
  induction items with
  | nil => rfl
  | cons item rest ih =>
    rw [List.foldl_cons, write_untouched (h item List.mem_cons_self)]
    exact ih fun i hi => h i (List.mem_cons_of_mem _ hi)

/-- The last item that touches a value tells it. -/
theorem foldl_touched (hkey : o.key a = o.key b) (h : ∃ i ∈ items, o.touches i (o.key a) = true) :
    items.foldl o.write a = items.foldl o.write b := by
  induction items generalizing a b with
  | nil =>
    obtain ⟨i, hi, -⟩ := h
    cases hi
  | cons item rest ih =>
    rw [List.foldl_cons, List.foldl_cons]
    by_cases hrest : ∃ i ∈ rest, o.touches i (o.key a) = true
    · refine ih ?_ ?_
      · rw [write_key, write_key, hkey]
      · rw [write_key]
        exact hrest
    · obtain ⟨i, hi, htouches⟩ := h
      rcases List.mem_cons.mp hi with rfl | hi
      · rw [write_touched htouches hkey]
      · exact absurd ⟨i, hi, htouches⟩ hrest

/-- Items that leave a value may be left out. -/
theorem foldl_filter {p : ι → Bool} (h : ∀ i ∈ items, o.touches i (o.key a) = true → p i = true) :
    (items.filter p).foldl o.write a = items.foldl o.write a := by
  induction items generalizing a with
  | nil => rfl
  | cons item rest ih =>
    have hrest : ∀ i ∈ rest, o.touches i (o.key (o.write a item)) = true → p i = true := by
      intro i hi htouches
      rw [write_key] at htouches
      exact h i (List.mem_cons_of_mem _ hi) htouches
    rw [List.foldl_cons]
    by_cases hp : p item = true
    · rw [List.filter_cons_of_pos hp, List.foldl_cons]
      exact ih hrest
    · have hsame : o.write a item = a := write_untouched (Bool.eq_false_iff.mpr fun htouches =>
        hp (h item List.mem_cons_self htouches))
      rw [List.filter_cons_of_neg hp]
      rw [hsame] at hrest ⊢
      exact ih hrest

/-- Some of the items, written once more. -/
theorem foldl_again {p : ι → Bool} (h : (∀ i ∈ items, o.touches i (o.key a) = true → p i = true) ∨
      ∀ i ∈ items, o.touches i (o.key a) = true → p i = false) :
    (items.filter p).foldl o.write (items.foldl o.write a) = items.foldl o.write a := by
  have hkey : o.key (items.foldl o.write a) = o.key a := foldl_key items a
  by_cases htouched : ∃ i ∈ items.filter p, o.touches i (o.key a) = true
  · have hall : ∀ i ∈ items, o.touches i (o.key a) = true → p i = true := by
      refine h.resolve_right fun hnone => ?_
      obtain ⟨i, hi, htouches⟩ := htouched
      obtain ⟨hi, hp⟩ := List.mem_filter.mp hi
      rw [hnone i hi htouches] at hp
      cases hp
    rw [foldl_touched hkey (by rwa [hkey]), foldl_filter hall]
  · refine foldl_untouched fun i hi => ?_
    rw [hkey]
    exact Bool.eq_false_iff.mpr fun htouches => htouched ⟨i, hi, htouches⟩

end ComplianceHub.Lib
