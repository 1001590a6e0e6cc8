import Mathlib.Data.List.Perm.Basic
import Mathlib.Order.Lattice

/-!
# Sorting by a comparison

* `mergeSort_eq_of_perm` : a strictly sorted list is what any of its permutations sorts to;
* `mergeSort_strict` : a list without ties sorts to a strictly sorted one;
* `filter_mergeSort_of_tied`, `find?_mergeSort` : tied items keep their order, so the first item with a property in the
  sorted list is the first smallest one with it.
-/

namespace ComplianceHub.Lib

variable {α : Type} {cmp : α → α → Ordering} [Std.TransCmp cmp] {xs items : List α}

theorem pairwise_mergeSort_isLE (xs : List α) :
    (xs.mergeSort fun a b => (cmp a b).isLE).Pairwise fun a b => (cmp a b).isLE = true := by
  refine List.pairwise_mergeSort (fun a b c => Std.TransCmp.isLE_trans) (fun a b => ?_) _
  rw [show cmp b a = (cmp a b).swap from Std.OrientedCmp.eq_swap]
  cases cmp a b <;> rfl

theorem not_isLE_of_lt {a b : α} (h : cmp a b = .lt) : (cmp b a).isLE ≠ true := by
  rw [show cmp b a = (cmp a b).swap from Std.OrientedCmp.eq_swap, h]
  decide

theorem mergeSort_eq_of_perm (hperm : xs.Perm items) (hlt : items.Pairwise fun a b => cmp a b = .lt) :
    xs.mergeSort (fun a b => (cmp a b).isLE) = items := by
  have hsorted := (List.mergeSort_perm xs fun a b => (cmp a b).isLE).trans hperm
  refine @List.Perm.eq_of_pairwise _ (fun a b => (cmp a b).isLE) _ _ ?_ ?_ ?_ hsorted
  · -- two items that compare both ways are one item
    intro a b ha hb hab hba
    exact List.Pairwise.forall_of_forall_of_flip (R := fun a b : α => (cmp a b).isLE → (cmp b a).isLE → a = b)
      (fun _ _ _ _ => rfl) (hlt.imp fun h _ hba => absurd hba (not_isLE_of_lt h))
      (hlt.imp fun h hba _ => absurd hba (not_isLE_of_lt h)) (hsorted.mem_iff.mp ha) hb hab hba
  · exact pairwise_mergeSort_isLE xs
  · exact hlt.imp fun h => by rw [h]; rfl

theorem mergeSort_strict (h : xs.Pairwise fun a b => cmp a b ≠ .eq) :
    (xs.mergeSort fun a b => (cmp a b).isLE).Pairwise fun a b => cmp a b = .lt := by
  have hne : (xs.mergeSort fun a b => (cmp a b).isLE).Pairwise fun a b => cmp a b ≠ .eq := by
    refine ((List.mergeSort_perm xs _).pairwise_iff fun {a b} hab hba => hab ?_).mpr h
    rw [show cmp a b = (cmp b a).swap from Std.OrientedCmp.eq_swap, hba]
    rfl
  refine (pairwise_mergeSort_isLE xs).imp₂ (fun a b hle hne => ?_) hne
  cases hcmp : cmp a b with
  | lt => rfl
  | eq => exact absurd hcmp hne
  | gt =>
    rw [hcmp] at hle
    cases hle

/-- Without ties the order of the items does not matter. -/
theorem mergeSort_congr {ys : List α} (hperm : xs.Perm ys) (h : ys.Pairwise fun a b => cmp a b ≠ .eq) :
    (xs.mergeSort fun a b => (cmp a b).isLE) = ys.mergeSort fun a b => (cmp a b).isLE :=
  mergeSort_eq_of_perm (hperm.trans (List.mergeSort_perm ys _).symm) (mergeSort_strict h)

/-! ## Stability -/

section
variable {le : α → α → Bool} (htrans : ∀ a b c : α, le a b = true → le b c = true → le a c = true)
  (htotal : ∀ a b : α, (le a b || le b a) = true)
include htrans htotal

theorem filter_mergeSort_of_tied {q : α → Bool} (xs : List α)
    (h : ∀ a ∈ xs, ∀ b ∈ xs, q a = true → q b = true → le a b = true) : (xs.mergeSort le).filter q = xs.filter q := by
  have htied : (xs.filter q).Pairwise fun a b => le a b = true := by
    refine List.pairwise_of_forall_mem_list fun a ha b hb => ?_
    obtain ⟨ha, hqa⟩ := List.mem_filter.mp ha
    obtain ⟨hb, hqb⟩ := List.mem_filter.mp hb
    exact h a ha b hb hqa hqb
  have hsub : ((xs.filter q).filter q).Sublist ((xs.mergeSort le).filter q) :=
    (List.sublist_mergeSort htrans htotal htied List.filter_sublist).filter q
  rw [List.filter_filter] at hsub
  simp only [Bool.and_self] at hsub
  refine (hsub.eq_of_length ?_).symm
  exact ((List.mergeSort_perm xs le).filter q).length_eq.symm

/-- The first item with a property in the sorted list is the first smallest one with it. -/
theorem find?_mergeSort (p : α → Bool) (xs : List α) :
    (xs.mergeSort le).find? p = xs.find? fun a => p a && xs.all fun b => !p b || le a b := by
  have hmem {a : α} : a ∈ xs.mergeSort le ↔ a ∈ xs := (List.mergeSort_perm xs le).mem_iff
  cases hfound : (xs.mergeSort le).find? p with
  | none =>
    refine (List.find?_eq_none.mpr fun a ha => ?_).symm
    have hnot := List.find?_eq_none.mp hfound a (hmem.mpr ha)
    simp [hnot]
  | some a =>
    obtain ⟨hp, before, after, hsplit, hbefore⟩ := List.find?_eq_some_iff_append.mp hfound
    have hsorted : (before ++ a :: after).Pairwise fun a b => le a b = true := by
      rw [← hsplit]
      exact List.pairwise_mergeSort htrans htotal xs
    have hleast (b : α) (hb : b ∈ xs) (hpb : p b = true) : le a b = true := by
      rcases List.mem_append.mp (hsplit ▸ hmem.mpr hb) with hb | hb
      · have hnot := hbefore b hb
        simp [hpb] at hnot
      · rcases List.mem_cons.mp hb with rfl | hb
        · have hself := htotal b b
          rwa [Bool.or_self] at hself
        · exact (List.pairwise_cons.mp (List.pairwise_append.mp hsorted).2.1).1 b hb
    have hq : (p a && xs.all fun b => !p b || le a b) = true := by
      rw [hp, Bool.true_and, List.all_eq_true]
      intro b hb
      cases hpb : p b with
      | false => rfl
      | true => simpa using hleast b hb hpb
    have hfirst : (xs.mergeSort le).find? (fun a => p a && xs.all fun b => !p b || le a b) = some a := by
      refine List.find?_eq_some_iff_append.mpr ⟨hq, before, after, hsplit, fun b hb => ?_⟩
      have hnot := hbefore b hb
      rw [Bool.not_eq_true'] at hnot ⊢
      rw [hnot, Bool.false_and]
    rw [← hfirst, ← List.head?_filter, ← List.head?_filter, filter_mergeSort_of_tied htrans htotal]
    intro b _ c hc hqb hqc
    rw [Bool.and_eq_true, List.all_eq_true] at hqb hqc
    simpa [hqc.1] using hqb.2 c hc

end

end ComplianceHub.Lib
