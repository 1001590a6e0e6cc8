import Mathlib.Algebra.Order.Group.Defs
import Mathlib.Algebra.Order.BigOperators.Group.List
import Mathlib.Order.Lattice
import Mathlib.Tactic.Abel

/-!
# Additive clocks

A clock measures the time between two instants. `within μ a b s t` is what it measures of an interval from `s` to `t`
between `a` and `b`.

* `IsClock` : nonnegative and additive;
* `within_add` : the measure of an interval is additive in the window;
* `sum_within_le` : the measures of disjoint intervals add up to at most that of the window.
-/

namespace ComplianceHub.Lib

variable {α K : Type} [LinearOrder α] [AddCommGroup K] [PartialOrder K]

structure IsClock (μ : α → α → K) : Prop where
  nonneg : ∀ a b, a ≤ b → 0 ≤ μ a b
  add : ∀ a b c, a ≤ b → b ≤ c → μ a b + μ b c = μ a c

theorem IsClock.self {μ : α → α → K} (h : IsClock μ) (a : α) : μ a a = 0 :=
  left_eq_add.mp (h.add a a a le_rfl le_rfl).symm

/-- An instant, moved into an interval. -/
def clip (s t x : α) : α := max s (min x t)

theorem clip_mono (s t : α) : Monotone (clip s t) := fun _ _ h => max_le_max le_rfl (min_le_min_right t h)

theorem clip_of_le {s t x : α} (h : x ≤ s) : clip s t x = s := max_eq_left ((min_le_left x t).trans h)

theorem clip_of_ge {s t x : α} (hst : s ≤ t) (h : t ≤ x) : clip s t x = t := by
  rw [clip, min_eq_right h, max_eq_right hst]

/-- The time of an interval between two instants. -/
def within (μ : α → α → K) (a b s t : α) : K := μ (clip s t a) (clip s t b)

section
variable {μ : α → α → K} {a b c s t : α}

theorem within_nonneg (hμ : IsClock μ) (hab : a ≤ b) : 0 ≤ within μ a b s t := hμ.nonneg _ _ (clip_mono s t hab)

theorem within_add (hμ : IsClock μ) (hab : a ≤ b) (hbc : b ≤ c) :
    within μ a b s t + within μ b c s t = within μ a c s t :=
  hμ.add _ _ _ (clip_mono s t hab) (clip_mono s t hbc)

/-- The measure of the clipped interval, as it is usually computed. -/
theorem within_eq (hμ : IsClock μ) (hab : a ≤ b) (hst : s ≤ t) :
    within μ a b s t = if min b t ≤ max a s then 0 else μ (max a s) (min b t) := by
  by_cases hempty : min b t ≤ max a s
  · have hsame : clip s t a = clip s t b := by
      rcases min_le_iff.mp hempty with hb | ht
      · rcases le_max_iff.mp hb with hba | hbs
        · rw [hab.antisymm hba]
        · rw [clip_of_le hbs, clip_of_le (hab.trans hbs)]
      · rcases le_max_iff.mp ht with hta | hts
        · rw [clip_of_ge hst hta, clip_of_ge hst (hta.trans hab)]
        · rw [clip, clip, max_eq_left ((min_le_right a t).trans hts), max_eq_left ((min_le_right b t).trans hts)]
    rw [if_pos hempty, within, hsame, hμ.self]
  · obtain ⟨hb, ht⟩ := lt_min_iff.mp (not_le.mp hempty)
    have hat : a ≤ t := (le_max_left a s).trans ht.le
    have hs : s ≤ min b t := (le_max_right a s).trans (not_le.mp hempty).le
    rw [if_neg hempty, within, clip, clip, min_eq_left hat, max_eq_right hs, max_comm]

theorem within_of_ge (hμ : IsClock μ) (hst : s ≤ t) (hab : a ≤ b) (h : t ≤ a) : within μ a b s t = 0 := by
  rw [within, clip_of_ge hst h, clip_of_ge hst (h.trans hab), hμ.self]

theorem within_of_le (hμ : IsClock μ) (hab : a ≤ b) (h : b ≤ s) : within μ a b s t = 0 := by
  rw [within, clip_of_le h, clip_of_le (hab.trans h), hμ.self]

end

/-- The intervals of a list, each from its first to its second instant, do not overlap. -/
def NonOverlapping (intervals : List (α × α)) : Prop := intervals.Pairwise fun i j => i.2 ≤ j.1 ∨ j.2 ≤ i.1

section
variable {μ : α → α → K} {a b s t : α}

/-- The window inside an interval. -/
theorem within_le_clip (hμ : IsClock μ) (hab : a ≤ b) (hst : s ≤ t) : within μ a b s t ≤ μ (clip a b s) (clip a b t) := by
  rw [within_eq hμ hab hst]
  split_ifs with hempty
  · exact hμ.nonneg _ _ (clip_mono a b hst)
  · have hlt := not_le.mp hempty
    have hsb : s ≤ b := (le_max_right a s).trans (hlt.le.trans (min_le_left b t))
    have hat : a ≤ min b t := (le_max_left a s).trans hlt.le
    rw [clip, clip, min_eq_left hsb, min_comm t b, max_eq_right hat]

/-- What is apart from an interval measures nothing inside it. -/
theorem within_clip_of_apart (hμ : IsClock μ) (hst : s ≤ t) {s' t' : α} (hst' : s' ≤ t') (h : t ≤ s' ∨ t' ≤ s)
    (hab : a ≤ b) : within μ (clip a b s) (clip a b t) s' t' = 0 := by
  have hmono := clip_mono a b hst
  rcases h with h | h
  · by_cases hb : clip a b t ≤ t
    · exact within_of_le hμ hmono (hb.trans h)
    · have hta : t ≤ a := by
        by_contra hat
        exact hb ((max_le (not_le.mp hat).le (min_le_left t b)))
      rw [within, clip_of_le hta, clip_of_le (hst.trans hta), hμ.self]
  · by_cases ha : s ≤ clip a b s
    · exact within_of_ge hμ hst' hmono (h.trans ha)
    · have hbs : b ≤ s := by
        by_contra hsb
        rw [clip, min_eq_left (not_le.mp hsb).le] at ha
        exact ha (le_max_right a s)
      rw [within, clip_of_ge hab hbs, clip_of_ge hab (hbs.trans hst), hμ.self]

end

variable [IsOrderedAddMonoid K]

/-- Intervals that do not overlap measure together at most what the window does. -/
theorem sum_within_le {μ : α → α → K} (hμ : IsClock μ) :
    ∀ (intervals : List (α × α)) (a b : α), a ≤ b → (∀ i ∈ intervals, i.1 ≤ i.2) → NonOverlapping intervals →
      (intervals.map fun i => within μ a b i.1 i.2).sum ≤ μ a b
  | [], a, b, hab, _, _ => hμ.nonneg a b hab
  | i :: rest, a, b, hab, hle, hapart => by
    obtain ⟨hfirst, hrest⟩ := List.pairwise_cons.mp hapart
    have hi := hle i List.mem_cons_self
    have hle : ∀ j ∈ rest, j.1 ≤ j.2 := fun j hj => hle j (List.mem_cons_of_mem _ hj)
    -- the window before, in and after the first interval
    have hbefore : a ≤ clip a b i.1 := le_max_left _ _
    have hin : clip a b i.1 ≤ clip a b i.2 := clip_mono a b hi
    have hafter : clip a b i.2 ≤ b := max_le hab (min_le_right _ _)
    have hsplit : ∀ j ∈ rest, within μ a b j.1 j.2 =
        within μ a (clip a b i.1) j.1 j.2 + within μ (clip a b i.2) b j.1 j.2 := by
      intro j hj
      rw [← within_add hμ hbefore (hin.trans hafter), ← within_add hμ hin hafter,
        within_clip_of_apart hμ hi (hle j hj) (hfirst j hj) hab, zero_add]
    rw [List.map_cons, List.sum_cons, List.map_congr_left hsplit, List.sum_map_add]
    calc within μ a b i.1 i.2 + ((rest.map fun j => within μ a (clip a b i.1) j.1 j.2).sum +
          (rest.map fun j => within μ (clip a b i.2) b j.1 j.2).sum)
        ≤ μ (clip a b i.1) (clip a b i.2) + (μ a (clip a b i.1) + μ (clip a b i.2) b) := by
          refine add_le_add (within_le_clip hμ hab hi) (add_le_add ?_ ?_)
          · exact sum_within_le hμ rest _ _ hbefore hle hrest
          · exact sum_within_le hμ rest _ _ hafter hle hrest
      _ = μ a (clip a b i.1) + (μ (clip a b i.1) (clip a b i.2) + μ (clip a b i.2) b) := by abel
      _ = μ a b := by rw [hμ.add _ _ _ hin hafter, hμ.add _ _ _ hbefore (hin.trans hafter)]

end ComplianceHub.Lib
