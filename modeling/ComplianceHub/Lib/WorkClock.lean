import ComplianceHub.Lib.IntOrder
import Mathlib.Order.Interval.Finset.Basic
import Mathlib.Data.Int.Interval
import Mathlib.Tactic.Ring

/-!
# Clocks that run only at working ticks

Time is the integers, a calendar is the set of its working ticks.

* `worked work a b` : the working ticks in `[a, b)`; additive in the end point (`worked_add`), monotone,
  constant over an idle stretch (`worked_idle`), full over a busy one (`worked_busy`), unchanged when the
  calendar is shifted (`worked_shift`);
* `timeLeft work t d` : the working ticks from `t` to `d`, negative once `d` has passed;
* `IsDeadline work a n d` : `d` is the earliest tick by which `n` working ticks have passed since `a`;
  computed stretch by stretch (`IsDeadline.prepend`, `isDeadline_of_busy`), with its time left
  (`IsDeadline.timeLeft_eq`).
-/

namespace ComplianceHub.WorkClock

variable {work : Int → Prop} [DecidablePred work]

/-- The number of working ticks in `[a, b)`. -/
def worked (work : Int → Prop) [DecidablePred work] (a b : Int) : Nat :=
  ((Finset.Ico a b).filter work).card

theorem worked_of_le {a b : Int} (h : b ≤ a) : worked work a b = 0 := by
  simp [worked, Finset.Ico_eq_empty_of_le h]

@[simp] theorem worked_self (a : Int) : worked work a a = 0 := worked_of_le le_rfl

theorem worked_add {a b c : Int} (hab : a ≤ b) (hbc : b ≤ c) :
    worked work a b + worked work b c = worked work a c := by
  unfold worked
  rw [← Finset.Ico_union_Ico_eq_Ico hab hbc, Finset.filter_union, Finset.card_union_of_disjoint]
  exact (Finset.Ico_disjoint_Ico_consecutive a b c).mono (Finset.filter_subset _ _) (Finset.filter_subset _ _)

theorem worked_mono_right {a b c : Int} (hbc : b ≤ c) : worked work a b ≤ worked work a c := by
  unfold worked
  exact Finset.card_le_card (Finset.filter_subset_filter _ (Finset.Ico_subset_Ico_right hbc))

theorem worked_mono_left {a b c : Int} (hab : a ≤ b) : worked work b c ≤ worked work a c := by
  unfold worked
  exact Finset.card_le_card (Finset.filter_subset_filter _ (Finset.Ico_subset_Ico_left hab))

/-- A tick worked before `b` is lost by starting at `b`. -/
theorem worked_lt_of_work {a b c v : Int} (hav : a ≤ v) (hvb : v < b) (hvc : v < c) (hv : work v) :
    worked work b c < worked work a c := by
  unfold worked
  apply Finset.card_lt_card
  rw [Finset.ssubset_iff_of_subset (Finset.filter_subset_filter _ (Finset.Ico_subset_Ico_left (hav.trans hvb.le)))]
  refine ⟨v, ?_, ?_⟩
  · rw [Finset.mem_filter, Finset.mem_Ico]
    exact ⟨⟨hav, hvc⟩, hv⟩
  · rw [Finset.mem_filter, Finset.mem_Ico]
    omega

theorem worked_idle {a b : Int} (h : ∀ t, a ≤ t → t < b → ¬ work t) : worked work a b = 0 := by
  unfold worked
  rw [Finset.card_eq_zero, Finset.filter_eq_empty_iff]
  intro t ht
  rw [Finset.mem_Ico] at ht
  exact h t ht.1 ht.2

theorem worked_busy {a b : Int} (h : ∀ t, a ≤ t → t < b → work t) : worked work a b = (b - a).toNat := by
  unfold worked
  rw [Finset.filter_true_of_mem, Int.card_Ico]
  intro t ht
  rw [Finset.mem_Ico] at ht
  exact h t ht.1 ht.2

/-- Shifting the calendar and the interval alike keeps the count. -/
theorem worked_shift (k a b : Int) : worked (fun t => work (t + k)) a b = worked work (a + k) (b + k) := by
  unfold worked
  apply Finset.card_nbij' (· + k) (· - k)
  · intro t ht
    simp only [Finset.coe_filter, Finset.mem_Ico, Set.mem_ofPred_eq] at ht ⊢
    exact ⟨by omega, ht.2⟩
  · intro t ht
    simp only [Finset.coe_filter, Finset.mem_Ico, Set.mem_ofPred_eq, sub_add_cancel] at ht ⊢
    exact ⟨by omega, ht.2⟩
  · intro t _
    exact add_sub_cancel_right t k
  · intro t _
    exact sub_add_cancel t k

theorem worked_le_length (a b : Int) : worked work a b ≤ (b - a).toNat := by
  unfold worked
  exact (Finset.card_filter_le _ _).trans_eq (Int.card_Ico a b)

/-- The working ticks from `t` to `d`, less those passed since `d`. -/
def timeLeft (work : Int → Prop) [DecidablePred work] (t d : Int) : Int := worked work t d - worked work d t

/-- The ticks still ahead are the time left, as long as it is positive. -/
theorem worked_eq_max_timeLeft (t d : Int) : (worked work t d : Int) = max 0 (timeLeft work t d) := by
  unfold timeLeft
  rcases le_total t d with h | h
  · rw [(worked_of_le h : worked work d t = 0), Nat.cast_zero, sub_zero, max_eq_right (Int.natCast_nonneg _)]
  · rw [(worked_of_le h : worked work t d = 0), Nat.cast_zero, zero_sub, max_eq_left (by omega)]

/-- `d` is the earliest tick by which `n` working ticks have passed since `a`. -/
structure IsDeadline (work : Int → Prop) [DecidablePred work] (a : Int) (n : Nat) (d : Int) : Prop where
  le : a ≤ d
  worked_eq : worked work a d = n
  worked_lt : ∀ t, t < d → worked work a t < n

/-- What is left of the allowance is what was not worked yet. -/
theorem IsDeadline.timeLeft_eq {a d t : Int} {n : Nat} (hd : IsDeadline work a n d) (hat : a ≤ t) :
    timeLeft work t d = n - worked work a t := by
  unfold timeLeft
  have heq := hd.worked_eq
  rcases le_total t d with h | h
  · rw [(worked_of_le h : worked work d t = 0), ← heq, ← worked_add hat h]
    push_cast
    ring
  · rw [(worked_of_le h : worked work t d = 0), ← worked_add hd.le h, heq]
    push_cast
    ring

/-- A stretch before the start adds the ticks worked in it to the allowance. -/
theorem IsDeadline.prepend {a b d : Int} {n : Nat} (hd : IsDeadline work b n d) (hab : a ≤ b) (hn : 0 < n) :
    IsDeadline work a (worked work a b + n) d := by
  refine ⟨hab.trans hd.le, ?_, fun t ht => ?_⟩
  · rw [← worked_add hab hd.le, hd.worked_eq]
  · rcases le_total b t with hbt | htb
    · rw [← worked_add hab hbt]
      exact Nat.add_lt_add_left (hd.worked_lt t ht) _
    · have h1 : worked work a t ≤ worked work a b := worked_mono_right htb
      omega

/-- An allowance that ends inside a busy stretch ends after its own length. -/
theorem isDeadline_of_busy {a : Int} {n : Nat} (hn : 0 < n) (h : ∀ t, a ≤ t → t < a + n → work t) :
    IsDeadline work a n (a + n) := by
  refine ⟨by omega, by rw [worked_busy h]; omega, fun t ht => ?_⟩
  exact (worked_le_length a t).trans_lt (by omega)

end ComplianceHub.WorkClock
