import ComplianceHub.Sla.Turns

/-!
# The SLA deadline and the business clock are inverse

* `slaLoop_isDeadline`, `calculateSlaDeadline_isDeadline` : the deadline loop ends at the `IsDeadline` of the
  working seconds;
* `businessLoop_eq`, `calculateBusinessSeconds_eq` : the business loop counts the working seconds and never
  reaches its iteration guard;
* `calculateBusinessSeconds_calculateSlaDeadline` : the deadline is the earliest second by which the business
  clock shows the allowance.
-/

namespace ComplianceHub.Sla

open WorkClock

variable {isOfficeDay : Int → Bool} {config : TicketingConfig} {first last : Int}

/-! ## The deadline loop -/

theorem slaLoop_isDeadline (h : Shift config first last) :
    ∀ (guard : Nat) (s : Int) (n : Nat) (d : Int), 0 < n →
      slaLoop isOfficeDay config guard (ofSecond s) ((n : Rat) / 3600) = .ok d →
      ∃ e, d = ofSecond e ∧ IsDeadline (Working isOfficeDay config) s n e := by
  intro guard
  induction guard with
  | zero =>
    intro s n d hn hd
    unfold slaLoop at hd
    rw [if_neg (not_le.mpr (by positivity))] at hd
    cases hd
  | succ guard ih =>
    intro s n d hn hd
    have hx : (0 : Rat) < n / 3600 := by positivity
    have hmul : (n : Rat) / 3600 * 3600 = n := div_mul_cancel₀ _ (by norm_num)
    rw [← slaLoopWith_getManilaHour] at hd
    rcases slaLoopWith_turn h s hx with ⟨e, hse, -, hle, hw, hturn⟩ | ⟨s', hss', -, hlt, hturn⟩
    · -- the allowance ends in the block
      have hle : (n : Int) ≤ e - s := by
        rw [hmul] at hle
        exact_mod_cast hle
      rw [hturn _ (readsRight_getManilaHour s), hmul, show (n : Rat) * 1000 = ((n * 1000 : Int) : Rat) by push_cast; ring, jsRound_intCast,
        ofSecond_add_mul] at hd
      obtain rfl := Except.ok.inj hd
      exact ⟨s + n, rfl, isDeadline_of_busy hn fun t h1 h2 => hw t h1 (by omega)⟩
    · -- the turn takes off the seconds worked until `s'`
      have hlt : worked (Working isOfficeDay config) s s' < n := by
        rw [hmul] at hlt
        exact_mod_cast hlt
      obtain ⟨k, hk⟩ := Nat.exists_eq_add_of_lt hlt
      rw [hturn _ (readsRight_getManilaHour s), slaLoopWith_getManilaHour, ← sub_div,
        show (n : Rat) - worked (Working isOfficeDay config) s s' = ((k + 1 : Nat) : Rat) by rw [hk]; push_cast; ring] at hd
      obtain ⟨e, rfl, he⟩ := ih s' (k + 1) d (Nat.succ_pos k) hd
      rw [hk, add_assoc]
      exact ⟨e, rfl, he.prepend hss'.le (Nat.succ_pos k)⟩

/-- What an accepted deadline is: the earliest second by which `len` working seconds have passed. -/
theorem calculateSlaDeadline_isDeadline {start d : Int} {len : Nat} (hlen : 0 < len)
    (hd : calculateSlaDeadline isOfficeDay config start ((len : Rat) / 3600) = .ok d) :
    (∃ first last, Shift config first last) ∧
      ∃ e, d = ofSecond e ∧ IsDeadline (Working isOfficeDay config) ((start + manilaOffset) / 1000) len e := by
  unfold calculateSlaDeadline at hd
  simp only [setMilliseconds_eq] at hd
  rw [if_neg (not_le.mpr (by positivity))] at hd
  split at hd
  · cases hd
  · rename_i hv
    obtain ⟨first, last, h⟩ := exists_minutes (by simpa using hv : invalidSchedule config = false)
    exact ⟨⟨first, last, h⟩, slaLoop_isDeadline h _ _ _ _ hlen hd⟩

/-! ## The business loop -/

theorem businessLoop_eq (h : Shift config first last) (t : Int) :
    ∀ (guard : Nat) (s : Int) (acc : Rat), iterationsLeft config s t ≤ guard →
      businessLoop isOfficeDay config (ofSecond t) guard (ofSecond s) acc =
        .ok (acc + worked (Working isOfficeDay config) s t) := by
  intro guard
  induction guard with
  | zero =>
    intro s acc hg
    have := phase_pos config (s % 86400)
    unfold iterationsLeft at hg
    omega
  | succ guard ih =>
    intro s acc hg
    rw [← businessLoopWith_getManilaHour]
    by_cases hts : t ≤ s
    · rw [businessLoopWith_done hts, worked_of_le hts, Nat.cast_zero, add_zero]
    rcases businessLoopWith_turn h (not_le.mp hts) with ⟨-, hturn⟩ | ⟨s', hss', -, hleft, hover, hturn⟩
    · exact hturn _ (readsRight_getManilaHour s) (fun _ => readsRight_getManilaHour t) guard acc
    · rw [hturn _ (readsRight_getManilaHour s) fun _ => readsRight_getManilaHour t]
      rcases le_or_gt s' t with hle | hgt
      · have := hleft hle
        rw [businessLoopWith_getManilaHour, ih s' _ (by omega), ← worked_add hss'.le hle, Nat.cast_add, add_assoc]
      · -- the turn passed the end over an idle stretch
        have hidle : worked (Working isOfficeDay config) s t = 0 :=
          Nat.eq_zero_of_le_zero ((worked_mono_right hgt.le).trans_eq (hover hgt))
        rw [businessLoopWith_done hgt.le, hover hgt, hidle]

theorem iterationsLeft_le_maxIterations (h : Shift config first last) {s t : Int} (hst : s ≤ t) :
    iterationsLeft config s t ≤ maxIterations (ofSecond s) (ofSecond t) := by
  have hph := h.phase_le (s % 86400)
  have hceil : t / 86400 - s / 86400 ≤ ⌈((ofSecond t - ofSecond s : Int) : Rat) / 86400000⌉ := by
    rw [Int.le_ceil_iff, lt_div_iff₀ (by norm_num)]
    exact_mod_cast (by simp only [ofSecond]; omega : (t / 86400 - s / 86400 - 1) * 86400000 < ofSecond t - ofSecond s)
  unfold iterationsLeft maxIterations
  omega

/-- The business clock counts the working seconds of the interval. -/
theorem calculateBusinessSeconds_eq (h : Shift config first last) (start stop : Int) :
    calculateBusinessSeconds isOfficeDay config start stop =
      .ok (worked (Working isOfficeDay config) ((start + manilaOffset) / 1000) ((stop + manilaOffset) / 1000)) := by
  unfold calculateBusinessSeconds
  simp only [setMilliseconds_eq, ofSecond_le]
  split
  · rename_i hle
    rw [worked_of_le hle]
    rfl
  · rename_i hlt
    have hv : invalidSchedule config = false := by
      have h0 := h.nonneg
      have h1 := h.lt
      have h2 := h.le_day
      have h3 := h.not_lunch
      simp only [invalidSchedule, h.start_eq, h.end_eq, Bool.or_eq_false_iff, Bool.and_eq_false_iff,
        decide_eq_false_iff_not, not_lt, ge_iff_le, gt_iff_lt, not_le]
      rw [le_div_iff₀ (by norm_num), div_le_iff₀ (by norm_num), div_lt_div_iff_of_pos_right (by norm_num),
        div_lt_iff₀ (by norm_num), lt_div_iff₀ (by norm_num)]
      norm_num
      refine ⟨⟨⟨by exact_mod_cast h0, by exact_mod_cast h2⟩, by exact_mod_cast h1⟩, ?_⟩
      rcases lt_or_ge first 720 with hc | hc
      · exact Or.inl (by exact_mod_cast hc)
      · exact Or.inr (by exact_mod_cast (by omega : 780 < last))
    rw [if_neg (by simp [hv]), businessLoop_eq h _ _ _ _ (iterationsLeft_le_maxIterations h (by omega)), zero_add]
    exact congrArg Except.ok (jsRound_intCast _)

/-! ## The two clocks are inverse -/

theorem calculateBusinessSeconds_calculateSlaDeadline {start d : Int} {len : Nat} (hlen : 0 < len)
    (hd : calculateSlaDeadline isOfficeDay config start ((len : Rat) / 3600) = .ok d) :
    calculateBusinessSeconds isOfficeDay config start d = .ok len ∧
      ∀ t, t % 1000 = 0 → start ≤ t → t < d →
        ∃ n, calculateBusinessSeconds isOfficeDay config start t = .ok n ∧ n < len := by
  obtain ⟨⟨first, last, h⟩, e, rfl, he⟩ := calculateSlaDeadline_isDeadline hlen hd
  refine ⟨?_, fun t ht _ htd => ⟨_, calculateBusinessSeconds_eq h _ _, ?_⟩⟩
  · rw [calculateBusinessSeconds_eq h, show (ofSecond e + manilaOffset) / 1000 = e by simp only [ofSecond]; omega,
      he.worked_eq]
  · have := he.worked_lt ((t + manilaOffset) / 1000) (by simp only [ofSecond, manilaOffset] at htd ⊢; omega)
    exact_mod_cast this

/-- Ten hours from Manila 08:00 on day 0 with the default schedule: 09:00 on day 1. -/
theorem calculateBusinessSeconds_calculateSlaDeadline_ten_hours :
    calculateBusinessSeconds (fun _ => true) {} 0 93600000 = .ok 36000 ∧
      ∀ t : Int, t % 1000 = 0 → 0 ≤ t → t < 93600000 →
        ∃ n, calculateBusinessSeconds (fun _ => true) {} 0 t = .ok n ∧ n < 36000 :=
  @calculateBusinessSeconds_calculateSlaDeadline (fun _ => true) {} 0 93600000 36000 (by decide) (by decide +kernel)

end ComplianceHub.Sla
