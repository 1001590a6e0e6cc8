import ComplianceHub.Sla.Deadline

/-!
# Business seconds measure working time

`InWorkingTime` says in the source's own hours which instants count: the day is an office day or the OT date,
and the hour lies in the shift and outside lunch.

* `inWorkingTime_iff` : these are the working seconds of the loops;
* `calculateBusinessSeconds_measures` : for an accepted schedule the result is their number, whatever the
  interval; it is additive, monotone in the end and zero where nothing works.
-/

namespace ComplianceHub.Sla

open WorkClock

section
variable (isOfficeDay : Int → Bool) (config : TicketingConfig)

/-- The instant lies in the shift and outside the lunch hour of an office day or of the OT date. -/
def InWorkingTime (t : Int) : Prop :=
  (isOfficeDay (getManilaDateString t) = true ∨ config.overtimeSlaDate = some (getManilaDateString t)) ∧
    ((shiftStartHour config ≤ getManilaHour t ∧ getManilaHour t < min (shiftEndHour config) 12) ∨
      (max (shiftStartHour config) 13 ≤ getManilaHour t ∧ getManilaHour t < shiftEndHour config))

instance : DecidablePred (InWorkingTime isOfficeDay config) :=
  fun t => inferInstanceAs (Decidable
    ((isOfficeDay (getManilaDateString t) = true ∨ config.overtimeSlaDate = some (getManilaDateString t)) ∧
      ((shiftStartHour config ≤ getManilaHour t ∧ getManilaHour t < min (shiftEndHour config) 12) ∨
        (max (shiftStartHour config) 13 ≤ getManilaHour t ∧ getManilaHour t < shiftEndHour config))))

/-- The whole seconds of working time from the second of `start` up to the second of `stop`. -/
def workingSeconds (start stop : Int) : Nat :=
  ((Finset.Ico (start / 1000) (stop / 1000)).filter fun s => InWorkingTime isOfficeDay config (s * 1000)).card

end

variable {isOfficeDay : Int → Bool} {config : TicketingConfig}

/-- The blocks are the shift before 12:00 and the shift from 13:00 on. -/
theorem inBlocks_iff (t : Int) : InBlocks config t ↔
    (shiftStartHour config ≤ (t : Rat) / 3600 ∧ (t : Rat) / 3600 < min (shiftEndHour config) 12) ∨
      (max (shiftStartHour config) 13 ≤ (t : Rat) / 3600 ∧ (t : Rat) / 3600 < shiftEndHour config) := by
  unfold InBlocks blocks
  constructor
  · rintro ⟨b, hb, hlo, hhi⟩
    rcases List.mem_append.mp hb with hb | hb
    · split_ifs at hb with hc
      · rw [List.mem_singleton.mp hb] at hlo hhi
        exact Or.inl ⟨hlo, hhi⟩
      · exact absurd hb List.not_mem_nil
    · split_ifs at hb with hc
      · rw [List.mem_singleton.mp hb] at hlo hhi
        exact Or.inr ⟨hlo, hhi⟩
      · exact absurd hb List.not_mem_nil
  · rintro (⟨hlo, hhi⟩ | ⟨hlo, hhi⟩)
    · have hc : shiftStartHour config < 12 := hlo.trans_lt (hhi.trans_le (min_le_right _ _))
      refine ⟨⟨shiftStartHour config, min (shiftEndHour config) 12⟩, List.mem_append_left _ ?_, hlo, hhi⟩
      rw [if_pos hc]
      exact List.mem_singleton_self _
    · have hc : shiftEndHour config > 13 := ((le_max_right _ _).trans hlo).trans_lt hhi
      refine ⟨⟨max (shiftStartHour config) 13, shiftEndHour config⟩, List.mem_append_right _ ?_, hlo, hhi⟩
      rw [if_pos hc]
      exact List.mem_singleton_self _

/-- Second `s` of the epoch is Manila second `s + 28800`. -/
theorem mul_thousand_eq_ofSecond (s : Int) : s * 1000 = ofSecond (s + 28800) := by
  simp only [ofSecond, manilaOffset]
  omega

/-- What counts for the loops is what lies in working time. -/
theorem inWorkingTime_iff (s : Int) :
    InWorkingTime isOfficeDay config (s * 1000) ↔ Working isOfficeDay config (s + 28800) := by
  unfold InWorkingTime Working isSlaDay
  rw [mul_thousand_eq_ofSecond, getManilaDateString_ofSecond, getManilaHour_ofSecond, inBlocks_iff, Bool.or_eq_true,
    decide_eq_true_eq, or_comm]

theorem workingSeconds_eq (start stop : Int) : workingSeconds isOfficeDay config start stop =
    worked (Working isOfficeDay config) ((start + manilaOffset) / 1000) ((stop + manilaOffset) / 1000) := by
  have hsec : ∀ t : Int, (t + manilaOffset) / 1000 = t / 1000 + 28800 := by
    intro t
    simp only [manilaOffset]
    omega
  rw [hsec, hsec, ← worked_shift]
  unfold workingSeconds worked
  congr 1
  exact Finset.filter_congr fun s _ => inWorkingTime_iff s

/-- The clock shows the number of working seconds, for every interval. -/
theorem calculateBusinessSeconds_eq_workingSeconds (hv : invalidSchedule config = false) (start stop : Int) :
    calculateBusinessSeconds isOfficeDay config start stop = .ok (workingSeconds isOfficeDay config start stop) := by
  obtain ⟨first, last, h⟩ := exists_minutes hv
  rw [calculateBusinessSeconds_eq h, workingSeconds_eq]

theorem workingSeconds_add {a b c : Int} (hab : a ≤ b) (hbc : b ≤ c) :
    workingSeconds isOfficeDay config a b + workingSeconds isOfficeDay config b c =
      workingSeconds isOfficeDay config a c := by
  rw [workingSeconds_eq, workingSeconds_eq, workingSeconds_eq]
  apply worked_add
  · omega
  · omega

theorem workingSeconds_mono_right {a b c : Int} (hbc : b ≤ c) :
    workingSeconds isOfficeDay config a b ≤ workingSeconds isOfficeDay config a c := by
  rw [workingSeconds_eq, workingSeconds_eq]
  apply worked_mono_right
  omega

theorem workingSeconds_eq_zero_iff {a b : Int} : workingSeconds isOfficeDay config a b = 0 ↔
    ∀ s, a / 1000 ≤ s → s < b / 1000 → ¬ InWorkingTime isOfficeDay config (s * 1000) := by
  unfold workingSeconds
  rw [Finset.card_eq_zero, Finset.filter_eq_empty_iff]
  constructor
  · intro h s has hsb
    exact h (Finset.mem_Ico.mpr ⟨has, hsb⟩)
  · intro h s hs
    rw [Finset.mem_Ico] at hs
    exact h s hs.1 hs.2

/-- Business seconds measure working time: for every schedule the clock accepts it counts the seconds of
working time of the interval and never reaches its iteration guard. -/
theorem calculateBusinessSeconds_measures (isOfficeDay : Int → Bool) (config : TicketingConfig)
    (hv : invalidSchedule config = false) :
    (∀ start stop, calculateBusinessSeconds isOfficeDay config start stop =
        .ok (((Finset.Ico (start / 1000) (stop / 1000)).filter fun s =>
          InWorkingTime isOfficeDay config (s * 1000)).card)) ∧
      (∀ a b c, a ≤ b → b ≤ c → ∃ m n, calculateBusinessSeconds isOfficeDay config a b = .ok m ∧
        calculateBusinessSeconds isOfficeDay config b c = .ok n ∧
        calculateBusinessSeconds isOfficeDay config a c = .ok (m + n)) ∧
      (∀ a b c, b ≤ c → ∃ m n, calculateBusinessSeconds isOfficeDay config a b = .ok m ∧
        calculateBusinessSeconds isOfficeDay config a c = .ok n ∧ m ≤ n) ∧
      (∀ a b, (∀ s, a / 1000 ≤ s → s < b / 1000 → ¬ InWorkingTime isOfficeDay config (s * 1000)) →
        calculateBusinessSeconds isOfficeDay config a b = .ok 0) := by
  have hclock : ∀ a b, calculateBusinessSeconds isOfficeDay config a b = .ok (workingSeconds isOfficeDay config a b) :=
    calculateBusinessSeconds_eq_workingSeconds hv
  refine ⟨hclock, ?_, ?_, ?_⟩
  · intro a b c hab hbc
    refine ⟨_, _, hclock a b, hclock b c, ?_⟩
    rw [hclock a c, ← workingSeconds_add hab hbc]
    push_cast
    rfl
  · intro a b c hbc
    exact ⟨_, _, hclock a b, hclock a c, by exact_mod_cast workingSeconds_mono_right hbc⟩
  · intro a b hidle
    rw [hclock a b, workingSeconds_eq_zero_iff.mpr hidle]
    rfl

/-- Manila 11:00 to 14:00 of day 0 with the default schedule, split inside lunch. -/
theorem calculateBusinessSeconds_measures_over_lunch :
    ∃ m n, calculateBusinessSeconds (fun _ => true) {} 10800000 16200000 = .ok m ∧
      calculateBusinessSeconds (fun _ => true) {} 16200000 21600000 = .ok n ∧
      calculateBusinessSeconds (fun _ => true) {} 10800000 21600000 = .ok (m + n) :=
  (calculateBusinessSeconds_measures (fun _ => true) {} (by decide +kernel)).2.1 10800000 16200000 21600000
    (by decide) (by decide)

end ComplianceHub.Sla
