import Mathlib.Tactic.Linarith
import Mathlib.Tactic.FieldSimp
import Mathlib.Algebra.Order.Field.Basic
import Mathlib.Data.Rat.Floor
import Mathlib.Tactic.NormNum
import Mathlib.Tactic.Positivity
import ComplianceHub.Sla.Clock

/-!
# The SLA clock read in whole seconds

`ofSecond s` is the instant of Manila second `s`, counted from the Manila midnight of day 0. On such
instants the helpers of the SLA clock are integer arithmetic:

* `getManilaDateString_ofSecond`, `getManilaHour_ofSecond`, `createManilaDate_minute`;
* `exists_minutes` : an accepted schedule is two whole minutes of the day;
* `Working` : the seconds of the working blocks of the SLA days;
* `find_block_cases` : what the block lookup of both loops finds at a second of the day, and how far the
  day's remaining iterations (`phase`) drop from there.
-/

namespace ComplianceHub.Sla

/-- The instant of Manila second `s`. -/
def ofSecond (s : Int) : Int := s * 1000 - manilaOffset

theorem setMilliseconds_eq (d : Int) : setMilliseconds d = ofSecond ((d + manilaOffset) / 1000) := by
  simp only [setMilliseconds, ofSecond, manilaOffset]
  omega

theorem ofSecond_le {s t : Int} : ofSecond s ≤ ofSecond t ↔ s ≤ t := by
  simp only [ofSecond]
  omega

theorem ofSecond_add_mul (s n : Int) : ofSecond s + n * 1000 = ofSecond (s + n) := by
  simp only [ofSecond]
  omega

@[simp] theorem getManilaDateString_ofSecond (s : Int) : getManilaDateString (ofSecond s) = s / 86400 := by
  simp only [getManilaDateString, ofSecond]
  omega

@[simp] theorem getManilaHour_ofSecond (s : Int) : getManilaHour (ofSecond s) = ((s % 86400 : Int) : Rat) / 3600 := by
  have h1 : (ofSecond s + manilaOffset) % 86400000 / 1000 = s % 86400 := by
    simp only [ofSecond]
    omega
  have h2 : s % 86400 =
      (ofSecond s + manilaOffset) % 86400000 / 3600000 * 3600 +
      (ofSecond s + manilaOffset) % 86400000 / 60000 % 60 * 60 +
      (ofSecond s + manilaOffset) % 86400000 / 1000 % 60 := by
    omega
  simp only [getManilaHour]
  rw [h2]
  push_cast
  ring

/-- A whole minute of the day, on the `addDays`-th day after `base`. -/
theorem createManilaDate_minute (base : Int) (addDays m : Int) :
    createManilaDate base addDays ((m : Rat) / 60) = ofSecond ((base + addDays) * 86400 + m * 60) := by
  have hfloor : ⌊(m : Rat) / 60⌋ = m / 60 := by exact_mod_cast Rat.floor_intCast_div_natCast m 60
  have hround : jsRound (((m : Rat) / 60 - ((m / 60 : Int) : Rat)) * 60) = m % 60 := by
    have h : ((m : Rat) / 60 - ((m / 60 : Int) : Rat)) * 60 = ((m % 60 : Int) : Rat) := by
      have hm : (m : Rat) = ((m / 60 : Int) : Rat) * 60 + ((m % 60 : Int) : Rat) := by
        exact_mod_cast (by omega : m = m / 60 * 60 + m % 60)
      rw [sub_mul, div_mul_cancel₀ _ (by norm_num : (60 : Rat) ≠ 0)]
      linarith
    rw [h, jsRound_intCast]
  simp only [createManilaDate, hfloor, hround, ofSecond]
  omega

/-! ## Accepted schedules -/

theorem exists_minute_parseTime (timeStr : String) (d : Int) :
    ∃ m : Int, parseTime timeStr (d : Rat) = (m : Rat) / 60 := by
  unfold parseTime
  split
  · split
    · rename_i a b c e _ _ _
      refine ⟨twoDigits a b * 60 + twoDigits c e, ?_⟩
      push_cast
      ring
    · exact ⟨d * 60, by push_cast; ring⟩
  · exact ⟨d * 60, by push_cast; ring⟩

theorem exists_minute_shiftStartHour (config : TicketingConfig) : ∃ m : Int, shiftStartHour config = (m : Rat) / 60 := by
  unfold shiftStartHour
  split
  · exact exists_minute_parseTime _ 7
  · exact exists_minute_parseTime _ 8

theorem exists_minute_shiftEndHour (config : TicketingConfig) : ∃ m : Int, shiftEndHour config = (m : Rat) / 60 := by
  unfold shiftEndHour
  split
  · exact exists_minute_parseTime _ 18
  · exact exists_minute_parseTime _ 17

/-- A shift in whole minutes of the day, not inside the lunch hour. -/
structure Shift (config : TicketingConfig) (first last : Int) : Prop where
  start_eq : shiftStartHour config = (first : Rat) / 60
  end_eq : shiftEndHour config = (last : Rat) / 60
  nonneg : 0 ≤ first
  lt : first < last
  le_day : last ≤ 1440
  not_lunch : ¬ (720 ≤ first ∧ last ≤ 780)

theorem exists_minutes {config : TicketingConfig} (h : invalidSchedule config = false) :
    ∃ first last, Shift config first last := by
  obtain ⟨first, hs⟩ := exists_minute_shiftStartHour config
  obtain ⟨last, he⟩ := exists_minute_shiftEndHour config
  simp only [invalidSchedule, hs, he, Bool.or_eq_false_iff, Bool.and_eq_false_iff, decide_eq_false_iff_not, not_lt,
    ge_iff_le, gt_iff_lt, not_le] at h
  obtain ⟨⟨⟨h0, h1⟩, h2⟩, h3⟩ := h
  rw [le_div_iff₀ (by norm_num)] at h0
  rw [div_le_iff₀ (by norm_num)] at h1
  rw [div_lt_div_iff_of_pos_right (by norm_num)] at h2
  rw [div_lt_iff₀ (by norm_num), lt_div_iff₀ (by norm_num)] at h3
  norm_num at h0 h1 h3
  refine ⟨first, last, hs, he, by exact_mod_cast h0, by exact_mod_cast h2, by exact_mod_cast h1, ?_⟩
  rintro ⟨ha, hb⟩
  rcases h3 with h3 | h3
  · exact absurd (show first < 720 by exact_mod_cast h3) (not_lt.mpr ha)
  · exact absurd (show 780 < last by exact_mod_cast h3) (not_lt.mpr hb)

/-! ## Working seconds -/

/-- Second `t` of the day lies in a working block. -/
def InBlocks (config : TicketingConfig) (t : Int) : Prop :=
  ∃ b ∈ blocks config, b.start ≤ (t : Rat) / 3600 ∧ (t : Rat) / 3600 < b.stop

instance (config : TicketingConfig) : DecidablePred (InBlocks config) :=
  fun t => inferInstanceAs (Decidable (∃ b ∈ blocks config, b.start ≤ (t : Rat) / 3600 ∧ (t : Rat) / 3600 < b.stop))

/-- Manila second `s` lies in a working block of an SLA day. -/
def Working (isOfficeDay : Int → Bool) (config : TicketingConfig) (s : Int) : Prop :=
  isSlaDay isOfficeDay config (s / 86400) = true ∧ InBlocks config (s % 86400)

instance (isOfficeDay : Int → Bool) (config : TicketingConfig) : DecidablePred (Working isOfficeDay config) :=
  fun s => inferInstanceAs (Decidable (isSlaDay isOfficeDay config (s / 86400) = true ∧ InBlocks config (s % 86400)))

/-- An upper bound of the iterations the business loop still spends in the day of second `t`. -/
def phase (config : TicketingConfig) (t : Int) : Nat :=
  1 + ((blocks config).map fun b =>
    if (t : Rat) / 3600 < b.start then 2 else if (t : Rat) / 3600 < b.stop then 1 else 0).sum

theorem div3600_lt_div60 {t m : Int} : (t : Rat) / 3600 < (m : Rat) / 60 ↔ t < m * 60 := by
  rw [div_lt_div_iff₀ (by norm_num) (by norm_num)]
  constructor
  · intro h
    have : t * 60 < m * 3600 := by exact_mod_cast h
    omega
  · intro h
    exact_mod_cast (by omega : t * 60 < m * 3600)

theorem div60_le_div3600 {t m : Int} : (m : Rat) / 60 ≤ (t : Rat) / 3600 ↔ m * 60 ≤ t := by
  rw [← not_lt, div3600_lt_div60, not_lt]

/-- The blocks of a shift, in minutes. -/
theorem Shift.blocks_eq {config : TicketingConfig} {first last : Int} (h : Shift config first last) :
    blocks config =
      (if first < 720 then [⟨(first : Rat) / 60, ((min last 720 : Int) : Rat) / 60⟩] else []) ++
      (if 780 < last then [⟨((max first 780 : Int) : Rat) / 60, (last : Rat) / 60⟩] else []) := by
  have h1 : ((first : Rat) / 60 < 12) ↔ first < 720 := by
    rw [div_lt_iff₀ (by norm_num)]
    norm_num
    exact_mod_cast Iff.rfl
  have h2 : ((last : Rat) / 60 > 13) ↔ 780 < last := by
    rw [gt_iff_lt, lt_div_iff₀ (by norm_num)]
    norm_num
    exact_mod_cast Iff.rfl
  have h3 : min ((last : Rat) / 60) 12 = ((min last 720 : Int) : Rat) / 60 := by
    rw [show (12 : Rat) = 720 / 60 by norm_num, min_div_div_right (by norm_num)]
    push_cast
    rfl
  have h4 : max ((first : Rat) / 60) 13 = ((max first 780 : Int) : Rat) / 60 := by
    rw [show (13 : Rat) = 780 / 60 by norm_num, max_div_div_right (by norm_num)]
    push_cast
    rfl
  simp only [blocks, h.start_eq, h.end_eq, h1, h2, h3, h4]

theorem phase_pos (config : TicketingConfig) (t : Int) : 1 ≤ phase config t := Nat.le_add_right _ _

theorem Shift.phase_le {config : TicketingConfig} {first last : Int} (h : Shift config first last) (t : Int) :
    phase config t ≤ 5 := by
  unfold phase
  rw [h.blocks_eq]
  split_ifs <;> simp <;> split_ifs <;> simp

/-- The working seconds of the day of a shift. -/
theorem Shift.inBlocks_iff {config : TicketingConfig} {first last : Int} (h : Shift config first last) (t : Int) :
    InBlocks config t ↔ (first < 720 ∧ first * 60 ≤ t ∧ t < min last 720 * 60) ∨
      (780 < last ∧ max first 780 * 60 ≤ t ∧ t < last * 60) := by
  unfold InBlocks
  rw [h.blocks_eq]
  by_cases ha : first < 720 <;> by_cases hb : 780 < last <;>
    simp only [ha, hb, if_true, if_false, List.nil_append, List.append_nil, List.cons_append, List.mem_cons,
      List.not_mem_nil, false_and, true_and, or_false, false_or, exists_eq_or_imp, exists_eq_left, exists_false,
      div60_le_div3600, div3600_lt_div60]

/-- No second before the shift lies in a block. -/
theorem Shift.not_inBlocks_before {config : TicketingConfig} {first last : Int} (h : Shift config first last)
    {t : Int} (ht : t < first * 60) : ¬ InBlocks config t := by
  rw [h.inBlocks_iff]
  omega

/-- What the block lookup finds at second `r` of the day: no block is left, or the next block runs from
minute `m` to minute `e` and nothing works before it. -/
theorem Shift.find_block_cases {config : TicketingConfig} {first last : Int} (h : Shift config first last) (r : Int) :
    ((blocks config).find? (fun b => (r : Rat) / 3600 < b.stop) = none ∧ ∀ t, r ≤ t → ¬ InBlocks config t) ∨
    ∃ m e : Int, (blocks config).find? (fun b => (r : Rat) / 3600 < b.stop) = some ⟨(m : Rat) / 60, (e : Rat) / 60⟩ ∧
      0 ≤ m ∧ m < e ∧ e ≤ 1440 ∧ r < e * 60 ∧
      (∀ t, r ≤ t → t < m * 60 → ¬ InBlocks config t) ∧ (∀ t, m * 60 ≤ t → t < e * 60 → InBlocks config t) ∧
      (r < m * 60 → phase config (m * 60) < phase config r) ∧ (m * 60 ≤ r → phase config (e * 60) < phase config r) := by
  have h0 := h.nonneg
  have h1 := h.lt
  have h2 := h.le_day
  have h3 := h.not_lunch
  have hph : ∀ t, phase config t = 1 +
      ((if first < 720 then if t < first * 60 then 2 else if t < min last 720 * 60 then 1 else 0 else 0) +
       (if 780 < last then if t < max first 780 * 60 then 2 else if t < last * 60 then 1 else 0 else 0)) := by
    intro t
    unfold phase
    rw [h.blocks_eq]
    by_cases ha : first < 720 <;> by_cases hb : 780 < last <;>
      simp only [ha, hb, if_true, if_false, List.nil_append, List.append_nil, List.map_cons, List.map_nil,
        List.sum_cons, List.sum_nil, List.cons_append, div3600_lt_div60, Nat.add_zero, Nat.zero_add]
  simp only [h.inBlocks_iff, hph]
  rw [h.blocks_eq]
  by_cases ha : first < 720 ∧ r < min last 720 * 60
  · -- the block before lunch
    refine Or.inr ⟨first, min last 720, ?_, h0, by omega, by omega, ha.2, ?_, ?_, ?_, ?_⟩
    · simp only [ha.1, if_true, List.cons_append, List.find?_cons, div3600_lt_div60, ha.2, decide_true]
    · intro t _ ht
      omega
    · intro t ht ht'
      omega
    · intro ht
      split_ifs <;> omega
    · intro ht
      split_ifs <;> omega
  · have hskip : ∀ l : List Block, List.find? (fun b => decide ((r : Rat) / 3600 < b.stop))
        ((if first < 720 then [⟨(first : Rat) / 60, ((min last 720 : Int) : Rat) / 60⟩] else []) ++ l) =
        List.find? (fun b => decide ((r : Rat) / 3600 < b.stop)) l := by
      intro l
      split_ifs with hc
      · have : ¬ r < min last 720 * 60 := fun hr => ha ⟨hc, hr⟩
        simp only [List.cons_append, List.nil_append, List.find?_cons, div3600_lt_div60, this, decide_false]
      · rfl
    rw [hskip]
    by_cases hb : 780 < last ∧ r < last * 60
    · -- the block after lunch
      refine Or.inr ⟨max first 780, last, ?_, by omega, by omega, h2, hb.2, ?_, ?_, ?_, ?_⟩
      · simp only [hb.1, if_true, List.find?_cons, div3600_lt_div60, hb.2, decide_true]
      · intro t _ ht
        omega
      · intro t ht ht'
        omega
      · intro ht
        split_ifs <;> omega
      · intro ht
        split_ifs <;> omega
    · refine Or.inl ⟨?_, ?_⟩
      · split_ifs with hc
        · have : ¬ r < last * 60 := fun hr => hb ⟨hc, hr⟩
          simp only [List.find?_cons, div3600_lt_div60, this, decide_false, List.find?_nil]
        · rfl
      · intro t ht
        omega

end ComplianceHub.Sla
