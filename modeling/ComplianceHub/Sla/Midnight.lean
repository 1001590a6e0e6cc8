import ComplianceHub.Sla.Deadline

/-!
# The first hour of the Manila day, printed as 0 or as 24

`getManilaHourPrinted 24` is the hour of the day on an engine that prints its first hour as 24. A turn of either
loop at such a second finds no block left and skips the day.

* `Misread` : the days a loop from second `s` first reads in their first hour;
* `businessLoop24_eq`, `businessLoop24_le` : the business loop under that printing counts everything when no
  working second of the interval is on a misread day, and less otherwise;
* `slaLoop24_eq`, `slaLoop24_ends` : the deadline loop is unchanged when the allowance is used up before the
  first misread working second, and gives another deadline otherwise;
* `midnight_printing_matters_iff` : when the printing of midnight does not matter.
-/

namespace ComplianceHub.Sla

open WorkClock

/-- `getManilaHour` where `Intl.DateTimeFormat` prints the first hour of the day as `firstHour`. -/
def getManilaHourPrinted (firstHour : Int) (d : Int) : Rat :=
  let ms := (d + manilaOffset) % 86400000
  let hour := if ms / 3600000 = 0 then firstHour else ms / 3600000
  let minute := ms / 60000 % 60
  let second := ms / 1000 % 60
  (hour : Rat) + (minute : Rat) / 60 + (second : Rat) / 3600

theorem getManilaHourPrinted_zero : getManilaHourPrinted 0 = getManilaHour := by
  funext d
  unfold getManilaHourPrinted getManilaHour
  by_cases h : (d + manilaOffset) % 86400000 / 3600000 = 0
  · simp only [h, if_true]
  · simp only [h, if_false]

theorem getManilaHourPrinted_late {s : Int} (hs : 3600 ≤ s % 86400) (firstHour : Int) :
    getManilaHourPrinted firstHour (ofSecond s) = ((s % 86400 : Int) : Rat) / 3600 := by
  have hhour : (ofSecond s + manilaOffset) % 86400000 / 3600000 ≠ 0 := by
    simp only [ofSecond]
    omega
  rw [← getManilaHour_ofSecond]
  unfold getManilaHourPrinted getManilaHour
  simp only [hhour, if_false]

theorem le_getManilaHourPrinted_first {s : Int} (hs : s % 86400 < 3600) : 24 ≤ getManilaHourPrinted 24 (ofSecond s) := by
  have hhour : (ofSecond s + manilaOffset) % 86400000 / 3600000 = 0 := by
    simp only [ofSecond]
    omega
  have hminute : (0 : Int) ≤ (ofSecond s + manilaOffset) % 86400000 / 60000 % 60 := by omega
  have hsecond : (0 : Int) ≤ (ofSecond s + manilaOffset) % 86400000 / 1000 % 60 := by omega
  have hminute : (0 : Rat) ≤ ((ofSecond s + manilaOffset) % 86400000 / 60000 % 60 : Int) := by exact_mod_cast hminute
  have hsecond : (0 : Rat) ≤ ((ofSecond s + manilaOffset) % 86400000 / 1000 % 60 : Int) := by exact_mod_cast hsecond
  unfold getManilaHourPrinted
  simp only [hhour, if_true]
  push_cast
  linarith [div_nonneg hminute (by norm_num : (0 : Rat) ≤ 60), div_nonneg hsecond (by norm_num : (0 : Rat) ≤ 3600)]

variable {isOfficeDay : Int → Bool} {config : TicketingConfig} {first last : Int}

theorem readsRight_late {s : Int} (hs : 3600 ≤ s % 86400) (firstHour : Int) :
    ReadsRight isOfficeDay config (getManilaHourPrinted firstHour) s :=
  fun _ => getManilaHourPrinted_late hs firstHour

/-! ## The days skipped -/

/-- Day `d` is an SLA day that a loop from second `s` first reads in its first hour: the loop starts there, or
comes there from a block that lasts until 24:00, or the shift itself starts there. -/
def Misread (isOfficeDay : Int → Bool) (config : TicketingConfig) (s d : Int) : Prop :=
  isSlaDay isOfficeDay config d = true ∧
    ((d = s / 86400 ∧ s % 86400 < 3600) ∨
      (s / 86400 < d ∧ (shiftStartHour config < 1 ∨
        (shiftEndHour config = 24 ∧ isSlaDay isOfficeDay config (d - 1) = true))))

theorem Shift.misread_iff (h : Shift config first last) {s d : Int} : Misread isOfficeDay config s d ↔
    isSlaDay isOfficeDay config d = true ∧
      ((d = s / 86400 ∧ s % 86400 < 3600) ∨
        (s / 86400 < d ∧ (first < 60 ∨ (last = 1440 ∧ isSlaDay isOfficeDay config (d - 1) = true)))) := by
  have hstart : shiftStartHour config < 1 ↔ first < 60 := by
    rw [h.start_eq, div_lt_one (by norm_num)]
    exact_mod_cast Iff.rfl
  have hend : shiftEndHour config = 24 ↔ last = 1440 := by
    rw [h.end_eq, div_eq_iff (by norm_num)]
    norm_num
    exact_mod_cast Iff.rfl
  unfold Misread
  rw [hstart, hend]

/-- A day misread after the next day's shift starts was misread from here, when the turn led there. -/
theorem Misread.of_nextDay (h : Shift config first last) {s d : Int}
    (hm : Misread isOfficeDay config ((s / 86400 + 1) * 86400 + first * 60) d) : Misread isOfficeDay config s d := by
  have h0 := h.nonneg
  have h1 := h.lt
  have h2 := h.le_day
  rw [h.misread_iff] at hm ⊢
  obtain ⟨hday, ⟨hd, hfirst⟩ | ⟨hd, hrest⟩⟩ := hm
  · exact ⟨hday, Or.inr ⟨by omega, Or.inl (by omega)⟩⟩
  · exact ⟨hday, Or.inr ⟨by omega, hrest⟩⟩

theorem Misread.of_lands (h : Shift config first last) {s s' d : Int} (hlands : Lands isOfficeDay config first last s s')
    (hlt : s < s') (hs : 3600 ≤ s % 86400) (hm : Misread isOfficeDay config s' d) : Misread isOfficeDay config s d := by
  cases hlands with
  | nextDay _ => exact Misread.of_nextDay h hm
  | sameDay hsame =>
    obtain ⟨hday, ⟨hd, hfirst⟩ | ⟨hd, hrest⟩⟩ := hm
    · omega
    · exact ⟨hday, Or.inr ⟨by omega, hrest⟩⟩
  | midnight hsla hlast =>
    rw [h.misread_iff] at hm ⊢
    obtain ⟨hday, ⟨hd, -⟩ | ⟨hd, hrest⟩⟩ := hm
    · have hd : d = s / 86400 + 1 := by omega
      exact ⟨hday, Or.inr ⟨by omega, Or.inr ⟨hlast, by rw [hd, add_sub_cancel_right]; exact hsla⟩⟩⟩
    · exact ⟨hday, Or.inr ⟨by omega, hrest⟩⟩

theorem Misread.lands (h : Shift config first last) {s s' d : Int} (hlands : Lands isOfficeDay config first last s s')
    (hs : 3600 ≤ s % 86400) (hm : Misread isOfficeDay config s d) : Misread isOfficeDay config s' d := by
  have h0 := h.nonneg
  have h1 := h.lt
  have h2 := h.le_day
  rw [h.misread_iff] at hm ⊢
  obtain ⟨hday, ⟨-, hfirst⟩ | ⟨hd, hrest⟩⟩ := hm
  · omega
  refine ⟨hday, ?_⟩
  cases hlands with
  | nextDay hno =>
    by_cases hnext : d = s / 86400 + 1
    · rcases hrest with hrest | ⟨hlast, hprev⟩
      · exact Or.inl ⟨by omega, by omega⟩
      · rw [hnext, add_sub_cancel_right] at hprev
        rcases hno with hno | hno
        · rw [hprev] at hno
          exact absurd hno (by decide)
        · omega
    · exact Or.inr ⟨by omega, hrest⟩
  | sameDay hsame => exact Or.inr ⟨by omega, hrest⟩
  | midnight _ _ =>
    by_cases hnext : d = s / 86400 + 1
    · exact Or.inl ⟨by omega, by omega⟩
    · exact Or.inr ⟨by omega, hrest⟩

/-- A working second of a later day is not passed by a turn. -/
theorem Lands.le_of_later_day (h : Shift config first last) {s s' u : Int}
    (hlands : Lands isOfficeDay config first last s s') (hu : Working isOfficeDay config u) (hd : s / 86400 < u / 86400) :
    s' ≤ u := by
  cases hlands with
  | nextDay _ =>
    by_contra hlt
    exact h.not_inBlocks_before (t := u % 86400) (by have := h.lt; have := h.le_day; omega) hu.2
  | sameDay hsame => omega
  | midnight _ _ => omega

/-- A misread day that is not left behind by skipping to the next day's shift: some second before that shift
works, or the day is misread again from there. -/
theorem Misread.skip (h : Shift config first last) {s u : Int} (hs : s % 86400 < 3600) (hsu : s ≤ u)
    (hu : Working isOfficeDay config u) (hm : Misread isOfficeDay config s (u / 86400)) :
    (∃ v, s ≤ v ∧ v < (s / 86400 + 1) * 86400 + first * 60 ∧ v ≤ u ∧ Working isOfficeDay config v) ∨
      ((s / 86400 + 1) * 86400 + first * 60 ≤ u ∧
        Misread isOfficeDay config ((s / 86400 + 1) * 86400 + first * 60) (u / 86400)) := by
  have h0 := h.nonneg
  have h1 := h.lt
  have h2 := h.le_day
  by_cases hbefore : u < (s / 86400 + 1) * 86400 + first * 60
  · exact Or.inl ⟨u, hsu, hbefore, le_rfl, hu⟩
  rw [h.misread_iff] at hm ⊢
  obtain ⟨hday, ⟨hd, -⟩ | ⟨hd, hrest⟩⟩ := hm
  · omega
  by_cases hnext : u / 86400 = s / 86400 + 1
  · rcases hrest with hrest | ⟨hlast, hprev⟩
    · exact Or.inr ⟨by omega, hday, Or.inl ⟨by omega, by omega⟩⟩
    · -- the shift lasts until 24:00: the last second of the skipped day works
      rw [hnext, add_sub_cancel_right] at hprev
      refine Or.inl ⟨s / 86400 * 86400 + 86399, by omega, by omega, by omega, ?_, ?_⟩
      · rw [show (s / 86400 * 86400 + 86399) / 86400 = s / 86400 by omega]
        exact hprev
      · rw [show (s / 86400 * 86400 + 86399) % 86400 = 86399 by omega, h.inBlocks_iff]
        omega
  · exact Or.inr ⟨by omega, hday, Or.inr ⟨by omega, hrest⟩⟩

/-- A working second before the next day's shift, from a second of the first hour, is on a misread day. -/
theorem Misread.of_working (h : Shift config first last) {s u : Int} (hs : s % 86400 < 3600) (hsu : s ≤ u)
    (hlt : u < (s / 86400 + 1) * 86400 + first * 60) (hu : Working isOfficeDay config u) :
    Misread isOfficeDay config s (u / 86400) := by
  have hsame : u / 86400 = s / 86400 := by
    by_contra hne
    exact h.not_inBlocks_before (t := u % 86400) (by have := h.lt; have := h.le_day; omega) hu.2
  exact ⟨hu.1, Or.inl ⟨hsame, hs⟩⟩

/-! ## The business loop -/

/-- At hour 24 no block is left. -/
theorem Shift.find_block_24 (h : Shift config first last) {x : Rat} (hx : 24 ≤ x) :
    (blocks config).find? (fun b => x < b.stop) = none := by
  rw [List.find?_eq_none]
  intro b hb
  have hend : shiftEndHour config ≤ 24 := by
    rw [h.end_eq, div_le_iff₀ (by norm_num)]
    norm_num
    exact_mod_cast h.le_day
  have hstop : b.stop ≤ shiftEndHour config := by
    unfold blocks at hb
    rcases List.mem_append.mp hb with hb | hb
    · split_ifs at hb with hc
      · rw [List.mem_singleton.mp hb]
        exact min_le_left _ _
      · exact absurd hb List.not_mem_nil
    · split_ifs at hb with hc
      · rw [List.mem_singleton.mp hb]
      · exact absurd hb List.not_mem_nil
  rw [decide_eq_true_eq, not_lt]
  exact (hstop.trans hend).trans hx

/-- In the first hour of the day the loop skips to the next day's shift. -/
theorem businessLoop24_skip (h : Shift config first last) {s t : Int} (hst : s < t) (hs : s % 86400 < 3600)
    (guard : Nat) (acc : Rat) :
    businessLoopWith (getManilaHourPrinted 24) isOfficeDay config (ofSecond t) (guard + 1) (ofSecond s) acc =
      businessLoopWith (getManilaHourPrinted 24) isOfficeDay config (ofSecond t) guard
        (ofSecond ((s / 86400 + 1) * 86400 + first * 60)) acc := by
  rw [businessLoopWith, if_neg fun hc => absurd (ofSecond_le.mp hc) (not_le.mpr hst)]
  simp only [h.find_block_24 (le_getManilaHourPrinted_first hs), advanceToNextDayStart_ofSecond h, ite_self]

/-- With enough iterations the loop counts everything when no working second of the interval is misread. -/
theorem businessLoop24_eq (h : Shift config first last) (t : Int) :
    ∀ (guard : Nat) (s : Int) (acc : Rat), iterationsLeft config s t ≤ guard →
      (∀ u, s ≤ u → u < t → Working isOfficeDay config u → ¬ Misread isOfficeDay config s (u / 86400)) →
      businessLoopWith (getManilaHourPrinted 24) isOfficeDay config (ofSecond t) guard (ofSecond s) acc =
        .ok (acc + worked (Working isOfficeDay config) s t) := by
  have h0 := h.nonneg
  have h1 := h.lt
  have h2 := h.le_day
  intro guard
  induction guard with
  | zero =>
    intro s acc hg
    have := phase_pos config (s % 86400)
    unfold iterationsLeft at hg
    omega
  | succ guard ih =>
    intro s acc hg hread
    by_cases hts : t ≤ s
    · rw [businessLoopWith_done hts, worked_of_le hts, Nat.cast_zero, add_zero]
    by_cases hs : s % 86400 < 3600
    · -- the rest of the day is skipped, and has no working second of the interval
      rw [businessLoop24_skip h (not_le.mp hts) hs]
      have hidle : ∀ u, s ≤ u → u < t → u < (s / 86400 + 1) * 86400 + first * 60 → ¬ Working isOfficeDay config u :=
        fun u hsu hut hlt hu => hread u hsu hut hu (Misread.of_working h hs hsu hlt hu)
      rcases le_or_gt t ((s / 86400 + 1) * 86400 + first * 60) with hle | hgt
      · rw [businessLoopWith_done hle, worked_idle fun u hsu hut => hidle u hsu hut (hut.trans_le hle), Nat.cast_zero,
          add_zero]
      · have hph := phase_pos config (s % 86400)
        have hph5 := h.phase_le (((s / 86400 + 1) * 86400 + first * 60) % 86400)
        have hfuel : iterationsLeft config ((s / 86400 + 1) * 86400 + first * 60) t ≤ guard := by
          unfold iterationsLeft at hg ⊢
          omega
        rw [ih _ acc hfuel fun u hsu hut hu hm => hread u (by omega) hut hu (Misread.of_nextDay h hm),
          ← worked_add (a := s) (by omega) hgt.le,
          worked_idle fun u hsu hlt => hidle u hsu (hlt.trans hgt) hlt, zero_add]
    · have hs : 3600 ≤ s % 86400 := not_lt.mp hs
      have hst : t / 86400 = s / 86400 → ReadsRight isOfficeDay config (getManilaHourPrinted 24) t :=
        fun hsame => readsRight_late (by omega) 24
      rcases businessLoopWith_turn h (not_le.mp hts) with ⟨-, hturn⟩ | ⟨s', hss', hlands, hleft, hover, hturn⟩
      · exact hturn _ (readsRight_late hs 24) hst guard acc
      · rw [hturn _ (readsRight_late hs 24) hst]
        rcases le_or_gt s' t with hle | hgt
        · have := hleft hle
          rw [ih s' _ (by omega) fun u hsu hut hu hm =>
              hread u (by omega) hut hu (Misread.of_lands h hlands hss' hs hm),
            ← worked_add hss'.le hle, Nat.cast_add, add_assoc]
        · have hidle : worked (Working isOfficeDay config) s t = 0 :=
            Nat.eq_zero_of_le_zero ((worked_mono_right hgt.le).trans_eq (hover hgt))
          rw [businessLoopWith_done hgt.le, hover hgt, hidle]

/-- The loop never counts more than the working seconds, and less when one of them is misread. -/
theorem businessLoop24_le (h : Shift config first last) (t : Int) :
    ∀ (guard : Nat) (s : Int) (acc r : Rat),
      businessLoopWith (getManilaHourPrinted 24) isOfficeDay config (ofSecond t) guard (ofSecond s) acc = .ok r →
      ∃ k : Nat, r = acc + k ∧ k ≤ worked (Working isOfficeDay config) s t ∧
        ((∃ u, s ≤ u ∧ u < t ∧ Working isOfficeDay config u ∧ Misread isOfficeDay config s (u / 86400)) →
          k < worked (Working isOfficeDay config) s t) := by
  have h0 := h.nonneg
  intro guard
  induction guard with
  | zero =>
    intro s acc r hr
    by_cases hts : t ≤ s
    · rw [businessLoopWith_done hts] at hr
      obtain rfl := Except.ok.inj hr
      refine ⟨0, by simp, Nat.zero_le _, ?_⟩
      rintro ⟨u, hsu, hut, -⟩
      omega
    · rw [businessLoopWith, if_neg fun hc => hts (ofSecond_le.mp hc)] at hr
      cases hr
  | succ guard ih =>
    intro s acc r hr
    by_cases hts : t ≤ s
    · rw [businessLoopWith_done hts] at hr
      obtain rfl := Except.ok.inj hr
      refine ⟨0, by simp, Nat.zero_le _, ?_⟩
      rintro ⟨u, hsu, hut, -⟩
      omega
    by_cases hs : s % 86400 < 3600
    · rw [businessLoop24_skip h (not_le.mp hts) hs] at hr
      obtain ⟨k, rfl, hk, hstrict⟩ := ih _ _ _ hr
      have hle : worked (Working isOfficeDay config) ((s / 86400 + 1) * 86400 + first * 60) t ≤
          worked (Working isOfficeDay config) s t := worked_mono_left (by omega)
      refine ⟨k, rfl, hk.trans hle, ?_⟩
      rintro ⟨u, hsu, hut, hu, hm⟩
      rcases Misread.skip h hs hsu hu hm with ⟨v, hsv, hvn, hvu, hv⟩ | ⟨hnu, hm⟩
      · exact hk.trans_lt (worked_lt_of_work hsv hvn (hvu.trans_lt hut) hv)
      · exact (hstrict ⟨u, hnu, hut, hu, hm⟩).trans_le hle
    · have hs : 3600 ≤ s % 86400 := not_lt.mp hs
      have hst : t / 86400 = s / 86400 → ReadsRight isOfficeDay config (getManilaHourPrinted 24) t :=
        fun hsame => readsRight_late (by omega) 24
      have hlater : ∀ u, s ≤ u → Misread isOfficeDay config s (u / 86400) → s / 86400 < u / 86400 := by
        rintro u - ⟨-, ⟨-, hfirst⟩ | ⟨hd, -⟩⟩
        · omega
        · exact hd
      rcases businessLoopWith_turn h (not_le.mp hts) with ⟨hday, hturn⟩ | ⟨s', hss', hlands, -, hover, hturn⟩
      · rw [hturn _ (readsRight_late hs 24) hst] at hr
        obtain rfl := Except.ok.inj hr
        refine ⟨_, rfl, le_rfl, ?_⟩
        rintro ⟨u, hsu, hut, hu, hm⟩
        have := hlater u hsu hm
        omega
      · rw [hturn _ (readsRight_late hs 24) hst] at hr
        obtain ⟨k, rfl, hk, hstrict⟩ := ih _ _ _ hr
        refine ⟨worked (Working isOfficeDay config) s s' + k, by push_cast; ring, ?_, ?_⟩
        · rcases le_or_gt s' t with hle | hgt
          · rw [← worked_add hss'.le hle]
            exact Nat.add_le_add_left hk _
          · rw [hover hgt]
            rw [worked_of_le hgt.le] at hk
            omega
        · rintro ⟨u, hsu, hut, hu, hm⟩
          have hs'u := hlands.le_of_later_day h hu (hlater u hsu hm)
          rw [← worked_add hss'.le (hs'u.trans hut.le)]
          exact Nat.add_lt_add_left (hstrict ⟨u, hs'u, hut, hu, Misread.lands h hlands hs hm⟩) _

/-! ## The deadline loop -/

theorem slaLoopWith_done {hourOf : Int → Rat} {x : Rat} (hx : x ≤ 0) (guard : Nat) (current : Int) :
    slaLoopWith hourOf isOfficeDay config guard current x = .ok current := by
  unfold slaLoopWith
  rw [if_pos hx]

theorem slaLoop24_skip (h : Shift config first last) {s : Int} (hs : s % 86400 < 3600) {x : Rat} (hx : 0 < x)
    (guard : Nat) :
    slaLoopWith (getManilaHourPrinted 24) isOfficeDay config (guard + 1) (ofSecond s) x =
      slaLoopWith (getManilaHourPrinted 24) isOfficeDay config guard
        (ofSecond ((s / 86400 + 1) * 86400 + first * 60)) x := by
  rw [slaLoopWith, if_neg (not_le.mpr hx)]
  simp only [h.find_block_24 (le_getManilaHourPrinted_first hs), advanceToNextDayStart_ofSecond h, ite_self]

/-- A day without working seconds from here on is skipped as well by a loop that reads the hour right. -/
theorem slaLoopWith_idle (h : Shift config first last) {hourOf : Int → Rat} {s : Int}
    (hread : ReadsRight isOfficeDay config hourOf s)
    (hidle : ∀ u, s ≤ u → u < (s / 86400 + 1) * 86400 + first * 60 → ¬ Working isOfficeDay config u) {x : Rat}
    (hx : 0 < x) (guard : Nat) :
    slaLoopWith hourOf isOfficeDay config (guard + 1) (ofSecond s) x =
      slaLoopWith hourOf isOfficeDay config guard (ofSecond ((s / 86400 + 1) * 86400 + first * 60)) x := by
  have h0 := h.nonneg
  rw [slaLoopWith, if_neg (not_le.mpr hx)]
  by_cases hday : isSlaDay isOfficeDay config (s / 86400) = true
  · rcases h.find_block_cases (s % 86400) with ⟨hfind, -⟩ | ⟨m, e, -, hm0, hme, he, hre, -, hbusy, -, -⟩
    · simp only [getManilaDateString_ofSecond, hday, hread hday, hfind, advanceToNextDayStart_ofSecond h, Bool.not_true,
        Bool.false_eq_true, if_false]
    · -- a block is left: its first second from here works
      have hw := hidle (s / 86400 * 86400 + max (s % 86400) (m * 60)) (by omega) (by omega)
      refine absurd ⟨?_, ?_⟩ hw
      · rw [show (s / 86400 * 86400 + max (s % 86400) (m * 60)) / 86400 = s / 86400 by omega]
        exact hday
      · rw [show (s / 86400 * 86400 + max (s % 86400) (m * 60)) % 86400 = max (s % 86400) (m * 60) by omega]
        exact hbusy _ (le_max_right _ _) (by omega)
  · rw [Bool.not_eq_true] at hday
    simp only [getManilaDateString_ofSecond, hday, advanceToNextDayStart_ofSecond h, Bool.not_false, if_true]

/-- The loop is the clock's when every misread working second comes after the allowance. -/
theorem slaLoop24_eq (h : Shift config first last) :
    ∀ (guard : Nat) (s : Int) (x : Rat),
      (∀ u, s ≤ u → Working isOfficeDay config u → Misread isOfficeDay config s (u / 86400) →
        x * 3600 ≤ worked (Working isOfficeDay config) s u) →
      slaLoopWith (getManilaHourPrinted 24) isOfficeDay config guard (ofSecond s) x =
        slaLoopWith getManilaHour isOfficeDay config guard (ofSecond s) x := by
  have h0 := h.nonneg
  have h1 := h.lt
  have h2 := h.le_day
  intro guard
  induction guard with
  | zero =>
    intro s x _
    unfold slaLoopWith
    rfl
  | succ guard ih =>
    intro s x hcovered
    by_cases hx : x ≤ 0
    · rw [slaLoopWith_done hx, slaLoopWith_done hx]
    have hx : 0 < x := not_le.mp hx
    by_cases hs : s % 86400 < 3600
    · have hidle : ∀ u, s ≤ u → u < (s / 86400 + 1) * 86400 + first * 60 → ¬ Working isOfficeDay config u := by
        -- the least working second before the next shift would have to come after the whole allowance
        intro u
        induction u using Int.strongRec (m := s) with
        | lt u hus => omega
        | ge u hsu ihu =>
          intro _ hlt hu
          have hle := hcovered u hsu hu (Misread.of_working h hs hsu hlt hu)
          rw [worked_idle fun v hsv hvu => ihu v hvu hsv (hvu.trans hlt), Nat.cast_zero] at hle
          linarith
      rw [slaLoop24_skip h hs hx, slaLoopWith_idle h (readsRight_getManilaHour s) hidle hx]
      apply ih
      intro u hnu hu hm
      have hle := hcovered u (by omega) hu (Misread.of_nextDay h hm)
      rw [← worked_add (a := s) (by omega) hnu, worked_idle hidle, zero_add] at hle
      exact hle
    · have hs : 3600 ≤ s % 86400 := not_lt.mp hs
      rcases slaLoopWith_turn h s hx with ⟨e, -, -, -, -, hturn⟩ | ⟨s', hss', hlands, -, hturn⟩
      · rw [hturn _ (readsRight_late hs 24), hturn _ (readsRight_getManilaHour s)]
      · rw [hturn _ (readsRight_late hs 24), hturn _ (readsRight_getManilaHour s)]
        apply ih
        intro u hs'u hu hm
        have hle := hcovered u (by omega) hu (Misread.of_lands h hlands hss' hs hm)
        rw [← worked_add hss'.le hs'u, Nat.cast_add] at hle
        rw [sub_mul, div_mul_cancel₀ _ (by norm_num)]
        linarith

/-- How a deadline loop that counted `k` seconds ended: at second `c` the remaining `y` seconds lay in a busy
stretch. -/
structure Ends (isOfficeDay : Int → Bool) (config : TicketingConfig) (s : Int) (x : Rat) (c : Int) (y : Rat) (k : Nat)
    (d : Int) : Prop where
  le : s ≤ c
  pos : 0 < y
  left : x * 3600 = k + y
  busy : ∀ t, c ≤ t → ((t - c : Int) : Rat) < y → Working isOfficeDay config t
  deadline : d = ofSecond c + jsRound (y * 1000)

theorem Ends.prepend {s s' : Int} {x y : Rat} {c d : Int} {w k : Nat} (hss' : s ≤ s')
    (he : Ends isOfficeDay config s' (x - w / 3600) c y k d) : Ends isOfficeDay config s x c y (w + k) d := by
  refine ⟨hss'.trans he.le, he.pos, ?_, he.busy, he.deadline⟩
  have hleft := he.left
  rw [sub_mul, div_mul_cancel₀ _ (by norm_num)] at hleft
  push_cast
  linarith

/-- The allowance ends in the busy stretch from `s` to `e`. -/
theorem ends_here {s e : Int} {x : Rat} (hx : 0 < x) (hle : x * 3600 ≤ ((e - s : Int) : Rat))
    (hw : ∀ t, s ≤ t → t < e → Working isOfficeDay config t) :
    Ends isOfficeDay config s x s (x * 3600) 0 (ofSecond s + jsRound (x * 3600 * 1000)) := by
  refine ⟨le_rfl, by positivity, by simp, fun t hst ht => hw t hst ?_, rfl⟩
  have : t - s < e - s := by exact_mod_cast ht.trans_le hle
  omega

/-- The clock's loop ends having counted every working second passed. -/
theorem slaLoop_ends (h : Shift config first last) :
    ∀ (guard : Nat) (s : Int) (x : Rat) (d : Int), 0 < x →
      slaLoopWith getManilaHour isOfficeDay config guard (ofSecond s) x = .ok d →
      ∃ c y, Ends isOfficeDay config s x c y (worked (Working isOfficeDay config) s c) d := by
  intro guard
  induction guard with
  | zero =>
    intro s x d hx hd
    rw [slaLoopWith, if_neg (not_le.mpr hx)] at hd
    cases hd
  | succ guard ih =>
    intro s x d hx hd
    rcases slaLoopWith_turn h s hx with ⟨e, -, -, hle, hw, hturn⟩ | ⟨s', hss', -, hlt, hturn⟩
    · rw [hturn _ (readsRight_getManilaHour s)] at hd
      obtain rfl := Except.ok.inj hd
      refine ⟨s, x * 3600, ?_⟩
      rw [worked_self]
      exact ends_here hx hle hw
    · rw [hturn _ (readsRight_getManilaHour s)] at hd
      have hx' : 0 < x - (worked (Working isOfficeDay config) s s' : Rat) / 3600 := by
        rw [sub_pos, div_lt_iff₀ (by norm_num)]
        exact hlt
      obtain ⟨c, y, he⟩ := ih s' _ d hx' hd
      refine ⟨c, y, ?_⟩
      rw [← worked_add hss'.le he.le]
      exact he.prepend hss'.le

/-- The loop under the printing 24 counts at most the working seconds passed, and fewer when a misread one comes
before the allowance is used up. -/
theorem slaLoop24_ends (h : Shift config first last) :
    ∀ (guard : Nat) (s : Int) (x : Rat) (d : Int), 0 < x →
      slaLoopWith (getManilaHourPrinted 24) isOfficeDay config guard (ofSecond s) x = .ok d →
      ∃ c y k, Ends isOfficeDay config s x c y k d ∧ k ≤ worked (Working isOfficeDay config) s c ∧
        ((∃ u, s ≤ u ∧ Working isOfficeDay config u ∧ Misread isOfficeDay config s (u / 86400) ∧
            (worked (Working isOfficeDay config) s u : Rat) < x * 3600) →
          k < worked (Working isOfficeDay config) s c) := by
  have h0 := h.nonneg
  intro guard
  induction guard with
  | zero =>
    intro s x d hx hd
    rw [slaLoopWith, if_neg (not_le.mpr hx)] at hd
    cases hd
  | succ guard ih =>
    intro s x d hx hd
    by_cases hs : s % 86400 < 3600
    · rw [slaLoop24_skip h hs hx] at hd
      obtain ⟨c, y, k, he, hk, hstrict⟩ := ih _ x d hx hd
      have hsn : s ≤ (s / 86400 + 1) * 86400 + first * 60 := by omega
      have hle : worked (Working isOfficeDay config) ((s / 86400 + 1) * 86400 + first * 60) c ≤
          worked (Working isOfficeDay config) s c := worked_mono_left hsn
      refine ⟨c, y, k, ⟨hsn.trans he.le, he.pos, he.left, he.busy, he.deadline⟩, hk.trans hle, ?_⟩
      rintro ⟨u, hsu, hu, hm, hlt⟩
      rcases Misread.skip h hs hsu hu hm with ⟨v, hsv, hvn, -, hv⟩ | ⟨hnu, hm⟩
      · exact hk.trans_lt (worked_lt_of_work hsv hvn (hvn.trans_le he.le) hv)
      · have hle' : (worked (Working isOfficeDay config) ((s / 86400 + 1) * 86400 + first * 60) u : Rat) ≤
            worked (Working isOfficeDay config) s u := by exact_mod_cast worked_mono_left hsn
        exact (hstrict ⟨u, hnu, hu, hm, hle'.trans_lt hlt⟩).trans_le hle
    · have hs : 3600 ≤ s % 86400 := not_lt.mp hs
      have hlater : ∀ u, s ≤ u → Misread isOfficeDay config s (u / 86400) → s / 86400 < u / 86400 := by
        rintro u - ⟨-, ⟨-, hfirst⟩ | ⟨hd, -⟩⟩
        · omega
        · exact hd
      rcases slaLoopWith_turn h s hx with ⟨e, hse, hed, hle, hw, hturn⟩ | ⟨s', hss', hlands, hlt, hturn⟩
      · rw [hturn _ (readsRight_late hs 24)] at hd
        obtain rfl := Except.ok.inj hd
        refine ⟨s, x * 3600, 0, ends_here hx hle hw, Nat.zero_le _, ?_⟩
        rintro ⟨u, hsu, hu, hm, hlt⟩
        -- the stretch ends before the misread day starts
        have hday := hlater u hsu hm
        have hcount : ((e - s : Int) : Rat) ≤ worked (Working isOfficeDay config) s u := by
          have hmono : worked (Working isOfficeDay config) s e ≤ worked (Working isOfficeDay config) s u :=
            worked_mono_right (by omega)
          rw [worked_busy hw] at hmono
          exact_mod_cast (by omega : e - s ≤ worked (Working isOfficeDay config) s u)
        linarith
      · rw [hturn _ (readsRight_late hs 24)] at hd
        have hx' : 0 < x - (worked (Working isOfficeDay config) s s' : Rat) / 3600 := by
          rw [sub_pos, div_lt_iff₀ (by norm_num)]
          exact hlt
        obtain ⟨c, y, k, he, hk, hstrict⟩ := ih s' _ d hx' hd
        refine ⟨c, y, worked (Working isOfficeDay config) s s' + k, he.prepend hss'.le, ?_, ?_⟩
        · rw [← worked_add hss'.le he.le]
          exact Nat.add_le_add_left hk _
        · rintro ⟨u, hsu, hu, hm, hlt⟩
          have hs'u := hlands.le_of_later_day h hu (hlater u hsu hm)
          rw [← worked_add hss'.le he.le]
          refine Nat.add_lt_add_left (hstrict ⟨u, hs'u, hu, Misread.lands h hlands hs hm, ?_⟩) _
          rw [← worked_add hss'.le hs'u, Nat.cast_add] at hlt
          rw [sub_mul, div_mul_cancel₀ _ (by norm_num)]
          linarith

/-- A loop that lost a working second ends at another instant than one that lost none. -/
theorem Ends.ne {s c c' d d' : Int} {x y y' : Rat} {k' : Nat}
    (he : Ends isOfficeDay config s x c y (worked (Working isOfficeDay config) s c) d)
    (he' : Ends isOfficeDay config s x c' y' k' d') (hlost : k' < worked (Working isOfficeDay config) s c') : d' ≠ d := by
  intro heq
  rw [he.deadline, he'.deadline] at heq
  have hr : (jsRound (y * 1000) : Rat) ≤ y * 1000 + 1 / 2 := Int.floor_le _
  have hr1 : y * 1000 + 1 / 2 < (jsRound (y * 1000) : Rat) + 1 := Int.lt_floor_add_one _
  have hr' : (jsRound (y' * 1000) : Rat) ≤ y' * 1000 + 1 / 2 := Int.floor_le _
  have hr1' : y' * 1000 + 1 / 2 < (jsRound (y' * 1000) : Rat) + 1 := Int.lt_floor_add_one _
  have heq : ((c' * 1000 + jsRound (y' * 1000) : Int) : Rat) = ((c * 1000 + jsRound (y * 1000) : Int) : Rat) := by
    simp only [ofSecond] at heq
    exact_mod_cast (by omega : c' * 1000 + jsRound (y' * 1000) = c * 1000 + jsRound (y * 1000))
  push_cast at heq
  have hleft := he.left
  have hleft' := he'.left
  have hlost : (k' : Rat) + 1 ≤ worked (Working isOfficeDay config) s c' := by exact_mod_cast hlost
  have hpos := he.pos
  rcases le_or_gt c c' with hle | hgt
  · have hlen : (worked (Working isOfficeDay config) c c' : Rat) ≤ ((c' - c : Int) : Rat) := by
      have : worked (Working isOfficeDay config) c c' ≤ (c' - c).toNat := worked_le_length c c'
      exact_mod_cast (by omega : ((worked (Working isOfficeDay config) c c' : Nat) : Int) ≤ c' - c)
    rw [← worked_add he.le hle, Nat.cast_add] at hlost
    push_cast at hlen
    linarith
  · -- the seconds from `c'` to `c` all work
    have hbusy : ∀ t, c' ≤ t → t < c → Working isOfficeDay config t := by
      intro t hct htc
      apply he'.busy t hct
      have htc : ((t - c' : Int) : Rat) ≤ ((c - c' - 1 : Int) : Rat) := by exact_mod_cast (by omega : t - c' ≤ c - c' - 1)
      push_cast at htc ⊢
      linarith
    have hlen : (worked (Working isOfficeDay config) c' c : Rat) = ((c - c' : Int) : Rat) := by
      rw [worked_busy hbusy]
      exact_mod_cast (by omega : (((c - c').toNat : Nat) : Int) = c - c')
    rw [← worked_add he'.le hgt.le, Nat.cast_add, hlen] at hleft
    push_cast at hleft
    linarith

/-! ## When the printing matters -/

/-- No working second from `s` until `t` is on a misread day. -/
def ReadThroughout (isOfficeDay : Int → Bool) (config : TicketingConfig) (s t : Int) : Prop :=
  ∀ u, s ≤ u → u < t → Working isOfficeDay config u → ¬ Misread isOfficeDay config s (u / 86400)

/-- The working seconds from `s` before any working second of a misread day use up the allowance of `x` hours. -/
def UsedUpBefore (isOfficeDay : Int → Bool) (config : TicketingConfig) (s : Int) (x : Rat) : Prop :=
  ∀ u, s ≤ u → Working isOfficeDay config u → Misread isOfficeDay config s (u / 86400) →
    x * 3600 ≤ worked (Working isOfficeDay config) s u

theorem calculateBusinessSeconds_printed_iff (start stop : Int) :
    calculateBusinessSecondsWith (getManilaHourPrinted 24) isOfficeDay config start stop =
        calculateBusinessSecondsWith (getManilaHourPrinted 0) isOfficeDay config start stop ↔
      invalidSchedule config = true ∨
        ReadThroughout isOfficeDay config ((start + manilaOffset) / 1000) ((stop + manilaOffset) / 1000) := by
  unfold calculateBusinessSecondsWith
  rw [getManilaHourPrinted_zero]
  simp only [setMilliseconds_eq, ofSecond_le]
  by_cases hle : (stop + manilaOffset) / 1000 ≤ (start + manilaOffset) / 1000
  · rw [if_pos hle, if_pos hle]
    exact iff_of_true rfl (Or.inr fun u hsu hut => absurd hut (by omega))
  rw [if_neg hle, if_neg hle]
  by_cases hv : invalidSchedule config = true
  · rw [if_pos hv, if_pos hv]
    exact iff_of_true rfl (Or.inl hv)
  rw [if_neg hv, if_neg hv]
  obtain ⟨first, last, h⟩ := exists_minutes ((Bool.not_eq_true _).mp hv)
  have hfuel := iterationsLeft_le_maxIterations h (not_le.mp hle).le
  rw [businessLoopWith_getManilaHour, businessLoop_eq h _ _ _ _ hfuel]
  constructor
  · intro heq
    refine Or.inr fun u hsu hut hu hm => ?_
    cases hloop : businessLoopWith (getManilaHourPrinted 24) isOfficeDay config (ofSecond ((stop + manilaOffset) / 1000))
        (maxIterations (ofSecond ((start + manilaOffset) / 1000)) (ofSecond ((stop + manilaOffset) / 1000)))
        (ofSecond ((start + manilaOffset) / 1000)) 0 with
    | error e =>
      rw [hloop] at heq
      cases heq
    | ok r =>
      obtain ⟨k, rfl, -, hstrict⟩ := businessLoop24_le h _ _ _ _ _ hloop
      rw [hloop] at heq
      have heq := Except.ok.inj heq
      rw [zero_add, zero_add, jsRound_natCast, jsRound_natCast] at heq
      have := hstrict ⟨u, hsu, hut, hu, hm⟩
      omega
  · rintro (hinvalid | hread)
    · exact absurd hinvalid hv
    · rw [businessLoop24_eq h _ _ _ _ hfuel hread]

theorem calculateSlaDeadline_printed (start : Int) {slaHours : Rat}
    (hused : invalidSchedule config = true ∨
      UsedUpBefore isOfficeDay config ((start + manilaOffset) / 1000) slaHours) :
    calculateSlaDeadlineWith (getManilaHourPrinted 24) isOfficeDay config start slaHours =
      calculateSlaDeadlineWith (getManilaHourPrinted 0) isOfficeDay config start slaHours := by
  unfold calculateSlaDeadlineWith
  rw [getManilaHourPrinted_zero]
  simp only [setMilliseconds_eq]
  by_cases hv : invalidSchedule config = true
  · rw [if_pos hv, if_pos hv]
  · obtain ⟨first, last, h⟩ := exists_minutes ((Bool.not_eq_true _).mp hv)
    rw [slaLoop24_eq h _ _ _ (hused.resolve_left hv)]

theorem usedUpBefore_of_printed {start d : Int} {slaHours : Rat}
    (hd : calculateSlaDeadlineWith (getManilaHourPrinted 0) isOfficeDay config start slaHours = .ok d)
    (hd' : calculateSlaDeadlineWith (getManilaHourPrinted 24) isOfficeDay config start slaHours = .ok d) :
    UsedUpBefore isOfficeDay config ((start + manilaOffset) / 1000) slaHours := by
  unfold calculateSlaDeadlineWith at hd hd'
  rw [getManilaHourPrinted_zero] at hd
  simp only [setMilliseconds_eq] at hd hd'
  intro u hsu hu hm
  by_contra hlt
  have hlt := not_le.mp hlt
  by_cases hx : slaHours ≤ 0
  · have : (0 : Rat) ≤ worked (Working isOfficeDay config) ((start + manilaOffset) / 1000) u := Nat.cast_nonneg _
    linarith
  rw [if_neg hx] at hd hd'
  by_cases hv : invalidSchedule config = true
  · rw [if_pos hv] at hd
    cases hd
  rw [if_neg hv] at hd hd'
  obtain ⟨first, last, h⟩ := exists_minutes ((Bool.not_eq_true _).mp hv)
  obtain ⟨c, y, he⟩ := slaLoop_ends h _ _ _ _ (not_le.mp hx) hd
  obtain ⟨c', y', k', he', -, hstrict⟩ := slaLoop24_ends h _ _ _ _ (not_le.mp hx) hd'
  exact he.ne he' (hstrict ⟨u, hsu, hu, hm, hlt⟩) rfl

/-- When the printing of midnight does not matter. The business seconds are the same exactly when no working second
of the interval is on a misread day. The deadline is the same when the allowance is used up before any such second,
and no deadline the clock gives is the same otherwise. -/
theorem midnight_printing_matters_iff (isOfficeDay : Int → Bool) (config : TicketingConfig) (start stop : Int)
    (slaHours : Rat) :
    (calculateBusinessSecondsWith (getManilaHourPrinted 24) isOfficeDay config start stop =
        calculateBusinessSecondsWith (getManilaHourPrinted 0) isOfficeDay config start stop ↔
      invalidSchedule config = true ∨
        ReadThroughout isOfficeDay config ((start + manilaOffset) / 1000) ((stop + manilaOffset) / 1000)) ∧
    (invalidSchedule config = true ∨ UsedUpBefore isOfficeDay config ((start + manilaOffset) / 1000) slaHours →
      calculateSlaDeadlineWith (getManilaHourPrinted 24) isOfficeDay config start slaHours =
        calculateSlaDeadlineWith (getManilaHourPrinted 0) isOfficeDay config start slaHours) ∧
    (∀ d, calculateSlaDeadlineWith (getManilaHourPrinted 0) isOfficeDay config start slaHours = .ok d →
      (calculateSlaDeadlineWith (getManilaHourPrinted 24) isOfficeDay config start slaHours = .ok d ↔
        invalidSchedule config = true ∨
          UsedUpBefore isOfficeDay config ((start + manilaOffset) / 1000) slaHours)) := by
  refine ⟨calculateBusinessSeconds_printed_iff start stop, calculateSlaDeadline_printed start, fun d hd => ?_⟩
  constructor
  · intro hd'
    exact Or.inr (usedUpBefore_of_printed hd hd')
  · intro hused
    rw [calculateSlaDeadline_printed start hused, hd]

/-- Filed at Manila 00:30 of an office day: with midnight printed as 24 the four hours before noon do not count, and
the deadline of one hour moves to the next day. -/
theorem half_past_midnight_skips_the_day :
    calculateBusinessSecondsWith (getManilaHourPrinted 0) (fun _ => true) {} 1727973000000 1728014400000 = .ok 14400 ∧
      calculateBusinessSecondsWith (getManilaHourPrinted 24) (fun _ => true) {} 1727973000000 1728014400000 = .ok 0 ∧
      calculateSlaDeadlineWith (getManilaHourPrinted 0) (fun _ => true) {} 1727973000000 1 = .ok 1728003600000 ∧
      calculateSlaDeadlineWith (getManilaHourPrinted 24) (fun _ => true) {} 1727973000000 1 = .ok 1728090000000 := by
  decide +kernel

end ComplianceHub.Sla
