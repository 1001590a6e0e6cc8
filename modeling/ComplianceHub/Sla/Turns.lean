import ComplianceHub.Lib.WorkClock
import ComplianceHub.Sla.Seconds

/-!
# One turn of the SLA loops

Both loops read the hour of the day through `Intl.DateTimeFormat`; here they take that reading as the
parameter `hourOf`, and with `getManilaHour` they are the loops of the clock (`slaLoopWith_getManilaHour`,
`businessLoopWith_getManilaHour`).

* `Lands` : where a turn leaves the current second;
* `businessLoopWith_turn`, `slaLoopWith_turn` : a turn at a second whose hour is read right ends the loop, or
  moves on and accounts for exactly the working seconds passed.
-/

namespace ComplianceHub.Sla

open WorkClock

section
variable (hourOf : Int → Rat) (isOfficeDay : Int → Bool) (config : TicketingConfig)

/-- The loop of `calculateSlaDeadline` where `hourOf` reads the Manila hour. -/
def slaLoopWith : Nat → Int → Rat → Except HttpException Int
  | guard, current, remainingHours =>
    if remainingHours ≤ 0 then .ok current
    else match guard with
      | 0 => .error (.serviceUnavailable "The SLA calendar could not produce a complete deadline.")
      | guard + 1 =>
        if !isSlaDay isOfficeDay config (getManilaDateString current) then
          slaLoopWith guard (advanceToNextDayStart config current) remainingHours
        else
          let manilaHour := hourOf current
          match (blocks config).find? (fun b => manilaHour < b.stop) with
          | none => slaLoopWith guard (advanceToNextDayStart config current) remainingHours
          | some block =>
            if manilaHour < block.start then
              slaLoopWith guard (createManilaDate (getManilaDateString current) 0 block.start) remainingHours
            else
              let availableHoursInBlock := block.stop - manilaHour
              if remainingHours ≤ availableHoursInBlock then
                slaLoopWith guard (current + jsRound (remainingHours * 3600 * 1000)) 0
              else
                slaLoopWith guard (createManilaDate (getManilaDateString current) 0 block.stop)
                  (remainingHours - availableHoursInBlock)

def calculateSlaDeadlineWith (start : Int) (slaHours : Rat) : Except HttpException Int :=
  let start := setMilliseconds start
  if slaHours ≤ 0 then .ok start
  else if invalidSchedule config then .error (.badRequest "Invalid SLA clock or working schedule.")
  else slaLoopWith hourOf isOfficeDay config 200000 start slaHours

/-- The loop of `calculateBusinessSeconds` where `hourOf` reads the Manila hour. -/
def businessLoopWith (stop : Int) : Nat → Int → Rat → Except HttpException Rat
  | guard, current, seconds =>
    if stop ≤ current then .ok seconds
    else match guard with
      | 0 => .error (.serviceUnavailable "The SLA calendar did not progress through the complete interval.")
      | guard + 1 =>
        if !isSlaDay isOfficeDay config (getManilaDateString current) then
          businessLoopWith stop guard (advanceToNextDayStart config current) seconds
        else
          let manilaHour := hourOf current
          match (blocks config).find? (fun b => manilaHour < b.stop) with
          | none => businessLoopWith stop guard (advanceToNextDayStart config current) seconds
          | some block =>
            if manilaHour < block.start then
              let current := createManilaDate (getManilaDateString current) 0 block.start
              if stop ≤ current then .ok seconds else businessLoopWith stop guard current seconds
            else
              let endManilaHour := hourOf stop
              let endsToday := getManilaDateString current = getManilaDateString stop
              let effectiveEndHour := if endsToday ∧ endManilaHour < block.stop then endManilaHour else block.stop
              let hoursThisBlock := effectiveEndHour - manilaHour
              let seconds := if hoursThisBlock > 0 then seconds + hoursThisBlock * 3600 else seconds
              if endsToday ∧ endManilaHour ≤ block.stop then .ok seconds
              else businessLoopWith stop guard (createManilaDate (getManilaDateString current) 0 block.stop) seconds

def calculateBusinessSecondsWith (start stop : Int) : Except HttpException Int :=
  let start := setMilliseconds start
  let stop := setMilliseconds stop
  if stop ≤ start then .ok 0
  else if invalidSchedule config then .error (.badRequest "Invalid SLA interval or working schedule.")
  else (businessLoopWith hourOf isOfficeDay config stop (maxIterations start stop) start 0).map jsRound

end

section
variable (isOfficeDay : Int → Bool) (config : TicketingConfig)

theorem slaLoopWith_getManilaHour (guard : Nat) : ∀ (current : Int) (remainingHours : Rat),
    slaLoopWith getManilaHour isOfficeDay config guard current remainingHours =
      slaLoop isOfficeDay config guard current remainingHours := by
  induction guard with
  | zero =>
    intro current remainingHours
    unfold slaLoopWith slaLoop
    rfl
  | succ guard ih =>
    intro current remainingHours
    unfold slaLoop
    simp only [← ih]
    rfl

theorem businessLoopWith_getManilaHour (stop : Int) (guard : Nat) : ∀ (current : Int) (seconds : Rat),
    businessLoopWith getManilaHour isOfficeDay config stop guard current seconds =
      businessLoop isOfficeDay config stop guard current seconds := by
  induction guard with
  | zero =>
    intro current seconds
    unfold businessLoopWith businessLoop
    rfl
  | succ guard ih =>
    intro current seconds
    unfold businessLoop
    simp only [← ih]
    rfl

end

variable {isOfficeDay : Int → Bool} {config : TicketingConfig} {first last : Int}

/-! ## Idle and busy stretches of the calendar -/

/-- Nothing works from here to the next day's shift when the day is not an SLA day or no block is left. -/
theorem not_working_until_next_day (h : Shift config first last) {s : Int}
    (hs : isSlaDay isOfficeDay config (s / 86400) = false ∨ ∀ t, s % 86400 ≤ t → ¬ InBlocks config t) :
    ∀ t, s ≤ t → t < (s / 86400 + 1) * 86400 + first * 60 → ¬ Working isOfficeDay config t := by
  rintro t hst ht ⟨hday, hin⟩
  have h1 := h.lt
  have h2 := h.le_day
  by_cases hsame : t / 86400 = s / 86400
  · rcases hs with hs | hs
    · rw [hsame, hs] at hday
      exact Bool.false_ne_true hday
    · exact hs (t % 86400) (by omega) hin
  · exact h.not_inBlocks_before (t := t % 86400) (by omega) hin

/-- Nothing works from here to the start of the next block of the day. -/
theorem not_working_until_block {s m : Int} (hm : m ≤ 1440)
    (hin : ∀ t, s % 86400 ≤ t → t < m * 60 → ¬ InBlocks config t) :
    ∀ t, s ≤ t → t < s / 86400 * 86400 + m * 60 → ¬ Working isOfficeDay config t := by
  rintro t hst ht ⟨-, hw⟩
  exact hin (t % 86400) (by omega) (by omega) hw

/-- Every second from here to the end of the current block of an SLA day works. -/
theorem working_until_block_end {s m e : Int} (hday : isSlaDay isOfficeDay config (s / 86400) = true)
    (hs : m * 60 ≤ s % 86400) (he : e ≤ 1440) (hin : ∀ t, m * 60 ≤ t → t < e * 60 → InBlocks config t) :
    ∀ t, s ≤ t → t < s / 86400 * 86400 + e * 60 → Working isOfficeDay config t := by
  intro t hst ht
  have hsame : t / 86400 = s / 86400 := by omega
  exact ⟨hsame ▸ hday, hin (t % 86400) (by omega) (by omega)⟩

theorem advanceToNextDayStart_ofSecond (h : Shift config first last) (s : Int) :
    advanceToNextDayStart config (ofSecond s) = ofSecond ((s / 86400 + 1) * 86400 + first * 60) := by
  rw [advanceToNextDayStart, h.start_eq, createManilaDate_minute, getManilaDateString_ofSecond]

/-! ## Turns -/

/-- Wherever the loops look at the hour of second `s`, `hourOf` reads the second of the day. -/
def ReadsRight (isOfficeDay : Int → Bool) (config : TicketingConfig) (hourOf : Int → Rat) (s : Int) : Prop :=
  isSlaDay isOfficeDay config (s / 86400) = true → hourOf (ofSecond s) = ((s % 86400 : Int) : Rat) / 3600

theorem readsRight_getManilaHour (s : Int) : ReadsRight isOfficeDay config getManilaHour s :=
  fun _ => getManilaHour_ofSecond s

/-- Where a turn leaves second `s`: at the next day's shift, at a later second of the day, or, from a block
that lasts until 24:00, at the next midnight. -/
inductive Lands (isOfficeDay : Int → Bool) (config : TicketingConfig) (first last s : Int) : Int → Prop
  | nextDay : isSlaDay isOfficeDay config (s / 86400) = false ∨ last < 1440 →
      Lands isOfficeDay config first last s ((s / 86400 + 1) * 86400 + first * 60)
  | sameDay {s'} : s' / 86400 = s / 86400 → Lands isOfficeDay config first last s s'
  | midnight : isSlaDay isOfficeDay config (s / 86400) = true → last = 1440 →
      Lands isOfficeDay config first last s ((s / 86400 + 1) * 86400)

/-- A block that ends at 24:00 ends the shift. -/
theorem Shift.last_eq_of_block (h : Shift config first last) {m e : Int} (hme : m < e) (he : e = 1440)
    (hbusy : ∀ t, m * 60 ≤ t → t < e * 60 → InBlocks config t) : last = 1440 := by
  have hin := hbusy (e * 60 - 1) (by omega) (by omega)
  rw [h.inBlocks_iff] at hin
  have := h.le_day
  omega

/-- A second of an SLA day after every block: the shift ends before 24:00. -/
theorem Shift.last_lt_of_none (h : Shift config first last) {r : Int} (hr : r < 86400)
    (hin : ∀ t, r ≤ t → ¬ InBlocks config t) : last < 1440 := by
  by_contra hlast
  apply hin 86399 (by omega)
  rw [h.inBlocks_iff]
  have := h.lt
  have := h.le_day
  omega

/-- The end of a block of the day is a second of the day, or the next midnight. -/
theorem Shift.lands_block_end (h : Shift config first last) {s m e : Int}
    (hday : isSlaDay isOfficeDay config (s / 86400) = true) (hm : 0 ≤ m) (hme : m < e) (he : e ≤ 1440)
    (hbusy : ∀ t, m * 60 ≤ t → t < e * 60 → InBlocks config t) :
    Lands isOfficeDay config first last s (s / 86400 * 86400 + e * 60) := by
  rcases he.lt_or_eq with he | he
  · exact .sameDay (by omega)
  · have hlast := h.last_eq_of_block hme he hbusy
    rw [he, show s / 86400 * 86400 + 1440 * 60 = (s / 86400 + 1) * 86400 by omega]
    exact .midnight hday hlast

/-- A turn of the deadline loop at a second whose hour is read right: the allowance ends in the block, or the
turn moves on and takes off the working seconds passed. -/
theorem slaLoopWith_turn (h : Shift config first last) (s : Int) {x : Rat} (hx : 0 < x) :
    (∃ e, s < e ∧ e ≤ (s / 86400 + 1) * 86400 ∧ x * 3600 ≤ ((e - s : Int) : Rat) ∧
      (∀ t, s ≤ t → t < e → Working isOfficeDay config t) ∧
      ∀ hourOf, ReadsRight isOfficeDay config hourOf s → ∀ guard,
        slaLoopWith hourOf isOfficeDay config (guard + 1) (ofSecond s) x =
          .ok (ofSecond s + jsRound (x * 3600 * 1000))) ∨
    ∃ s', s < s' ∧ Lands isOfficeDay config first last s s' ∧ (worked (Working isOfficeDay config) s s' : Rat) < x * 3600 ∧
      ∀ hourOf, ReadsRight isOfficeDay config hourOf s → ∀ guard,
        slaLoopWith hourOf isOfficeDay config (guard + 1) (ofSecond s) x =
          slaLoopWith hourOf isOfficeDay config guard (ofSecond s')
            (x - worked (Working isOfficeDay config) s s' / 3600) := by
  have h0 := h.nonneg
  have hpos : ¬ x ≤ 0 := not_le.mpr hx
  have hidleTurn : ∀ s', s < s' → Lands isOfficeDay config first last s s' →
      (∀ t, s ≤ t → t < s' → ¬ Working isOfficeDay config t) →
      (∀ hourOf, ReadsRight isOfficeDay config hourOf s → ∀ guard,
        slaLoopWith hourOf isOfficeDay config (guard + 1) (ofSecond s) x =
          slaLoopWith hourOf isOfficeDay config guard (ofSecond s') x) →
      ∃ s', s < s' ∧ Lands isOfficeDay config first last s s' ∧ (worked (Working isOfficeDay config) s s' : Rat) < x * 3600 ∧
        ∀ hourOf, ReadsRight isOfficeDay config hourOf s → ∀ guard,
          slaLoopWith hourOf isOfficeDay config (guard + 1) (ofSecond s) x =
            slaLoopWith hourOf isOfficeDay config guard (ofSecond s')
              (x - worked (Working isOfficeDay config) s s' / 3600) := by
    intro s' hlt hlands hidle hturn
    refine ⟨s', hlt, hlands, ?_, fun hourOf hs guard => ?_⟩
    · rw [worked_idle hidle, Nat.cast_zero]
      positivity
    · rw [worked_idle hidle, Nat.cast_zero, zero_div, sub_zero]
      exact hturn hourOf hs guard
  by_cases hday : isSlaDay isOfficeDay config (s / 86400) = true
  · rcases h.find_block_cases (s % 86400) with ⟨hfind, hin⟩ | ⟨m, e, hfind, hm0, hme, he, hre, hidle, hbusy, -, -⟩
    · -- no block is left
      refine Or.inr (hidleTurn _ (by omega) (.nextDay (Or.inr (h.last_lt_of_none (by omega) hin)))
        (not_working_until_next_day h (Or.inr hin)) fun hourOf hs guard => ?_)
      rw [slaLoopWith, if_neg hpos]
      simp only [getManilaDateString_ofSecond, hday, hs hday, hfind, advanceToNextDayStart_ofSecond h, Bool.not_true,
        Bool.false_eq_true, if_false]
    · by_cases hrm : s % 86400 < m * 60
      · -- before the block: jump to its start
        refine Or.inr (hidleTurn (s / 86400 * 86400 + m * 60) (by omega) (.sameDay (by omega))
          (not_working_until_block (by omega) hidle) fun hourOf hs guard => ?_)
        rw [slaLoopWith, if_neg hpos]
        simp only [getManilaDateString_ofSecond, hday, hs hday, hfind, div3600_lt_div60, hrm, createManilaDate_minute,
          add_zero, Bool.not_true, Bool.false_eq_true, if_false, if_true]
      · have hw := working_until_block_end hday (by omega) he hbusy
        have hav : ((e : Rat) / 60 - ((s % 86400 : Int) : Rat) / 3600) = ((e * 60 - s % 86400 : Int) : Rat) / 3600 := by
          push_cast
          ring
        by_cases hle : x ≤ ((e * 60 - s % 86400 : Int) : Rat) / 3600
        · -- the allowance ends inside the block
          refine Or.inl ⟨s / 86400 * 86400 + e * 60, by omega, by omega, ?_, hw, fun hourOf hs guard => ?_⟩
          · rw [show s / 86400 * 86400 + e * 60 - s = e * 60 - s % 86400 by omega]
            exact (le_div_iff₀ (by norm_num)).mp hle
          · rw [slaLoopWith, if_neg hpos]
            simp only [getManilaDateString_ofSecond, hday, hs hday, hfind, div3600_lt_div60, hrm, hav, hle,
              Bool.not_true, Bool.false_eq_true, if_false, if_true]
            unfold slaLoopWith
            rw [if_pos le_rfl]
        · -- the block is used up
          have hcount : (worked (Working isOfficeDay config) s (s / 86400 * 86400 + e * 60) : Rat) =
              ((e * 60 - s % 86400 : Int) : Rat) := by
            rw [worked_busy hw, show s / 86400 * 86400 + e * 60 - s = e * 60 - s % 86400 by omega]
            exact_mod_cast (by omega : (((e * 60 - s % 86400).toNat : Nat) : Int) = e * 60 - s % 86400)
          refine Or.inr ⟨s / 86400 * 86400 + e * 60, by omega, h.lands_block_end hday hm0 hme he hbusy, ?_, fun hourOf hs guard => ?_⟩
          · rw [hcount]
            exact (div_lt_iff₀ (by norm_num)).mp (not_le.mp hle)
          · rw [slaLoopWith, if_neg hpos, hcount]
            simp only [getManilaDateString_ofSecond, hday, hs hday, hfind, div3600_lt_div60, hrm, hav, hle,
              createManilaDate_minute, add_zero, Bool.not_true, Bool.false_eq_true, if_false]
  · -- not an SLA day
    rw [Bool.not_eq_true] at hday
    refine Or.inr (hidleTurn _ (by omega) (.nextDay (Or.inl hday))
      (not_working_until_next_day h (Or.inl hday)) fun hourOf hs guard => ?_)
    rw [slaLoopWith, if_neg hpos]
    simp only [getManilaDateString_ofSecond, hday, advanceToNextDayStart_ofSecond h, Bool.not_false, if_true]

/-- The iterations left from second `s` until second `t`. -/
def iterationsLeft (config : TicketingConfig) (s t : Int) : Nat :=
  5 * (t / 86400 - s / 86400).toNat + phase config (s % 86400)

theorem businessLoopWith_done {hourOf : Int → Rat} {s t : Int} (hts : t ≤ s) (guard : Nat) (acc : Rat) :
    businessLoopWith hourOf isOfficeDay config (ofSecond t) guard (ofSecond s) acc = .ok acc := by
  unfold businessLoopWith
  rw [if_pos (ofSecond_le.mpr hts)]

/-- A turn of the business loop at a second whose hour is read right: the interval ends in the day, or the turn
moves on, adds the working seconds passed and uses up one of the iterations left. -/
theorem businessLoopWith_turn (h : Shift config first last) {s t : Int} (hst : s < t) :
    (t ≤ (s / 86400 + 1) * 86400 ∧
      ∀ hourOf, ReadsRight isOfficeDay config hourOf s →
        (t / 86400 = s / 86400 → ReadsRight isOfficeDay config hourOf t) → ∀ guard acc,
        businessLoopWith hourOf isOfficeDay config (ofSecond t) (guard + 1) (ofSecond s) acc =
          .ok (acc + worked (Working isOfficeDay config) s t)) ∨
    ∃ s', s < s' ∧ Lands isOfficeDay config first last s s' ∧
      (s' ≤ t → iterationsLeft config s' t < iterationsLeft config s t) ∧
      (t < s' → worked (Working isOfficeDay config) s s' = 0) ∧
      ∀ hourOf, ReadsRight isOfficeDay config hourOf s →
        (t / 86400 = s / 86400 → ReadsRight isOfficeDay config hourOf t) → ∀ guard acc,
        businessLoopWith hourOf isOfficeDay config (ofSecond t) (guard + 1) (ofSecond s) acc =
          businessLoopWith hourOf isOfficeDay config (ofSecond t) guard (ofSecond s')
            (acc + worked (Working isOfficeDay config) s s') := by
  have h0 := h.nonneg
  have hpos : ¬ ofSecond t ≤ ofSecond s := fun hc => absurd (ofSecond_le.mp hc) (not_le.mpr hst)
  have hph : 1 ≤ phase config (s % 86400) := phase_pos _ _
  have hnextDay : (isSlaDay isOfficeDay config (s / 86400) = false ∨ ∀ u, s % 86400 ≤ u → ¬ InBlocks config u) →
      (isSlaDay isOfficeDay config (s / 86400) = false ∨ last < 1440) →
      (∀ hourOf, ReadsRight isOfficeDay config hourOf s → ∀ guard acc,
        businessLoopWith hourOf isOfficeDay config (ofSecond t) (guard + 1) (ofSecond s) acc =
          businessLoopWith hourOf isOfficeDay config (ofSecond t) guard
            (ofSecond ((s / 86400 + 1) * 86400 + first * 60)) acc) →
      ∃ s', s < s' ∧ Lands isOfficeDay config first last s s' ∧
        (s' ≤ t → iterationsLeft config s' t < iterationsLeft config s t) ∧
        (t < s' → worked (Working isOfficeDay config) s s' = 0) ∧
        ∀ hourOf, ReadsRight isOfficeDay config hourOf s →
          (t / 86400 = s / 86400 → ReadsRight isOfficeDay config hourOf t) → ∀ guard acc,
          businessLoopWith hourOf isOfficeDay config (ofSecond t) (guard + 1) (ofSecond s) acc =
            businessLoopWith hourOf isOfficeDay config (ofSecond t) guard (ofSecond s')
              (acc + worked (Working isOfficeDay config) s s') := by
    intro hno hlands hturn
    refine ⟨_, by omega, .nextDay hlands, fun hle => ?_, fun _ => worked_idle (not_working_until_next_day h hno),
      fun hourOf hs _ guard acc => ?_⟩
    · have h1 := h.lt
      have h2 := h.le_day
      have hle5 := h.phase_le (((s / 86400 + 1) * 86400 + first * 60) % 86400)
      unfold iterationsLeft
      omega
    · rw [worked_idle (not_working_until_next_day h hno), Nat.cast_zero, add_zero]
      exact hturn hourOf hs guard acc
  by_cases hday : isSlaDay isOfficeDay config (s / 86400) = true
  · rcases h.find_block_cases (s % 86400) with ⟨hfind, hin⟩ |
      ⟨m, e, hfind, hm0, hme, he, hre, hidle, hbusy, hph1, hph2⟩
    · -- no block is left
      refine Or.inr (hnextDay (Or.inr hin) (Or.inr (h.last_lt_of_none (by omega) hin)) fun hourOf hs guard acc => ?_)
      rw [businessLoopWith, if_neg hpos]
      simp only [getManilaDateString_ofSecond, hday, hs hday, hfind, advanceToNextDayStart_ofSecond h, Bool.not_true,
        Bool.false_eq_true, if_false]
    · by_cases hrm : s % 86400 < m * 60
      · -- before the block: jump to its start, or end before it
        have hidle' : ∀ u, s ≤ u → u < s / 86400 * 86400 + m * 60 → ¬ Working isOfficeDay config u :=
          not_working_until_block (by omega) hidle
        by_cases hend : t ≤ s / 86400 * 86400 + m * 60
        · refine Or.inl ⟨by omega, fun hourOf hs ht guard acc => ?_⟩
          rw [worked_idle fun u hu hut => hidle' u hu (hut.trans_le hend), Nat.cast_zero, add_zero,
            businessLoopWith, if_neg hpos]
          simp only [getManilaDateString_ofSecond, hday, hs hday, hfind, div3600_lt_div60, hrm, createManilaDate_minute,
            add_zero, ofSecond_le, hend, Bool.not_true, Bool.false_eq_true, if_false, if_true]
        · refine Or.inr ⟨s / 86400 * 86400 + m * 60, by omega, .sameDay (by omega), fun hle => ?_,
            fun _ => worked_idle hidle', fun hourOf hs ht guard acc => ?_⟩
          · have hmod : (s / 86400 * 86400 + m * 60) % 86400 = m * 60 := by omega
            have := hph1 hrm
            unfold iterationsLeft
            rw [hmod]
            omega
          · rw [worked_idle hidle', Nat.cast_zero, add_zero, businessLoopWith, if_neg hpos]
            simp only [getManilaDateString_ofSecond, hday, hs hday, hfind, div3600_lt_div60, hrm, createManilaDate_minute,
              add_zero, ofSecond_le, hend, Bool.not_true, Bool.false_eq_true, if_false, if_true]
      · have hw := working_until_block_end hday (by omega) he hbusy
        by_cases hend : t / 86400 = s / 86400 ∧ t % 86400 ≤ e * 60
        · -- the interval ends in this block
          have hcond : s / 86400 = t / 86400 ∧ ((t % 86400 : Int) : Rat) / 3600 ≤ (e : Rat) / 60 := by
            refine ⟨hend.1.symm, ?_⟩
            rw [div_le_div_iff₀ (by norm_num) (by norm_num)]
            exact_mod_cast (by omega : t % 86400 * 60 ≤ e * 3600)
          have heff : (if s / 86400 = t / 86400 ∧ ((t % 86400 : Int) : Rat) / 3600 < (e : Rat) / 60 then
              ((t % 86400 : Int) : Rat) / 3600 else (e : Rat) / 60) = ((t % 86400 : Int) : Rat) / 3600 := by
            by_cases hlt : ((t % 86400 : Int) : Rat) / 3600 < (e : Rat) / 60
            · exact if_pos ⟨hend.1.symm, hlt⟩
            · rw [if_neg fun hc => hlt hc.2]
              exact le_antisymm (not_lt.mp hlt) hcond.2
          have hgt : ((t % 86400 : Int) : Rat) / 3600 - ((s % 86400 : Int) : Rat) / 3600 > 0 := by
            rw [gt_iff_lt, sub_pos, div_lt_div_iff_of_pos_right (by norm_num)]
            exact_mod_cast (by omega : s % 86400 < t % 86400)
          refine Or.inl ⟨by omega, fun hourOf hs ht guard acc => ?_⟩
          rw [worked_busy fun u hu hut => hw u hu (by omega), businessLoopWith, if_neg hpos]
          simp only [getManilaDateString_ofSecond, hday, hs hday, ht hend.1 (hend.1 ▸ hday), hfind, div3600_lt_div60, hrm, Bool.not_true,
            Bool.false_eq_true, if_false]
          simp only [← div3600_lt_div60]
          rw [heff, if_pos hcond, if_pos hgt]
          congr 2
          have : (((t - s).toNat : Int) : Rat) = ((t % 86400 - s % 86400 : Int) : Rat) := by
            congr 1
            omega
          push_cast at this ⊢
          rw [this]
          ring
        · -- the block is used up
          have hcond : ∀ hourOf, (t / 86400 = s / 86400 → ReadsRight isOfficeDay config hourOf t) →
              ¬ (s / 86400 = t / 86400 ∧ hourOf (ofSecond t) ≤ (e : Rat) / 60) := by
            rintro hourOf ht ⟨ha, hb⟩
            rw [ht ha.symm (ha ▸ hday), div_le_div_iff₀ (by norm_num) (by norm_num)] at hb
            have : t % 86400 * 60 ≤ e * 3600 := by exact_mod_cast hb
            exact hend ⟨ha.symm, by omega⟩
          have hgt : (e : Rat) / 60 - ((s % 86400 : Int) : Rat) / 3600 > 0 := by
            rw [gt_iff_lt, sub_pos, div3600_lt_div60]
            exact hre
          refine Or.inr ⟨s / 86400 * 86400 + e * 60, by omega, h.lands_block_end hday hm0 hme he hbusy, fun hle => ?_,
            fun hc => absurd hc (by omega), fun hourOf hs ht guard acc => ?_⟩
          · unfold iterationsLeft
            rcases he.lt_or_eq with he | he
            · have hmod : (s / 86400 * 86400 + e * 60) % 86400 = e * 60 := by omega
              have := hph2 (by omega)
              rw [hmod]
              omega
            · have := h.phase_le ((s / 86400 * 86400 + e * 60) % 86400)
              omega
          · rw [worked_busy hw, businessLoopWith, if_neg hpos]
            simp only [getManilaDateString_ofSecond, hday, hs hday, hfind, div3600_lt_div60, hrm, createManilaDate_minute,
              add_zero, Bool.not_true, Bool.false_eq_true, if_false]
            have hlt : ¬ (s / 86400 = t / 86400 ∧ hourOf (ofSecond t) < (e : Rat) / 60) :=
              fun hc => hcond hourOf ht ⟨hc.1, hc.2.le⟩
            rw [if_neg (hcond hourOf ht), if_neg hlt, if_pos hgt]
            congr 1
            have : (((s / 86400 * 86400 + e * 60 - s).toNat : Int) : Rat) = ((e * 60 - s % 86400 : Int) : Rat) := by
              congr 1
              omega
            push_cast at this ⊢
            rw [this]
            ring
  · -- not an SLA day
    rw [Bool.not_eq_true] at hday
    refine Or.inr (hnextDay (Or.inl hday) (Or.inl hday) fun hourOf hs guard acc => ?_)
    rw [businessLoopWith, if_neg hpos]
    simp only [getManilaDateString_ofSecond, hday, advanceToNextDayStart_ofSecond h, Bool.not_false, if_true]

end ComplianceHub.Sla
