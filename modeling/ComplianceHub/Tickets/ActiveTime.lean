import ComplianceHub.Lib.AdditiveClock
import ComplianceHub.Tickets.CreditRuns
import ComplianceHub.Tickets.Verdict

/-!
# The active time of a resolution

`resolutionTiming` over any business clock: `calculateTicketActiveResolutionHours` passes the working time of the
ticket's calendar, or plain seconds without a configuration.

* `resolutionTimingOver` : the timing over a clock, and `resolutionTiming_eq` : the service's own is one;
* `contribution` : what an interval contributes, its allowance or the business time of it before the completion;
* `active_time_is_sane` : bounds and sum at every completion time, and monotonicity for intervals that are apart.
-/

namespace ComplianceHub.Tickets
open Lib (IsClock NonOverlapping within within_eq within_add within_nonneg within_of_ge within_of_le sum_within_le)

section
variable (businessSeconds : Int → Int → Rat)

/-- One round of the loop over the credited intervals. -/
def creditInterval (start stop : Int) (credited : Rat × Nat) (interval : SlaPauseCredit) : Rat × Nat :=
  match interval.startAt.parse, interval.endAt.parse with
  | some startAt, some endAt =>
    let pauseStart := max start startAt
    let pauseEnd := min stop endAt
    if pauseEnd ≤ pauseStart then credited
    else (credited.1 + min (interval.creditedSeconds.getD 0) (businessSeconds pauseStart pauseEnd), credited.2 + 1)
  | _, _ => credited

def resolutionTimingOver (t : Ticket) (stop : Int) : Option ResolutionTiming :=
  t.slaStartedAt.map fun start =>
    let elapsed := if start < stop then businessSeconds start stop else 0
    let legacy := legacyPause t
    let (paused, count) := (recordedIntervals t).foldl (creditInterval businessSeconds start stop) (legacy, 0)
    let paused := min elapsed (max 0 paused)
    { elapsedCalendarHours := (max 0 (stop - start) : Int) / 3600000
      elapsedBusinessHours := elapsed / 3600
      creditedPauseHours := paused / 3600
      activeHours := max 0 (elapsed - paused) / 3600
      pauseCount := if 0 < legacy then none else some count
      estimated := t.resolutionTimeOverride.isSome && 0 < legacy }

end

/-! ## The service's clock -/

section
variable {s : Services} {config : Option Sla.TicketingConfig} {seconds : Int → Int → Int}

theorem clippedCredits_eq (h : ∀ a b, a < b → elapsedSeconds s config a b = .ok (seconds a b)) (start stop : Int) :
    ∀ (intervals : List SlaPauseCredit) (credited : Rat × Nat), clippedCredits s config start stop intervals credited =
      .ok (intervals.foldl (creditInterval (fun a b => seconds a b) start stop) credited)
  | [], _ => rfl
  | interval :: rest, credited => by
    rw [List.foldl_cons]
    unfold clippedCredits creditInterval
    cases interval.startAt.parse with
    | none => exact clippedCredits_eq h start stop rest credited
    | some startAt =>
      cases interval.endAt.parse with
      | none => exact clippedCredits_eq h start stop rest credited
      | some endAt =>
        dsimp only
        split_ifs with hempty
        · exact clippedCredits_eq h start stop rest credited
        · rw [h _ _ (not_le.mp hempty)]
          exact clippedCredits_eq h start stop rest _

/-- The timing of the service, where its clock raises nothing. -/
theorem resolutionTiming_eq (h : ∀ a b, a < b → elapsedSeconds s config a b = .ok (seconds a b)) (t : Ticket) (stop : Int) :
    resolutionTiming s config t stop = .ok (resolutionTimingOver (fun a b => seconds a b) t stop) := by
  unfold resolutionTiming resolutionTimingOver
  cases t.slaStartedAt with
  | none => rfl
  | some start =>
    dsimp only [Option.map_some]
    rw [clippedCredits_eq h]
    by_cases hstop : start < stop
    · rw [if_pos hstop, if_pos hstop, h _ _ hstop]
      rfl
    · rw [if_neg hstop, if_neg hstop]
      rfl

end

/-! ## What an interval contributes -/

/-- The start and the end of a credited interval. -/
def bounds (interval : SlaPauseCredit) : Int × Int := (interval.startAt.parse.getD 0, interval.endAt.parse.getD 0)

/-- What one interval adds to the credited seconds. -/
def contribution (businessSeconds : Int → Int → Rat) (start stop : Int) (interval : SlaPauseCredit) : Rat :=
  (creditInterval businessSeconds start stop (0, 0) interval).1

variable {μ : Int → Int → Rat} {t : Ticket} {start stop e e' : Int} {interval : SlaPauseCredit}

theorem creditInterval_eq (credited : Rat × Nat) : (creditInterval μ start stop credited interval).1 =
    credited.1 + contribution μ start stop interval := by
  unfold contribution creditInterval
  cases interval.startAt.parse with
  | none => exact (add_zero _).symm
  | some startAt =>
    cases interval.endAt.parse with
    | none => exact (add_zero _).symm
    | some endAt =>
      dsimp only
      split_ifs
      · exact (add_zero _).symm
      · rw [zero_add]

theorem foldl_creditInterval (intervals : List SlaPauseCredit) (credited : Rat × Nat) :
    (intervals.foldl (creditInterval μ start stop) credited).1 =
      credited.1 + (intervals.map (contribution μ start stop)).sum := by
  induction intervals generalizing credited with
  | nil => exact (add_zero _).symm
  | cons interval rest ih =>
    rw [List.foldl_cons, ih, creditInterval_eq, List.map_cons, List.sum_cons, add_assoc]

theorem bounds_le (h : interval.usable = true) : (bounds interval).1 ≤ (bounds interval).2 ∧
    0 ≤ interval.creditedSeconds.getD 0 ∧ interval.startAt.parse = some (bounds interval).1 ∧
      interval.endAt.parse = some (bounds interval).2 := by
  unfold SlaPauseCredit.usable at h
  unfold bounds
  split at h
  · rename_i seconds start stop hseconds hstart hstop
    rw [hseconds, hstart, hstop]
    simp only [decide_eq_true_eq] at h
    exact ⟨h.2, h.1, rfl, rfl⟩
  · cases h

/-- A usable interval contributes its allowance, or the business time of it that is left. -/
theorem contribution_eq (hμ : IsClock μ) (h : interval.usable = true) (hle : start ≤ stop) :
    contribution μ start stop interval =
      min (interval.creditedSeconds.getD 0) (within μ start stop (bounds interval).1 (bounds interval).2) := by
  obtain ⟨hbounds, hseconds, hstart, hstop⟩ := bounds_le h
  rw [within_eq hμ hle hbounds]
  unfold contribution creditInterval
  rw [hstart, hstop]
  dsimp only
  split_ifs
  · exact (min_eq_right hseconds).symm
  · exact zero_add _

theorem contribution_nonneg (hμ : IsClock μ) (h : interval.usable = true) (start stop : Int) :
    0 ≤ contribution μ start stop interval := by
  obtain ⟨hbounds, hseconds, hstart, hstop⟩ := bounds_le h
  unfold contribution creditInterval
  rw [hstart, hstop]
  dsimp only
  split_ifs with hempty
  · exact le_rfl
  · rw [zero_add]
    exact le_min hseconds (hμ.nonneg _ _ (not_le.mp hempty).le)

/-- A later completion adds at most the business time of the interval in between. -/
theorem contribution_sub_le (hμ : IsClock μ) (h : interval.usable = true) (hle : start ≤ e) (hee : e ≤ e') :
    contribution μ start e' interval ≤
      contribution μ start e interval + within μ e e' (bounds interval).1 (bounds interval).2 := by
  rw [contribution_eq hμ h hle, contribution_eq hμ h (hle.trans hee), ← within_add hμ hle hee, min_add]
  refine le_min ?_ (min_le_right _ _)
  exact (min_le_left _ _).trans (le_add_of_nonneg_right (within_nonneg hμ hee))

/-- Before the start of the clock nothing is credited. -/
theorem contribution_max (h : interval.usable = true) (start stop : Int) :
    contribution μ start (max start stop) interval = contribution μ start stop interval := by
  rcases le_total start stop with hle | hle
  · rw [max_eq_right hle]
  · obtain ⟨-, -, hstart, hstop⟩ := bounds_le h
    rw [max_eq_left hle]
    unfold contribution creditInterval
    rw [hstart, hstop]
    dsimp only
    rw [if_pos ((min_le_left _ _).trans (le_max_left _ _)), if_pos ((min_le_left _ _).trans (hle.trans (le_max_left _ _)))]

theorem usable_of_mem_recordedIntervals (h : interval ∈ recordedIntervals t) : interval.usable = true := by
  unfold recordedIntervals at h
  cases hledger : usablePauseLedger t.toTicketSla with
  | none =>
    rw [hledger] at h
    exact (List.not_mem_nil h).elim
  | some ledger =>
    rw [hledger] at h
    exact (usablePauseLedger_eq_some.mp hledger).2.2.2.1 interval h

theorem legacyPause_nonneg (t : Ticket) : 0 ≤ legacyPause t := by
  unfold legacyPause
  cases hledger : usablePauseLedger t.toTicketSla with
  | none => exact Int.cast_nonneg (le_max_left _ _)
  | some ledger =>
    obtain ⟨-, -, ⟨legacy, hlegacy, hnonneg⟩, -⟩ := usablePauseLedger_eq_some.mp hledger
    change 0 ≤ ledger.legacySeconds.getD 0
    rw [hlegacy]
    exact hnonneg

/-! ## The timing -/

/-- The seconds that are credited up to a completion. -/
def creditedPause (μ : Int → Int → Rat) (t : Ticket) (start stop : Int) : Rat :=
  legacyPause t + ((recordedIntervals t).map (contribution μ start stop)).sum

theorem creditedPause_nonneg (hμ : IsClock μ) (t : Ticket) (start stop : Int) : 0 ≤ creditedPause μ t start stop := by
  refine add_nonneg (legacyPause_nonneg t) (List.sum_nonneg fun x hx => ?_)
  obtain ⟨interval, hinterval, rfl⟩ := List.mem_map.mp hx
  exact contribution_nonneg hμ (usable_of_mem_recordedIntervals hinterval) start stop

theorem creditedPause_max (μ : Int → Int → Rat) (t : Ticket) (start stop : Int) :
    creditedPause μ t start (max start stop) = creditedPause μ t start stop := by
  have hsame : (recordedIntervals t).map (contribution μ start (max start stop)) =
      (recordedIntervals t).map (contribution μ start stop) :=
    List.map_congr_left fun interval hinterval => contribution_max (usable_of_mem_recordedIntervals hinterval) start stop
  rw [creditedPause, hsame]
  rfl

/-- The timing, in the business seconds that have elapsed and those that are credited. -/
theorem resolutionTimingOver_eq (hμ : IsClock μ) (hstart : t.slaStartedAt = some start) (stop : Int) :
    ∃ timing, resolutionTimingOver μ t stop = some timing ∧
      timing.elapsedBusinessHours = μ start (max start stop) / 3600 ∧
      timing.creditedPauseHours = min (μ start (max start stop)) (creditedPause μ t start stop) / 3600 ∧
      timing.activeHours = max 0 (μ start (max start stop) - creditedPause μ t start stop) / 3600 := by
  have helapsed : (if start < stop then μ start stop else 0) = μ start (max start stop) := by
    split_ifs with hlt
    · rw [max_eq_right hlt.le]
    · rw [max_eq_left (not_lt.mp hlt), hμ.self]
  have hpaused : max 0 ((recordedIntervals t).foldl (creditInterval μ start stop) (legacyPause t, 0)).1 =
      creditedPause μ t start stop := by
    rw [foldl_creditInterval]
    exact max_eq_right (creditedPause_nonneg hμ t start stop)
  unfold resolutionTimingOver
  rw [hstart, Option.map_some]
  dsimp only
  rw [helapsed, hpaused]
  refine ⟨_, rfl, rfl, rfl, ?_⟩
  -- what is credited beyond the elapsed time is cut off on both sides
  rcases le_total (μ start (max start stop)) (creditedPause μ t start stop) with hle | hle
  · rw [min_eq_left hle, sub_self, max_self, max_eq_left (sub_nonpos.mpr hle)]
  · rw [min_eq_right hle]

theorem creditedPause_sub_le (hμ : IsClock μ) (hapart : NonOverlapping ((recordedIntervals t).map bounds)) (hle : start ≤ e)
    (hee : e ≤ e') : creditedPause μ t start e' ≤ creditedPause μ t start e + μ e e' := by
  have hintervals : ∀ i ∈ (recordedIntervals t).map bounds, i.1 ≤ i.2 := by
    intro i hi
    obtain ⟨interval, hinterval, rfl⟩ := List.mem_map.mp hi
    exact (bounds_le (usable_of_mem_recordedIntervals hinterval)).1
  have hwindow := sum_within_le hμ _ e e' hee hintervals hapart
  rw [List.map_map] at hwindow
  have hsum : ((recordedIntervals t).map (contribution μ start e')).sum ≤
      ((recordedIntervals t).map (contribution μ start e)).sum +
        ((recordedIntervals t).map ((fun i => within μ e e' i.1 i.2) ∘ bounds)).sum := by
    rw [← List.sum_map_add]
    refine List.sum_le_sum fun interval hinterval => ?_
    exact contribution_sub_le hμ (usable_of_mem_recordedIntervals hinterval) hle hee
  unfold creditedPause
  linarith

theorem resolutionTimingOver_sane (hμ : IsClock μ) (hstart : t.slaStartedAt = some start) (stop : Int) :
    ∃ timing, resolutionTimingOver μ t stop = some timing ∧ 0 ≤ timing.creditedPauseHours ∧ 0 ≤ timing.activeHours ∧
      timing.activeHours + timing.creditedPauseHours = timing.elapsedBusinessHours ∧
      timing.creditedPauseHours * 3600 = min (timing.elapsedBusinessHours * 3600) (creditedPause μ t start stop) := by
  obtain ⟨timing, htiming, helapsed, hcredited, hactive⟩ := resolutionTimingOver_eq hμ hstart stop
  have hnonneg : 0 ≤ μ start (max start stop) := hμ.nonneg _ _ (le_max_left _ _)
  have hpause := creditedPause_nonneg hμ t start stop
  refine ⟨timing, htiming, ?_, ?_, ?_, ?_⟩
  · rw [hcredited]
    exact div_nonneg (le_min hnonneg hpause) (by norm_num)
  · rw [hactive]
    exact div_nonneg (le_max_left _ _) (by norm_num)
  · rw [hactive, hcredited, helapsed, ← add_div]
    rcases le_total (μ start (max start stop)) (creditedPause μ t start stop) with hle | hle
    · rw [min_eq_left hle, max_eq_left (sub_nonpos.mpr hle), zero_add]
    · rw [min_eq_right hle, max_eq_right (sub_nonneg.mpr hle), sub_add_cancel]
  · rw [hcredited, helapsed, div_mul_cancel₀ _ (by norm_num), div_mul_cancel₀ _ (by norm_num)]

theorem contribution_of_le (h : interval.usable = true) (start : Int) (hle : stop ≤ (bounds interval).1) :
    contribution μ start stop interval = 0 := by
  obtain ⟨-, -, hfrom, hto⟩ := bounds_le h
  unfold contribution creditInterval
  rw [hfrom, hto]
  dsimp only
  rw [if_pos ((min_le_left _ _).trans (hle.trans (le_max_right _ _)))]

theorem contribution_cut (hμ : IsClock μ) (h : interval.usable = true) (hle : start ≤ stop)
    (hfrom : (bounds interval).1 < stop) (hto : stop < (bounds interval).2) :
    contribution μ start stop interval =
      min (interval.creditedSeconds.getD 0) (μ (max start (bounds interval).1) stop) := by
  rw [contribution_eq hμ h hle, within_eq hμ hle (bounds_le h).1, min_eq_left hto.le]
  split_ifs with hempty
  · -- the completion is the start of the clock
    have hsame : max start (bounds interval).1 = stop := (max_le hle hfrom.le).antisymm hempty
    rw [hsame, hμ.self]
  · rfl

/-- An earlier completion has no more active time. -/
theorem activeHours_mono (hμ : IsClock μ) (hstart : t.slaStartedAt = some start)
    (hapart : NonOverlapping ((recordedIntervals t).map bounds)) (hee : e ≤ e') {timing timing' : ResolutionTiming}
    (htiming : resolutionTimingOver μ t e = some timing) (htiming' : resolutionTimingOver μ t e' = some timing') :
    timing.activeHours ≤ timing'.activeHours := by
  obtain ⟨_, h, -, -, hactive⟩ := resolutionTimingOver_eq hμ hstart e
  obtain ⟨_, h', -, -, hactive'⟩ := resolutionTimingOver_eq hμ hstart e'
  obtain rfl := Option.some_injective _ (htiming.symm.trans h)
  obtain rfl := Option.some_injective _ (htiming'.symm.trans h')
  have hmax : max start e ≤ max start e' := max_le_max le_rfl hee
  have hcredits := creditedPause_sub_le hμ hapart (le_max_left start e) hmax
  have helapsed := hμ.add start _ _ (le_max_left start e) hmax
  rw [creditedPause_max, creditedPause_max] at hcredits
  rw [hactive, hactive']
  refine div_le_div_of_nonneg_right (max_le_max le_rfl ?_) (by norm_num)
  linarith

/-- Plain seconds, as without a configuration. -/
def plainSeconds (a b : Int) : Rat := ((b - a : Int) : Rat) / 1000

theorem isClock_plainSeconds : IsClock plainSeconds where
  nonneg a b h := div_nonneg (Int.cast_nonneg (sub_nonneg.mpr h)) (by norm_num)
  add a b c _ _ := by
    rw [plainSeconds, plainSeconds, plainSeconds, ← add_div, ← Int.cast_add, add_comm, sub_add_sub_cancel]

end ComplianceHub.Tickets
