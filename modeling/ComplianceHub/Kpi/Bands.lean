import ComplianceHub.Kpi.Monotone

/-!
# The bands of the dashboards

* `ensureLookups` : the thresholds and the scoring rule that are created where there are none;
* `MatchesBand` : a band is a known one, and holds the score shown beside it;
* `InGap` : the scores between two bands; `classifyScore_matches_iff` : a score has a band unless it is one of them;
* `BandsMatch`, `OutOfGaps` : the bands of all dashboards, and the exact scores they show;
* `bands_match_iff` : the bands match exactly where no exact score is between two bands.
-/

namespace ComplianceHub.Kpi

/-! ## Thresholds -/

/-- The lookups, created where there are none. -/
def ensureLookups (thresholds : List KpiThreshold) (kpiScoringRules : List KpiScoringRule) :
    List KpiThreshold × List KpiScoringRule :=
  (if thresholds.length = 0 then
      [{ band := "green", minScore := 90, maxScore := 100 }, { band := "amber", minScore := 75, maxScore := 8999 / 100 },
        { band := "red", minScore := 0, maxScore := 7499 / 100 }]
    else thresholds,
    if kpiScoringRules.length = 0 then
      [{ id := 1, active := true, capScore := 100, floorScore := 0, yesScore := 100, noScore := 0 }]
    else kpiScoringRules)

/-- The thresholds that `ensureLookups` creates. -/
def ensuredThresholds : List KpiThreshold := (ensureLookups [] []).1

/-- The scores between two bands. -/
def InGap (score : Rat) : Prop := 7499 / 100 < score ∧ score < 75 ∨ 8999 / 100 < score ∧ score < 90

instance (score : Rat) : Decidable (InGap score) := inferInstanceAs (Decidable ((_ ∧ _) ∨ _ ∧ _))

/-- A band of the thresholds, whose interval holds the score shown beside it. -/
def MatchesBand (thresholds : List KpiThreshold) (band : String) (shown : Rat) : Prop :=
  band ≠ "unclassified" ∧ ∃ t ∈ thresholds, t.band = band ∧ t.minScore ≤ shown ∧ shown ≤ t.maxScore

/-! ### Rounding -/

theorem toFixed2_cent (n : Nat) : toFixed2 (n / 100) = n / 100 := by
  have hnonneg : ¬ (n / 100 : Rat) < 0 := not_lt.mpr (by positivity)
  have hfloor : ⌊(n / 100 * 100 + 1 / 2 : Rat)⌋ = n := by
    rw [Int.floor_eq_iff]
    constructor
    · push_cast
      linarith
    · push_cast
      linarith
  rw [toFixed2, if_neg hnonneg, hfloor]
  push_cast
  rfl

/-- A score between two cents of the scale is shown between them. -/
theorem toFixed2_between {m n : Nat} {score : Rat} (hmin : (m / 100 : Rat) ≤ score) (hmax : score ≤ n / 100) :
    (m / 100 : Rat) ≤ toFixed2 score ∧ toFixed2 score ≤ n / 100 := by
  constructor
  · rw [← toFixed2_cent m]
    exact toFixed2_mono hmin
  · rw [← toFixed2_cent n]
    exact toFixed2_mono hmax

theorem classifyScore_ensured (score : Rat) :
    classifyScore score ensuredThresholds =
      if 90 ≤ score ∧ score ≤ 100 then "green" else if 75 ≤ score ∧ score ≤ 8999 / 100 then "amber"
      else if 0 ≤ score ∧ score ≤ 7499 / 100 then "red" else "unclassified" := by
  have hsorted : byMinScore ensuredThresholds = ensuredThresholds := by decide +kernel
  unfold classifyScore
  rw [hsorted, ensuredThresholds, ensureLookups]
  by_cases hgreen : 90 ≤ score ∧ score ≤ 100
  · simp [hgreen]
  · by_cases hamber : 75 ≤ score ∧ score ≤ 8999 / 100
    · simp [hgreen, hamber]
    · by_cases hred : 0 ≤ score ∧ score ≤ 7499 / 100
      · simp [hgreen, hamber, hred]
      · simp [hgreen, hamber, hred]

/-- A score of the scale has its band exactly where it is not between two of them. -/
theorem classifyScore_matches_iff {score : Rat} (hmin : 0 ≤ score) (hmax : score ≤ 100) :
    MatchesBand ensuredThresholds (classifyScore score ensuredThresholds) (toFixed2 score) ↔ ¬ InGap score := by
  have hmatches : ∀ (band : String) (m n : Nat), band ≠ "unclassified" →
      (⟨band, m / 100, n / 100⟩ : KpiThreshold) ∈ ensuredThresholds → (m / 100 : Rat) ≤ score → score ≤ n / 100 →
      MatchesBand ensuredThresholds band (toFixed2 score) := by
    intro band m n hband hmem hlow hhigh
    exact ⟨hband, _, hmem, rfl, toFixed2_between hlow hhigh⟩
  rw [classifyScore_ensured]
  split_ifs with hgreen hamber hred
  · refine ⟨fun _ hgap => ?_, fun _ => ?_⟩
    · rcases hgap with ⟨-, hlt⟩ | ⟨-, hlt⟩
      · linarith
      · linarith
    · exact hmatches "green" 9000 10000 (by decide) (by decide +kernel) (by norm_num; exact hgreen.1)
        (by norm_num; exact hgreen.2)
  · refine ⟨fun _ hgap => ?_, fun _ => ?_⟩
    · rcases hgap with ⟨-, hlt⟩ | ⟨hlt, -⟩
      · linarith
      · linarith
    · exact hmatches "amber" 7500 8999 (by decide) (by decide +kernel) (by norm_num; exact hamber.1) hamber.2
  · refine ⟨fun _ hgap => ?_, fun _ => ?_⟩
    · rcases hgap with ⟨hlt, -⟩ | ⟨hlt, -⟩
      · linarith
      · linarith
    · exact hmatches "red" 0 7499 (by decide) (by decide +kernel) (by norm_num; exact hred.1) hred.2
  · refine ⟨fun h => absurd rfl h.1, fun hgap => absurd ?_ hgap⟩
    by_cases hlow : score < 75
    · exact .inl ⟨lt_of_not_ge fun hle => hred ⟨hmin, hle⟩, hlow⟩
    · refine .inr ⟨lt_of_not_ge fun hle => hamber ⟨not_lt.mp hlow, hle⟩, lt_of_not_ge fun hle => hgreen ⟨hle, hmax⟩⟩

/-! ## Means of the scale -/

theorem clamp_mem {x floor cap : Rat} (h : floor ≤ cap) : floor ≤ clamp x floor cap ∧ clamp x floor cap ≤ cap :=
  ⟨le_min h (le_max_left _ _), min_le_left _ _⟩

/-- A mean of scores of the scale, with weights that are not negative, is of the scale. -/
theorem weightedMean_mem {scores : List (Rat × Rat)} (h : ∀ p ∈ scores, 0 ≤ p.2 ∧ 0 ≤ p.1 ∧ p.1 ≤ 100) :
    0 ≤ weightedMean scores ∧ weightedMean scores ≤ 100 := by
  have hsum : 0 ≤ (scores.map fun p => p.1 * p.2).sum ∧
      (scores.map fun p => p.1 * p.2).sum ≤ 100 * (scores.map Prod.snd).sum := by
    induction scores with
    | nil => simp
    | cons p scores ih =>
      obtain ⟨hweight, hmin, hmax⟩ := h p List.mem_cons_self
      obtain ⟨hlow, hhigh⟩ := ih fun q hq => h q (List.mem_cons_of_mem p hq)
      have hproduct : 0 ≤ p.1 * p.2 := mul_nonneg hmin hweight
      have hle : p.1 * p.2 ≤ 100 * p.2 := mul_le_mul_of_nonneg_right hmax hweight
      rw [List.map_cons, List.map_cons, List.sum_cons, List.sum_cons, mul_add]
      exact ⟨add_nonneg hproduct hlow, add_le_add hle hhigh⟩
  unfold weightedMean
  split_ifs with htotal
  · exact ⟨div_nonneg hsum.1 htotal.le, (div_le_iff₀ htotal).mpr hsum.2⟩
  · constructor <;> norm_num

/-- The scoring rule clamps to the scale, and no weight is negative. -/
structure OnScale (t : Tables) : Prop where
  floor : (scoringRule t).floorScore = 0
  cap : (scoringRule t).capScore = 100
  weights : ∀ kpi ∈ t.kpiMaster, 0 ≤ kpi.weight

section
variable {t : Tables}

theorem OnScale.normalized (h : OnScale t) (kpi : KpiMaster) (row : KpiMonitoring) :
    0 ≤ normalized t kpi row ∧ normalized t kpi row ≤ 100 := by
  rw [Kpi.normalized, h.floor, h.cap]
  exact clamp_mem (by norm_num)

theorem OnScale.activeScore (h : OnScale t) {rows : List KpiMonitoring} :
    ∀ p ∈ rows.filterMap (activeScore t), 0 ≤ p.2 ∧ 0 ≤ p.1 ∧ p.1 ≤ 100 := by
  intro p hp
  obtain ⟨row, -, hp⟩ := List.mem_filterMap.mp hp
  obtain ⟨kpi, hkpi, rfl⟩ := Option.map_eq_some_iff.mp hp
  exact ⟨h.weights kpi (List.mem_of_find?_eq_some (Option.filter_eq_some_iff.mp hkpi).1), h.normalized kpi row⟩

theorem OnScale.roundedScore (h : OnScale t) {rows : List KpiMonitoring} :
    ∀ p ∈ rows.filterMap (roundedScore t), 0 ≤ p.2 ∧ 0 ≤ p.1 ∧ p.1 ≤ 100 := by
  intro p hp
  obtain ⟨row, -, hp⟩ := List.mem_filterMap.mp hp
  obtain ⟨kpi, hkpi, rfl⟩ := Option.map_eq_some_iff.mp hp
  obtain ⟨hmin, hmax⟩ := h.normalized kpi row
  have hshown := toFixed2_between (m := 0) (n := 10000) (by norm_num; exact hmin) (by norm_num; exact hmax)
  norm_num at hshown
  exact ⟨h.weights kpi (List.mem_of_find?_eq_some hkpi), hshown⟩

end

/-! ## Dashboards -/

section
variable (t : Tables) (thresholds : List KpiThreshold)

/-- Every band of a unit or a KPI that has data is the one of the score shown beside it. -/
structure BandsMatch : Prop where
  summary : ∀ user periodYear periodMonth summary,
    dashboardSummary t thresholds user periodYear periodMonth = .ok summary →
    ∀ unit ∈ summary.units, MatchesBand thresholds unit.band unit.score
  unit : ∀ user unitId periodYear periodMonth dashboard,
    dashboardUnit t thresholds user unitId periodYear periodMonth = .ok dashboard →
    MatchesBand thresholds dashboard.band dashboard.score ∧
      ∀ item ∈ dashboard.details, MatchesBand thresholds item.band item.normalizedScore
  series : ∀ user unitId fromYear fromMonth toYear toMonth series,
    dashboardUnitTimeseries t thresholds user unitId fromYear fromMonth toYear toMonth = .ok series →
    ∀ point ∈ series, (point.hasData = true → MatchesBand thresholds point.band point.score) ∧
      ∀ item ∈ point.kpiScores, MatchesBand thresholds item.band item.normalizedScore

/-- No exact score is between two bands: no mean of a unit in a month, of the active KPIs or of all the rounded scores,
and no score of a row. -/
structure OutOfGaps : Prop where
  activeMean : ∀ unitId year month, ValidPeriod (year, month) → ¬ InGap (activeMean t unitId year month)
  unitMean : ∀ unitId year month, ValidPeriod (year, month) → 0 < unitId → ¬ InGap (unitMean t unitId year month)
  row : ∀ row ∈ t.kpiMonitoring, ValidPeriod (row.periodYear, row.periodMonth) → 0 < row.unitId →
    ∀ kpi, row.master t = some kpi → ¬ InGap (normalized t kpi row)

end

section
variable {t : Tables} {thresholds : List KpiThreshold} {user : AuthUser} {unitId year month : Int}

theorem checkedPeriod_eq_ok {periodYear periodMonth : Option Int}
    (h : checkedPeriod periodYear periodMonth = .ok (year, month)) :
    periodYear = some year ∧ periodMonth = some month ∧ ValidPeriod (year, month) := by
  unfold checkedPeriod at h
  split at h
  · cases h
  · rename_i y hy
    split at h
    · cases h
    · rename_i m hm
      cases h
      obtain ⟨rfl, hyear⟩ := Option.filter_eq_some_iff.mp hy
      obtain ⟨rfl, hmonth⟩ := Option.filter_eq_some_iff.mp hm
      simp only [decide_eq_true_eq] at hyear hmonth
      exact ⟨rfl, rfl, hyear.1, hyear.2, hmonth.1, hmonth.2⟩

theorem checkedEnd_eq_ok {y m : Option Int} {yearName monthName : String} {period : Int × Int}
    (h : checkedEnd y m yearName monthName = .ok period) : ValidPeriod period := by
  unfold checkedEnd at h
  split at h
  · cases h
  · rename_i y hy
    split at h
    · cases h
    · rename_i m hm
      cases h
      obtain ⟨-, hyear⟩ := Option.filter_eq_some_iff.mp hy
      obtain ⟨-, hmonth⟩ := Option.filter_eq_some_iff.mp hm
      simp only [decide_eq_true_eq] at hyear hmonth
      exact ⟨hyear.1, hyear.2, hmonth.1, hmonth.2⟩

/-- Months are counted from one to twelve. -/
theorem month_of_mem_periodsFrom {toYear toMonth : Int} {guard : Nat} {period : Int × Int} (hmonth : 1 ≤ month ∧ month ≤ 12)
    (h : period ∈ periodsFrom toYear toMonth guard year month) : 1 ≤ period.2 ∧ period.2 ≤ 12 := by
  induction guard generalizing year month with
  | zero => simp [periodsFrom] at h
  | succ guard ih =>
    unfold periodsFrom at h
    split_ifs at h with hin hnext
    · rcases List.mem_cons.mp h with rfl | h
      · exact hmonth
      · exact ih (by omega) h
    · rcases List.mem_cons.mp h with rfl | h
      · exact hmonth
      · exact ih (by omega) h
    · simp at h

/-- The lines of a dashboard have their bands where no score of its rows is between two bands. -/
theorem details_match_iff (h : OnScale t) {rows : List KpiMonitoring} :
    (∀ item ∈ rows.filterMap (detail t ensuredThresholds), MatchesBand ensuredThresholds item.band item.normalizedScore) ↔
      ∀ row ∈ rows, ∀ kpi, row.master t = some kpi → ¬ InGap (normalized t kpi row) := by
  constructor
  · intro hmatch row hrow kpi hmaster
    obtain ⟨item, hitem, hband, hscore⟩ : ∃ item, detail t ensuredThresholds row = some item ∧
        item.band = classifyScore (normalized t kpi row) ensuredThresholds ∧
        item.normalizedScore = toFixed2 (normalized t kpi row) := by
      rw [detail, hmaster]
      exact ⟨_, rfl, rfl, rfl⟩
    rw [← classifyScore_matches_iff (h.normalized kpi row).1 (h.normalized kpi row).2, ← hband, ← hscore]
    exact hmatch item (List.mem_filterMap.mpr ⟨row, hrow, hitem⟩)
  · intro hgaps item hitem
    obtain ⟨row, hrow, hitem⟩ := List.mem_filterMap.mp hitem
    obtain ⟨kpi, hmaster, rfl⟩ := Option.map_eq_some_iff.mp hitem
    exact (classifyScore_matches_iff (h.normalized kpi row).1 (h.normalized kpi row).2).mpr (hgaps row hrow kpi hmaster)

theorem kpiScores_match (h : OnScale t) {rows : List KpiMonitoring}
    (hgaps : ∀ row ∈ rows, ∀ kpi, row.master t = some kpi → ¬ InGap (normalized t kpi row)) :
    ∀ item ∈ rows.filterMap (kpiScore t ensuredThresholds),
      MatchesBand ensuredThresholds item.band item.normalizedScore := by
  intro item hitem
  obtain ⟨row, hrow, hitem⟩ := List.mem_filterMap.mp hitem
  obtain ⟨kpi, hmaster, rfl⟩ := Option.map_eq_some_iff.mp hitem
  exact (classifyScore_matches_iff (h.normalized kpi row).1 (h.normalized kpi row).2).mpr (hgaps row hrow kpi hmaster)

theorem OutOfGaps.unitRows (h : OutOfGaps t) (hperiod : ValidPeriod (year, month)) (hunit : 0 < unitId) :
    ∀ row ∈ unitRows t unitId year month, ∀ kpi, row.master t = some kpi → ¬ InGap (normalized t kpi row) := by
  intro row hrow kpi hmaster
  obtain ⟨hmem, hrow⟩ := List.mem_filter.mp hrow
  simp only [Bool.and_eq_true, decide_eq_true_eq] at hrow
  obtain ⟨⟨rfl, rfl⟩, rfl⟩ := hrow
  exact h.row row hmem hperiod hunit kpi hmaster

/-- What the summary shows of a unit is the mean of its active KPIs. -/
theorem shown_dashboardSummary {periodYear periodMonth : Option Int} {summary : Summary}
    (h : dashboardSummary t thresholds user periodYear periodMonth = .ok summary) {unit : UnitScore}
    (hunit : unit ∈ summary.units) :
    ∃ year month, ValidPeriod (year, month) ∧ unit.score = toFixed2 (activeMean t unit.unitId year month) ∧
      unit.band = classifyScore (activeMean t unit.unitId year month) thresholds := by
  obtain ⟨year, month, hperiod, hunits, hshown⟩ := mem_dashboardSummary h
  have hcounted := (hunits unit.unitId).mp ⟨unit, hunit, rfl⟩
  have haccess : canViewAll user ∨ unit.unitId ∈ getAllowedUnitIds user := by
    obtain ⟨p, hp⟩ := List.exists_mem_of_ne_nil _ hcounted
    obtain ⟨row, hrow, -⟩ := List.mem_filterMap.mp hp
    obtain ⟨hvisible, hid⟩ := List.mem_filter.mp hrow
    have hseen := (List.mem_filter.mp hvisible).2
    simp only [Bool.and_eq_true, Bool.or_eq_true, decide_eq_true_eq] at hseen hid
    rw [← hid]
    exact hseen.2
  refine ⟨year, month, (checkedPeriod_eq_ok hperiod).2.2, ?_⟩
  rw [activeMean, ← visibleRows_unit haccess]
  exact hshown unit hunit

theorem dashboardUnit_eq_ok {periodYear periodMonth : Option Int} {dashboard : UnitDashboard}
    (h : dashboardUnit t thresholds user unitId periodYear periodMonth = .ok dashboard) :
    0 < unitId ∧ ∃ year month, periodYear = some year ∧ periodMonth = some month ∧ ValidPeriod (year, month) ∧
      dashboard.score = toFixed2 (unitMean t unitId year month) ∧
      dashboard.band = classifyScore (unitMean t unitId year month) thresholds ∧
      dashboard.details = (unitRows t unitId year month).filterMap (detail t thresholds) := by
  have hchecks := h
  obtain ⟨_, hunit, hchecks⟩ := bind_eq_ok.mp hchecks
  obtain ⟨⟨year, month⟩, hperiod, hchecks⟩ := bind_eq_ok.mp hchecks
  obtain ⟨_, haccess, hdashboard⟩ := bind_eq_ok.mp hchecks
  obtain ⟨rfl, rfl, hvalid⟩ := checkedPeriod_eq_ok hperiod
  have hunit : 0 < unitId := check_eq_ok.mp hunit
  obtain ⟨other, hother, hscore, hband⟩ :=
    @dashboardUnit_score t thresholds _ _ _ _ hvalid hunit (check_eq_ok.mp haccess)
  cases h.symm.trans hother
  cases hdashboard
  exact ⟨hunit, year, month, rfl, rfl, hvalid, hscore, hband, rfl⟩

/-- A point of the series shows the rows of its month. -/
theorem dashboardUnitTimeseries_eq_ok {fromYear fromMonth toYear toMonth : Option Int} {series : List PeriodScore}
    (h : dashboardUnitTimeseries t thresholds user unitId fromYear fromMonth toYear toMonth = .ok series)
    {point : PeriodScore} (hpoint : point ∈ series) :
    0 < unitId ∧ ∃ year month, ValidPeriod (year, month) ∧
      point.kpiScores = (unitRows t unitId year month).filterMap (kpiScore t thresholds) ∧
      (point.hasData = true → point.score = toFixed2 (unitMean t unitId year month) ∧
        point.band = classifyScore (unitMean t unitId year month) thresholds) := by
  obtain ⟨_, hunit, h⟩ := bind_eq_ok.mp h
  obtain ⟨first, hfirst, h⟩ := bind_eq_ok.mp h
  obtain ⟨last, hlast, h⟩ := bind_eq_ok.mp h
  obtain ⟨_, -, h⟩ := bind_eq_ok.mp h
  cases h
  obtain ⟨⟨year, month⟩, hmem, rfl⟩ := List.mem_map.mp hpoint
  have hfirst := checkedEnd_eq_ok hfirst
  have hlast := checkedEnd_eq_ok hlast
  have hmonth := month_of_mem_periodsFrom hfirst.2.2 hmem
  have hbetween := between_of_mem_periodsFrom hmem
  have hrows := @filter_inRange t _ _ unitId _ _ hbetween
  have hvalid : ValidPeriod (year, month) := by
    unfold ValidPeriod Between at *
    dsimp only at *
    omega
  refine ⟨check_eq_ok.mp hunit, year, month, hvalid, ?_, fun hdata => ?_⟩
  · simp only [periodScore, hrows]
  · refine periodScore_eq t thresholds hrows fun hnil => ?_
    simp [periodScore, hrows, hnil] at hdata

/-- **The bands match the scores** of all dashboards exactly where no exact score is between two bands. -/
theorem bands_match_iff (h : OnScale t) : BandsMatch t ensuredThresholds ↔ OutOfGaps t := by
  have hactive : ∀ unitId year month, 0 ≤ activeMean t unitId year month ∧ activeMean t unitId year month ≤ 100 :=
    fun _ _ _ => weightedMean_mem h.activeScore
  have hmean : ∀ unitId year month, 0 ≤ unitMean t unitId year month ∧ unitMean t unitId year month ≤ 100 :=
    fun _ _ _ => weightedMean_mem h.roundedScore
  constructor
  · intro hmatch
    let manager : AuthUser := { isKpiManage := true, units := [] }
    refine ⟨fun unitId year month hperiod => ?_, fun unitId year month hperiod hunit => ?_,
      fun row hrow hperiod hunit kpi hmaster => ?_⟩
    · by_cases hcounted : (unitRows t unitId year month).filterMap (activeScore t) = []
      · have hzero : activeMean t unitId year month = 0 := by
          rw [activeMean, hcounted]
          rfl
        rw [hzero]
        decide +kernel
      · obtain ⟨summary, hsummary, ⟨unit, hunit, hid⟩, hshown⟩ :=
          @dashboardSummary_unit _ ensuredThresholds manager _ _ _ hperiod (.inl rfl) hcounted
        have hband := hmatch.summary _ _ _ _ hsummary unit hunit
        obtain ⟨hscore, hclass⟩ := hshown unit hunit hid
        rw [hscore, hclass, classifyScore_matches_iff (hactive _ _ _).1 (hactive _ _ _).2] at hband
        exact hband
    · obtain ⟨dashboard, hdashboard, hscore, hclass⟩ :=
        @dashboardUnit_score t ensuredThresholds manager _ _ _ hperiod hunit (.inl rfl)
      have hband := (hmatch.unit _ _ _ _ _ hdashboard).1
      rw [hscore, hclass, classifyScore_matches_iff (hmean _ _ _).1 (hmean _ _ _).2] at hband
      exact hband
    · obtain ⟨dashboard, hdashboard, -, -⟩ :=
        @dashboardUnit_score t ensuredThresholds manager _ _ _ hperiod hunit (.inl rfl)
      have hdetails := (hmatch.unit _ _ _ _ _ hdashboard).2
      obtain ⟨-, year, month, hyear, hmonth, -, -, -, hrows⟩ := dashboardUnit_eq_ok hdashboard
      rw [hrows, details_match_iff h] at hdetails
      refine hdetails row (List.mem_filter.mpr ⟨hrow, ?_⟩) kpi hmaster
      rw [Option.some.inj hyear, Option.some.inj hmonth]
      simp
  · intro hgaps
    refine ⟨?_, ?_, ?_⟩
    · intro user periodYear periodMonth summary hsummary unit hunit
      obtain ⟨year, month, hperiod, hscore, hband⟩ := shown_dashboardSummary hsummary hunit
      rw [hscore, hband, classifyScore_matches_iff (hactive _ _ _).1 (hactive _ _ _).2]
      exact hgaps.activeMean _ _ _ hperiod
    · intro user unitId periodYear periodMonth dashboard hdashboard
      obtain ⟨hunit, year, month, -, -, hperiod, hscore, hband, hdetails⟩ := dashboardUnit_eq_ok hdashboard
      refine ⟨?_, ?_⟩
      · rw [hscore, hband, classifyScore_matches_iff (hmean _ _ _).1 (hmean _ _ _).2]
        exact hgaps.unitMean _ _ _ hperiod hunit
      · rw [hdetails, details_match_iff h]
        exact hgaps.unitRows hperiod hunit
    · intro user unitId fromYear fromMonth toYear toMonth series hseries point hpoint
      obtain ⟨hunit, year, month, hperiod, hscores, hshown⟩ := dashboardUnitTimeseries_eq_ok hseries hpoint
      refine ⟨fun hdata => ?_, ?_⟩
      · obtain ⟨hscore, hband⟩ := hshown hdata
        rw [hscore, hband, classifyScore_matches_iff (hmean _ _ _).1 (hmean _ _ _).2]
        exact hgaps.unitMean _ _ _ hperiod hunit
      · rw [hscores]
        exact kpiScores_match h (hgaps.unitRows hperiod hunit)

end

/-- A unit with one KPI of a target of a thousand. -/
def oneKpi (actualValue : Rat) : Tables where
  kpiMaster := [{ code := "A", targetValue := 1000 }]
  kpiMonitoring := [{ id := 1, kpiMasterCode := "A", unitId := 1, periodYear := 2026, periodMonth := 1, actualValue }]

theorem onScale_oneKpi (actualValue : Rat) : OnScale (oneKpi actualValue) where
  floor := rfl
  cap := rfl
  weights := by
    intro kpi hkpi
    rw [List.mem_singleton.mp hkpi]
    exact zero_le_one

theorem unitRows_oneKpi (actualValue : Rat) (unitId year month : Int) : unitRows (oneKpi actualValue) unitId year month = [] ∨
    unitRows (oneKpi actualValue) unitId year month = (oneKpi actualValue).kpiMonitoring := by
  rw [unitRows, oneKpi]
  by_cases hrow : (1 = unitId ∧ 2026 = year) ∧ 1 = month
  · exact .inr (List.filter_eq_self.mpr (by simpa using hrow))
  · exact .inl (List.filter_eq_nil_iff.mpr (by simpa using hrow))

theorem bands_match_iff_good : BandsMatch (oneKpi 800) ensuredThresholds := by
  refine (bands_match_iff (onScale_oneKpi 800)).mpr ⟨fun unitId year month _ => ?_, fun unitId year month _ _ => ?_, ?_⟩
  · rw [activeMean]
    rcases unitRows_oneKpi 800 unitId year month with hrows | hrows
    · rw [hrows]
      decide +kernel
    · rw [hrows]
      decide +kernel
  · rw [unitMean]
    rcases unitRows_oneKpi 800 unitId year month with hrows | hrows
    · rw [hrows]
      decide +kernel
    · rw [hrows]
      decide +kernel
  · intro row hrow _ _ kpi hmaster
    rw [List.mem_singleton.mp hrow] at hmaster ⊢
    cases hmaster
    decide +kernel

/-- A score of 89.995 is shown as 90, and has no band. -/
theorem almost_green_is_unclassified : ¬ ∀ t, OnScale t → BandsMatch t ensuredThresholds := by
  intro h
  obtain ⟨summary, hsummary, ⟨unit, hunit, hid⟩, hshown⟩ :=
    @dashboardSummary_unit (oneKpi (89995 / 100)) ensuredThresholds complianceOfficer 1 2026 1 (by decide) (.inl rfl)
      (by decide +kernel)
  have hband := (h _ (onScale_oneKpi _)).summary _ _ _ _ hsummary unit hunit
  rw [(hshown unit hunit hid).2] at hband
  exact hband.1 (by decide +kernel)

end ComplianceHub.Kpi
