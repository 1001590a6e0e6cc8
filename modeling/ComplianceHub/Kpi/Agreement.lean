import ComplianceHub.Kpi.Dashboard
import Mathlib.Data.List.Induction

/-!
# The dashboards agree

* `weightedMean` : the mean of scores with weights, zero without a positive weight;
* `counts_dashboardSummary`, `dashboardUnit_eq_ok`, `dashboardUnitTimeseries_eq_ok` : each dashboard shows a weighted
  mean. The summary takes the exact scores of the active KPIs, the other two the rounded scores of all KPIs;
* `dashboards_agree_iff` : they agree exactly where the two means are the same.
-/

namespace ComplianceHub.Kpi

/-! ## Weighted means -/

/-- The mean of scores with weights. -/
def weightedMean (scores : List (Rat × Rat)) : Rat :=
  if 0 < (scores.map Prod.snd).sum then (scores.map fun p => p.1 * p.2).sum / (scores.map Prod.snd).sum else 0

section
variable (t : Tables)

/-- The rows of a unit in a month. -/
def unitRows (unitId year month : Int) : List KpiMonitoring :=
  t.kpiMonitoring.filter fun row => row.unitId = unitId && row.periodYear = year && row.periodMonth = month

/-- The exact score and the weight of a row of an active KPI. -/
def activeScore (row : KpiMonitoring) : Option (Rat × Rat) :=
  ((row.master t).filter KpiMaster.active).map fun kpi => (normalized t kpi row, kpi.weight)

/-- The score to two decimals and the weight of a row of any KPI. -/
def roundedScore (row : KpiMonitoring) : Option (Rat × Rat) :=
  (row.master t).map fun kpi => (toFixed2 (normalized t kpi row), kpi.weight)

/-! ## The summary -/

/-- The scores that rows count for a unit. -/
def countedScores (rows : List KpiMonitoring) (unitId : Int) : List (Rat × Rat) :=
  (rows.filter fun row => row.unitId = unitId).filterMap (activeScore t)

/-- What the summary has added up after some rows. -/
structure Counts (rows : List KpiMonitoring) (byUnit : List UnitTotals) : Prop where
  nodup : (byUnit.map UnitTotals.unitId).Nodup
  units : ∀ unitId, unitId ∈ byUnit.map UnitTotals.unitId ↔ countedScores t rows unitId ≠ []
  totalWeight : ∀ totals ∈ byUnit, totals.totalWeight = ((countedScores t rows totals.unitId).map Prod.snd).sum
  weightedSum : ∀ totals ∈ byUnit,
    totals.weightedSum = ((countedScores t rows totals.unitId).map fun p => p.1 * p.2).sum

end

section
variable {t : Tables} {rows : List KpiMonitoring} {byUnit : List UnitTotals}

theorem unitId_add (totals : UnitTotals) (weight score : Rat) : (totals.add weight score).unitId = totals.unitId := rfl

theorem mem_units_countFor {unitId other : Int} {weight score : Rat} :
    other ∈ (countFor byUnit unitId weight score).map UnitTotals.unitId ↔
      other = unitId ∨ other ∈ byUnit.map UnitTotals.unitId := by
  induction byUnit with
  | nil => simp [countFor, unitId_add]
  | cons current rest ih =>
    unfold countFor
    split_ifs with hcurrent
    · rw [List.map_cons, List.map_cons, unitId_add, hcurrent, List.mem_cons, or_self_left]
    · rw [List.map_cons, List.map_cons, List.mem_cons, List.mem_cons, ih, or_left_comm]

theorem nodup_countFor {unitId : Int} {weight score : Rat} (h : (byUnit.map UnitTotals.unitId).Nodup) :
    ((countFor byUnit unitId weight score).map UnitTotals.unitId).Nodup := by
  induction byUnit with
  | nil => simp [countFor]
  | cons current rest ih =>
    rw [List.map_cons, List.nodup_cons] at h
    unfold countFor
    split_ifs with hcurrent
    · rw [List.map_cons, unitId_add, List.nodup_cons]
      exact h
    · rw [List.map_cons, List.nodup_cons]
      refine ⟨fun hmem => ?_, ih h.2⟩
      rcases mem_units_countFor.mp hmem with heq | hmem
      · exact hcurrent heq
      · exact h.1 hmem

/-- A unit's entry after one more row: a new one, the old one with the row added, or another unit's. -/
theorem mem_countFor {unitId : Int} {weight score : Rat} (h : (byUnit.map UnitTotals.unitId).Nodup) {totals : UnitTotals}
    (hmem : totals ∈ countFor byUnit unitId weight score) :
    (totals ∈ byUnit ∧ totals.unitId ≠ unitId) ∨
      (∃ old ∈ byUnit, old.unitId = unitId ∧ totals = old.add weight score) ∨
      unitId ∉ byUnit.map UnitTotals.unitId ∧
        totals = ({ unitId, unitName := "Unit " ++ toString unitId : UnitTotals }).add weight score := by
  induction byUnit with
  | nil =>
    rw [countFor, List.mem_singleton] at hmem
    exact .inr (.inr ⟨by simp, hmem⟩)
  | cons current rest ih =>
    rw [List.map_cons, List.nodup_cons] at h
    unfold countFor at hmem
    split_ifs at hmem with hcurrent
    · rcases List.mem_cons.mp hmem with rfl | hmem
      · exact .inr (.inl ⟨current, List.mem_cons_self, hcurrent, rfl⟩)
      · refine .inl ⟨List.mem_cons_of_mem _ hmem, fun heq => h.1 ?_⟩
        rw [hcurrent, ← heq]
        exact List.mem_map_of_mem hmem
    · rcases List.mem_cons.mp hmem with rfl | hmem
      · exact .inl ⟨List.mem_cons_self, hcurrent⟩
      · rcases ih h.2 hmem with ⟨hmem, hne⟩ | ⟨old, hold, hid, heq⟩ | ⟨hnone, heq⟩
        · exact .inl ⟨List.mem_cons_of_mem _ hmem, hne⟩
        · exact .inr (.inl ⟨old, List.mem_cons_of_mem _ hold, hid, heq⟩)
        · refine .inr (.inr ⟨?_, heq⟩)
          rw [List.map_cons, List.mem_cons, not_or]
          exact ⟨fun heq => hcurrent heq.symm, hnone⟩

theorem countedScores_concat (row : KpiMonitoring) (unitId : Int) :
    countedScores t (rows ++ [row]) unitId =
      countedScores t rows unitId ++ if row.unitId = unitId then (activeScore t row).toList else [] := by
  unfold countedScores
  rw [List.filter_append, List.filterMap_append]
  congr 1
  split_ifs with hid
  · cases hscore : activeScore t row <;> simp [hid, hscore]
  · simp [hid]

/-- One more row. -/
theorem Counts.countRow (h : Counts t rows byUnit) (row : KpiMonitoring) :
    Counts t (rows ++ [row]) (countRow t byUnit row) := by
  unfold Kpi.countRow
  cases hkpi : (row.master t).filter KpiMaster.active with
  | none =>
    have hscores : ∀ unitId, countedScores t (rows ++ [row]) unitId = countedScores t rows unitId := by
      intro unitId
      rw [countedScores_concat]
      simp [activeScore, hkpi]
    refine ⟨h.nodup, fun unitId => ?_, fun totals ht => ?_, fun totals ht => ?_⟩
    · rw [hscores]
      exact h.units unitId
    · rw [hscores]
      exact h.totalWeight totals ht
    · rw [hscores]
      exact h.weightedSum totals ht
  | some kpi =>
    have hscores : ∀ unitId, countedScores t (rows ++ [row]) unitId =
        countedScores t rows unitId ++ if row.unitId = unitId then [(normalized t kpi row, kpi.weight)] else [] := by
      intro unitId
      rw [countedScores_concat]
      simp [activeScore, hkpi]
    have hother : ∀ unitId, unitId ≠ row.unitId →
        countedScores t (rows ++ [row]) unitId = countedScores t rows unitId := by
      intro unitId hne
      rw [hscores, if_neg (Ne.symm hne), List.append_nil]
    have hown : countedScores t (rows ++ [row]) row.unitId =
        countedScores t rows row.unitId ++ [(normalized t kpi row, kpi.weight)] := by
      rw [hscores, if_pos rfl]
    refine ⟨nodup_countFor h.nodup, fun unitId => ?_, fun totals ht => ?_, fun totals ht => ?_⟩
    · rw [mem_units_countFor, h.units]
      by_cases hne : unitId = row.unitId
      · rw [hne, hown]
        simp
      · rw [hother unitId hne]
        simp [hne]
    · rcases mem_countFor h.nodup ht with ⟨ht, hne⟩ | ⟨old, hold, hid, rfl⟩ | ⟨hnone, rfl⟩
      · rw [hother _ hne]
        exact h.totalWeight totals ht
      · rw [unitId_add, hid, hown, List.map_append, List.sum_append, ← hid, ← h.totalWeight old hold]
        simp [UnitTotals.add]
      · rw [h.units, not_not] at hnone
        rw [unitId_add, hown, hnone]
        simp [UnitTotals.add]
    · rcases mem_countFor h.nodup ht with ⟨ht, hne⟩ | ⟨old, hold, hid, rfl⟩ | ⟨hnone, rfl⟩
      · rw [hother _ hne]
        exact h.weightedSum totals ht
      · rw [unitId_add, hid, hown, List.map_append, List.sum_append, ← hid, ← h.weightedSum old hold]
        simp [UnitTotals.add]
      · rw [h.units, not_not] at hnone
        rw [unitId_add, hown, hnone]
        simp [UnitTotals.add]

/-- All rows. -/
theorem counts_foldl (rows : List KpiMonitoring) : Counts t rows (rows.foldl (countRow t) []) := by
  induction rows using List.reverseRecOn with
  | nil => exact ⟨List.nodup_nil, by simp [countedScores], by simp, by simp⟩
  | append_singleton rows row ih =>
    rw [List.foldl_append]
    exact ih.countRow row

theorem Counts.score (h : Counts t rows byUnit) {totals : UnitTotals} (ht : totals ∈ byUnit) :
    totals.score = weightedMean (countedScores t rows totals.unitId) := by
  rw [UnitTotals.score, weightedMean, h.totalWeight totals ht, h.weightedSum totals ht]

end

/-! ## The unit and the series -/

section
variable (t : Tables) (thresholds : List KpiThreshold)

theorem weights_details (rows : List KpiMonitoring) :
    (rows.filterMap (detail t thresholds)).map Detail.weight = (rows.filterMap (roundedScore t)).map Prod.snd := by
  rw [List.map_filterMap, List.map_filterMap]
  apply List.filterMap_congr
  intro row _
  rw [detail, roundedScore, Option.map_map, Option.map_map]
  rfl

theorem products_details (rows : List KpiMonitoring) :
    (rows.filterMap (detail t thresholds)).map (fun item => item.normalizedScore * item.weight) =
      (rows.filterMap (roundedScore t)).map fun p => p.1 * p.2 := by
  rw [List.map_filterMap, List.map_filterMap]
  apply List.filterMap_congr
  intro row _
  rw [detail, roundedScore, Option.map_map, Option.map_map]
  rfl

/-- Weights looked up by position are the weights of the rows. -/
theorem mapIdx_lookup {α : Type} (l : List α) (score weight : α → Rat) :
    ((l.map score).mapIdx fun i k => k * ((l.map weight)[i]?.getD 0)) = l.map fun a => score a * weight a := by
  apply List.ext_getElem
  · simp
  · intro i h₁ h₂
    have hi : i < l.length := by simpa using h₂
    simp [hi]

theorem products_kpiScores (rows : List KpiMonitoring) :
    ((rows.filterMap (kpiScore t thresholds)).mapIdx fun i k =>
        k.normalizedScore * (((rows.filterMap fun row => (row.master t).map KpiMaster.weight))[i]?.getD 0)) =
      (rows.filterMap (roundedScore t)).map fun p => p.1 * p.2 := by
  have hscores : (rows.filterMap (roundedScore t)).map Prod.fst =
      (rows.filterMap (kpiScore t thresholds)).map KpiScore.normalizedScore := by
    rw [List.map_filterMap, List.map_filterMap]
    apply List.filterMap_congr
    intro row _
    rw [kpiScore, roundedScore, Option.map_map, Option.map_map]
    rfl
  have hweights : (rows.filterMap (roundedScore t)).map Prod.snd =
      rows.filterMap fun row => (row.master t).map KpiMaster.weight := by
    rw [List.map_filterMap]
    apply List.filterMap_congr
    intro row _
    rw [roundedScore, Option.map_map]
    rfl
  rw [← mapIdx_lookup, hscores, hweights]
  apply List.ext_getElem
  · simp
  · intro i _ _
    simp

/-- The weighted mean that the dashboard of a unit shows. -/
def unitMean (unitId year month : Int) : Rat := weightedMean ((unitRows t unitId year month).filterMap (roundedScore t))

theorem periodScore_eq {unitId : Int} {rows : List KpiMonitoring} {year month : Int}
    (hrows : rows.filter (fun row => row.periodYear = year && row.periodMonth = month) = unitRows t unitId year month)
    (hne : unitRows t unitId year month ≠ []) :
    (periodScore t thresholds unitId rows (year, month)).score = toFixed2 (unitMean t unitId year month) ∧
      (periodScore t thresholds unitId rows (year, month)).band =
        classifyScore (unitMean t unitId year month) thresholds := by
  have hweights : (unitRows t unitId year month).filterMap (fun row => (row.master t).map KpiMaster.weight) =
      ((unitRows t unitId year month).filterMap (roundedScore t)).map Prod.snd := by
    rw [List.map_filterMap]
    apply List.filterMap_congr
    intro row _
    rw [roundedScore, Option.map_map]
    rfl
  have hlength : (unitRows t unitId year month).length ≠ 0 := by simpa using hne
  have hproducts := products_kpiScores t thresholds (unitRows t unitId year month)
  rw [hweights] at hproducts
  simp only [periodScore, hrows, if_neg hlength, hweights, hproducts]
  exact ⟨rfl, rfl⟩

/-! ### The months of a range -/

variable {t thresholds}

/-- A month between two others. -/
def Between (first last period : Int × Int) : Prop :=
  (first.1 < period.1 ∨ first.1 = period.1 ∧ first.2 ≤ period.2) ∧
    (period.1 < last.1 ∨ period.1 = last.1 ∧ period.2 ≤ last.2)

theorem between_of_mem_periodsFrom {last period : Int × Int} {guard : Nat} {year month : Int}
    (h : period ∈ periodsFrom last.1 last.2 guard year month) : Between (year, month) last period := by
  induction guard generalizing year month with
  | zero => simp [periodsFrom] at h
  | succ guard ih =>
    unfold periodsFrom at h
    split_ifs at h with hin hnext
    · rcases List.mem_cons.mp h with rfl | h
      · unfold Between
        dsimp only
        omega
      · have hbetween := ih h
        unfold Between at hbetween ⊢
        dsimp only at hbetween ⊢
        omega
    · rcases List.mem_cons.mp h with rfl | h
      · unfold Between
        dsimp only
        omega
      · have hbetween := ih h
        unfold Between at hbetween ⊢
        dsimp only at hbetween ⊢
        omega
    · simp at h

/-- The months from one to another. -/
def monthsBetween (first period : Int × Int) : Int := 12 * (period.1 - first.1) + (period.2 - first.2)

theorem mem_periodsFrom {last period : Int × Int} {guard : Nat} {year month : Int} (hyear : 1 ≤ month ∧ month ≤ 12)
    (hperiod : 1 ≤ period.2 ∧ period.2 ≤ 12) (h : Between (year, month) last period)
    (hguard : monthsBetween (year, month) period < guard) : period ∈ periodsFrom last.1 last.2 guard year month := by
  obtain ⟨y, m⟩ := period
  unfold Between at h
  unfold monthsBetween at hguard
  dsimp only at h hguard hperiod
  induction guard generalizing year month with
  | zero => omega
  | succ guard ih =>
    unfold periodsFrom
    rw [if_pos (by omega)]
    by_cases heq : y = year ∧ m = month
    · rw [heq.1, heq.2]
      exact List.mem_cons_self
    · apply List.mem_cons_of_mem
      split_ifs with hnext
      · exact ih (by omega) (by omega) (by omega)
      · exact ih (by omega) (by omega) (by push_cast at hguard; omega)

theorem filter_inRange {first last : Int × Int} {unitId year month : Int} (h : Between first last (year, month)) :
    (t.kpiMonitoring.filter fun row => row.unitId = unitId && inRange first last row).filter
        (fun row => row.periodYear = year && row.periodMonth = month) = unitRows t unitId year month := by
  rw [List.filter_filter, unitRows]
  apply List.filter_congr
  intro row _
  by_cases hyear : row.periodYear = year
  · by_cases hmonth : row.periodMonth = month
    · have hrange : inRange first last row = true := by
        unfold Between at h
        simp only [inRange, Bool.and_eq_true, Bool.or_eq_true, decide_eq_true_eq]
        dsimp only at h
        omega
      simp [hyear, hmonth, hrange]
    · simp [hmonth]
  · simp [hyear]

end

/-! ## Agreement -/

/-- A year and a month that the dashboards accept. -/
def ValidPeriod (period : Int × Int) : Prop := 2000 ≤ period.1 ∧ period.1 ≤ 2100 ∧ 1 ≤ period.2 ∧ period.2 ≤ 12

instance (period : Int × Int) : Decidable (ValidPeriod period) := inferInstanceAs (Decidable (_ ∧ _ ∧ _ ∧ _))

section
variable (t : Tables) (thresholds : List KpiThreshold) (user : AuthUser) (unitId year month : Int)

/-- All three dashboards show this score and band of a unit in a month, the series for every range of up to 60 months
before it. -/
structure DashboardsShow (score : Rat) (band : String) : Prop where
  summary : ∃ summary, dashboardSummary t thresholds user (some year) (some month) = .ok summary ∧
    (∃ unit ∈ summary.units, unit.unitId = unitId) ∧
    ∀ unit ∈ summary.units, unit.unitId = unitId → unit.score = score ∧ unit.band = band
  unit : ∃ dashboard, dashboardUnit t thresholds user unitId (some year) (some month) = .ok dashboard ∧
    dashboard.score = score ∧ dashboard.band = band
  series : ∀ first last, ValidPeriod first → ValidPeriod last →
    ∃ series, dashboardUnitTimeseries t thresholds user unitId (some first.1) (some first.2) (some last.1)
        (some last.2) = .ok series ∧
      (Between first last (year, month) → monthsBetween first (year, month) ≤ 60 →
        ∃ point ∈ series, point.periodYear = year ∧ point.periodMonth = month) ∧
      ∀ point ∈ series, point.periodYear = year → point.periodMonth = month → point.score = score ∧ point.band = band

/-- The exact weighted mean of the active KPIs. -/
def activeMean : Rat := weightedMean ((unitRows t unitId year month).filterMap (activeScore t))

variable {t thresholds user unitId year month}

theorem checkedPeriod_valid (h : ValidPeriod (year, month)) : checkedPeriod (some year) (some month) = .ok (year, month) := by
  obtain ⟨h₁, h₂, h₃, h₄⟩ := h
  dsimp only at h₁ h₂ h₃ h₄
  simp [checkedPeriod, Option.filter, h₁, h₂, h₃, h₄]
  rfl

theorem checkedEnd_valid {period : Int × Int} (h : ValidPeriod period) (yearName monthName : String) :
    checkedEnd (some period.1) (some period.2) yearName monthName = .ok period := by
  obtain ⟨h₁, h₂, h₃, h₄⟩ := h
  simp [checkedEnd, Option.filter, h₁, h₂, h₃, h₄]
  rfl

theorem visibleRows_unit (haccess : canViewAll user ∨ unitId ∈ getAllowedUnitIds user) :
    countedScores t (visibleRows t user year month) unitId = (unitRows t unitId year month).filterMap (activeScore t) := by
  rw [countedScores, visibleRows, List.filter_filter, unitRows]
  congr 1
  apply List.filter_congr
  intro row _
  by_cases hid : row.unitId = unitId
  · have hvisible : (canViewAll user || decide (row.unitId ∈ getAllowedUnitIds user)) = true := by
      rw [hid]
      simpa using haccess
    simp only [hid] at hvisible ⊢
    simp [hvisible]
  · simp [hid]

/-- What the summary shows of a unit with a row of an active KPI. -/
theorem dashboardSummary_unit (hperiod : ValidPeriod (year, month))
    (haccess : canViewAll user ∨ unitId ∈ getAllowedUnitIds user)
    (hactive : (unitRows t unitId year month).filterMap (activeScore t) ≠ []) :
    ∃ summary, dashboardSummary t thresholds user (some year) (some month) = .ok summary ∧
      (∃ unit ∈ summary.units, unit.unitId = unitId) ∧
      ∀ unit ∈ summary.units, unit.unitId = unitId → unit.score = toFixed2 (activeMean t unitId year month) ∧
        unit.band = classifyScore (activeMean t unitId year month) thresholds := by
  have hcounts := counts_foldl (t := t) (visibleRows t user year month)
  refine ⟨_, by rw [dashboardSummary, checkedPeriod_valid hperiod]; rfl, ?_, ?_⟩
  · rw [← visibleRows_unit haccess, ← hcounts.units] at hactive
    obtain ⟨totals, ht, hid⟩ := List.mem_map.mp hactive
    refine ⟨totals.unitScore thresholds, ?_, hid⟩
    rw [List.mem_insertionSort]
    exact List.mem_map_of_mem ht
  · intro unit hunit hid
    rw [List.mem_insertionSort] at hunit
    obtain ⟨totals, ht, rfl⟩ := List.mem_map.mp hunit
    have hscore := hcounts.score ht
    rw [show totals.unitId = unitId from hid, visibleRows_unit haccess] at hscore
    rw [activeMean, ← hscore]
    exact ⟨rfl, rfl⟩

/-- What the dashboard of the unit shows. -/
theorem dashboardUnit_score (hperiod : ValidPeriod (year, month)) (hunit : 0 < unitId)
    (haccess : canViewAll user ∨ unitId ∈ getAllowedUnitIds user) :
    ∃ dashboard, dashboardUnit t thresholds user unitId (some year) (some month) = .ok dashboard ∧
      dashboard.score = toFixed2 (unitMean t unitId year month) ∧
      dashboard.band = classifyScore (unitMean t unitId year month) thresholds := by
  have hcheck : check (0 < unitId) (.badRequest "Invalid unit ID." : HttpException) = .ok () := check_eq_ok.mpr hunit
  have hassert : assertUnitAccess user unitId = .ok () := check_eq_ok.mpr haccess
  refine ⟨_, by rw [dashboardUnit, hcheck, checkedPeriod_valid hperiod, hassert]; rfl, ?_, ?_⟩
  all_goals
    dsimp only
    rw [show t.kpiMonitoring.filter (fun row => row.unitId = unitId && row.periodYear = year && row.periodMonth = month) =
      unitRows t unitId year month from rfl, weights_details, products_details]
    rfl

/-- What the series shows of the month. -/
theorem dashboardUnitTimeseries_score (hperiod : ValidPeriod (year, month)) (hunit : 0 < unitId)
    (haccess : canViewAll user ∨ unitId ∈ getAllowedUnitIds user) (hrows : unitRows t unitId year month ≠ [])
    {first last : Int × Int} (hfirst : ValidPeriod first) (hlast : ValidPeriod last) :
    ∃ series, dashboardUnitTimeseries t thresholds user unitId (some first.1) (some first.2) (some last.1)
        (some last.2) = .ok series ∧
      (Between first last (year, month) → monthsBetween first (year, month) ≤ 60 →
        ∃ point ∈ series, point.periodYear = year ∧ point.periodMonth = month) ∧
      ∀ point ∈ series, point.periodYear = year → point.periodMonth = month →
        point.score = toFixed2 (unitMean t unitId year month) ∧
          point.band = classifyScore (unitMean t unitId year month) thresholds := by
  have hcheck : check (0 < unitId) (.badRequest "Invalid unit ID." : HttpException) = .ok () := check_eq_ok.mpr hunit
  have hassert : assertUnitAccess user unitId = .ok () := check_eq_ok.mpr haccess
  refine ⟨(periodsFrom last.1 last.2 61 first.1 first.2).map (periodScore t thresholds unitId
    (t.kpiMonitoring.filter fun row => row.unitId = unitId && inRange first last row)), ?_, ?_, ?_⟩
  · rw [dashboardUnitTimeseries, hcheck, checkedEnd_valid hfirst, checkedEnd_valid hlast, hassert]
    rfl
  · intro hbetween hmonths
    refine ⟨periodScore t thresholds unitId _ (year, month), List.mem_map_of_mem ?_, rfl, rfl⟩
    exact mem_periodsFrom hfirst.2.2 hperiod.2.2 hbetween (Int.lt_add_one_of_le hmonths)
  · intro point hpoint hyear hmonth
    obtain ⟨⟨y, m⟩, hmem, rfl⟩ := List.mem_map.mp hpoint
    obtain rfl : y = year := hyear
    obtain rfl : m = month := hmonth
    exact periodScore_eq t thresholds (filter_inRange (between_of_mem_periodsFrom hmem)) hrows

/-- Nothing to round, and no retired KPI: the two means are the same. -/
theorem means_eq (h : ∀ row ∈ unitRows t unitId year month, ∀ kpi, row.master t = some kpi →
    kpi.active = true ∧ toFixed2 (normalized t kpi row) = normalized t kpi row) :
    (unitRows t unitId year month).filterMap (activeScore t) =
      (unitRows t unitId year month).filterMap (roundedScore t) := by
  apply List.filterMap_congr
  intro row hrow
  cases hmaster : row.master t with
  | none => simp [activeScore, roundedScore, hmaster]
  | some kpi =>
    obtain ⟨hactive, hround⟩ := h row hrow kpi hmaster
    simp [activeScore, roundedScore, hmaster, Option.filter, hactive, hround]

theorem classifyScore_own (score other : Rat) :
    classifyScore other [{ band := "own", minScore := score, maxScore := score }] =
      if other = score then "own" else "unclassified" := by
  unfold classifyScore byMinScore
  by_cases h : other = score
  · simp [h]
  · have hout : ¬ (score ≤ other ∧ other ≤ score) := fun hin => h (le_antisymm hin.2 hin.1)
    simp [h, hout]

/-- **The dashboards agree** on a unit, whatever the thresholds, exactly where rounding each score first and counting
inactive KPIs leave its weighted mean. -/
theorem dashboards_agree_iff (hperiod : ValidPeriod (year, month)) (hunit : 0 < unitId)
    (haccess : canViewAll user ∨ unitId ∈ getAllowedUnitIds user)
    (hactive : ∃ row ∈ unitRows t unitId year month, ∃ kpi, row.master t = some kpi ∧ kpi.active = true) :
    (∀ thresholds, ∃ score band, DashboardsShow t thresholds user unitId year month score band) ↔
      weightedMean ((unitRows t unitId year month).filterMap (activeScore t)) =
        weightedMean ((unitRows t unitId year month).filterMap (roundedScore t)) := by
  obtain ⟨row, hrow, kpi, hmaster, hkpi⟩ := hactive
  have hrows : unitRows t unitId year month ≠ [] := List.ne_nil_of_mem hrow
  have hcounted : (unitRows t unitId year month).filterMap (activeScore t) ≠ [] := by
    apply List.ne_nil_of_mem (a := (normalized t kpi row, kpi.weight))
    refine List.mem_filterMap.mpr ⟨row, hrow, ?_⟩
    simp [activeScore, hmaster, Option.filter, hkpi]
  change _ ↔ activeMean t unitId year month = unitMean t unitId year month
  constructor
  · intro h
    -- a threshold that holds only the mean of the active KPIs tells the two means apart
    obtain ⟨score, band, hshow⟩ := h [{
      band := "own", minScore := activeMean t unitId year month, maxScore := activeMean t unitId year month }]
    obtain ⟨summary, hsummary, ⟨shown, hshown, hid⟩, hall⟩ := hshow.summary
    obtain ⟨dashboard, hdashboard, -, hband⟩ := hshow.unit
    obtain ⟨summary', hsummary', -, hall'⟩ := dashboardSummary_unit hperiod haccess hcounted
    obtain ⟨dashboard', hdashboard', -, hband'⟩ := dashboardUnit_score (t := t) hperiod hunit haccess
    rw [hsummary] at hsummary'
    cases hsummary'
    rw [hdashboard] at hdashboard'
    cases hdashboard'
    have hsame := (hall shown hshown hid).2.symm.trans (hall' shown hshown hid).2
    rw [← hband, hband', classifyScore_own, classifyScore_own, if_pos rfl] at hsame
    by_contra hne
    rw [if_neg (Ne.symm hne)] at hsame
    simp at hsame
  · intro heq thresholds
    refine ⟨toFixed2 (unitMean t unitId year month), classifyScore (unitMean t unitId year month) thresholds, ?_, ?_, ?_⟩
    · rw [← heq]
      exact dashboardSummary_unit hperiod haccess hcounted
    · exact dashboardUnit_score hperiod hunit haccess
    · exact fun first last hfirst hlast => dashboardUnitTimeseries_score hperiod hunit haccess hrows hfirst hlast

end

/-- A unit with a KPI that is met, and one that is missed. -/
def twoKpis (missedIsActive : Bool) (missed : Rat) : Tables where
  kpiMaster := [{ code := "A", targetValue := 10 }, { code := "B", targetValue := 10, active := missedIsActive }]
  kpiMonitoring := [{ id := 1, kpiMasterCode := "A", unitId := 1, periodYear := 2026, periodMonth := 1, actualValue := 10 },
    { id := 2, kpiMasterCode := "B", unitId := 1, periodYear := 2026, periodMonth := 1, actualValue := missed }]

def complianceOfficer : AuthUser := { isKpiManage := true, units := [] }

theorem dashboards_agree_iff_whole : ∃ score band,
    DashboardsShow (twoKpis true 5) [] complianceOfficer 1 2026 1 score band := by
  refine (dashboards_agree_iff (by decide) (by decide) (by decide)
    ⟨{ id := 1, kpiMasterCode := "A", unitId := 1, periodYear := 2026, periodMonth := 1, actualValue := 10 }, by decide,
      { code := "A", targetValue := 10 }, by decide, rfl⟩).mpr ?_ []
  exact congrArg weightedMean (means_eq (by decide +kernel))

/-- A KPI that was retired counts in two of the three dashboards. -/
theorem dashboards_disagree : ¬ ∀ (t : Tables) (thresholds : List KpiThreshold) (user : AuthUser) (unitId year month : Int),
    ValidPeriod (year, month) → 0 < unitId → (canViewAll user ∨ unitId ∈ getAllowedUnitIds user) →
    (∃ row ∈ unitRows t unitId year month, ∃ kpi, row.master t = some kpi ∧ kpi.active = true) →
    ∃ score band, DashboardsShow t thresholds user unitId year month score band := by
  intro h
  have hperiod : ValidPeriod (2026, 1) := by decide
  have haccess : canViewAll complianceOfficer ∨ 1 ∈ getAllowedUnitIds complianceOfficer := by decide
  obtain ⟨score, band, hshow⟩ := h (twoKpis false 0) [] complianceOfficer 1 2026 1 hperiod (by decide) haccess
    ⟨{ id := 1, kpiMasterCode := "A", unitId := 1, periodYear := 2026, periodMonth := 1, actualValue := 10 }, by decide,
      { code := "A", targetValue := 10 }, by decide, rfl⟩
  obtain ⟨summary, hsummary, ⟨shown, hshown, hid⟩, hall⟩ := hshow.summary
  obtain ⟨dashboard, hdashboard, hscore, -⟩ := hshow.unit
  have hactive : (unitRows (twoKpis false 0) 1 2026 1).filterMap (activeScore (twoKpis false 0)) ≠ [] := by decide +kernel
  obtain ⟨summary', hsummary', -, hall'⟩ := dashboardSummary_unit hperiod haccess hactive
  obtain ⟨dashboard', hdashboard', hscore', -⟩ := dashboardUnit_score (t := twoKpis false 0) hperiod (by decide) haccess
  rw [hsummary] at hsummary'
  cases hsummary'
  rw [hdashboard] at hdashboard'
  cases hdashboard'
  have hsame := (hall shown hshown hid).1.symm.trans (hall' shown hshown hid).1
  rw [← hscore, hscore'] at hsame
  have hdiffer : toFixed2 (unitMean (twoKpis false 0) 1 2026 1) ≠ toFixed2 (activeMean (twoKpis false 0) 1 2026 1) := by
    decide +kernel
  exact hdiffer hsame

end ComplianceHub.Kpi
