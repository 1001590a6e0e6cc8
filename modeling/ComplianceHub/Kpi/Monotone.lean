import ComplianceHub.Kpi.Agreement
import Mathlib.Data.List.Forall2

/-!
# Better values and lower scores

* `AtLeastAsGood` : one actual value is at least as good as another, for the direction of a KPI;
* `clampedScore` : the score of an actual value; `DropsToZero` : the perfect value of a KPI that is to be low;
* `Better` : rows of which some report a better score; `dashboardSummary_mono` : they never lower the score of a unit;
* `better_never_lowers_iff` : a better value never lowers a score, that of a unit neither, but for the perfect one.
-/

namespace ComplianceHub.Kpi

/-! ## Scores -/

/-- `b` is at least as good as `a`. -/
def AtLeastAsGood (kpi : KpiMaster) (a b : Rat) : Prop :=
  match kpi.type with
  | .yes_no => 1 ≤ a → 1 ≤ b
  | .measurement =>
    match kpi.direction with
    | .higher_is_better => a ≤ b
    | .lower_is_better => b ≤ a

/-- The score of an actual value, between the floor and the cap. -/
def clampedScore (kpi : KpiMaster) (rule : KpiScoringRule) (actual : Rat) : Rat :=
  clamp (computeRaw kpi actual rule) rule.floorScore rule.capScore

/-- A KPI that is to be low comes down to zero, from a value that scores above the floor. -/
structure DropsToZero (kpi : KpiMaster) (rule : KpiScoringRule) (a b : Rat) : Prop where
  type : kpi.type = .measurement
  direction : kpi.direction = .lower_is_better
  zero : b = 0
  positive : 0 < a
  scores : rule.floorScore * a < kpi.targetValue * 100
  floor : rule.floorScore < rule.capScore
  cap : 0 < rule.capScore

theorem clamp_mono {x y floor cap : Rat} (h : x ≤ y) : clamp x floor cap ≤ clamp y floor cap :=
  min_le_min_left cap (max_le_max_left floor h)

theorem clamp_zero_lt_iff {x floor cap : Rat} (hx : 0 < x) :
    clamp 0 floor cap < clamp x floor cap ↔ floor < x ∧ floor < cap ∧ 0 < cap := by
  unfold clamp
  constructor
  · intro h
    have hcap : max floor 0 < cap := by
      by_contra hle
      rw [min_eq_left (not_lt.mp hle)] at h
      exact absurd h (not_lt.mpr (min_le_left _ _))
    refine ⟨?_, (le_max_left _ _).trans_lt hcap, (le_max_right _ _).trans_lt hcap⟩
    by_contra hle
    have hsame : max floor x = max floor 0 := by
      rw [max_eq_left (not_lt.mp hle), max_eq_left (hx.le.trans (not_lt.mp hle))]
    rw [hsame] at h
    exact lt_irrefl _ h
  · rintro ⟨hfloor, hfc, hc⟩
    have hlow : max floor 0 < cap := max_lt hfc hc
    have hhigh : max floor 0 < max floor x := (max_lt hfloor hx).trans_le (le_max_right _ _)
    rw [min_eq_right hlow.le]
    exact lt_min hlow hhigh

section
variable {kpi : KpiMaster} {rule : KpiScoringRule} {a b : Rat}

theorem computeRaw_mono (hyes : rule.noScore ≤ rule.yesScore) (htarget : 0 < kpi.targetValue) (hgood : AtLeastAsGood kpi a b)
    (hlow : kpi.type = .measurement → kpi.direction = .lower_is_better → a ≤ 0 ∨ 0 < b) :
    computeRaw kpi a rule ≤ computeRaw kpi b rule := by
  unfold AtLeastAsGood at hgood
  unfold computeRaw
  cases htype : kpi.type with
  | yes_no =>
    simp only [htype] at hgood ⊢
    split_ifs with ha hb
    · exact le_refl _
    · exact absurd (hgood ha) hb
    · exact hyes
    · exact le_refl _
  | measurement =>
    simp only [htype, if_neg (not_le.mpr htarget)] at hgood ⊢
    cases hdirection : kpi.direction with
    | higher_is_better =>
      simp only [hdirection] at hgood ⊢
      have hratio : a / kpi.targetValue ≤ b / kpi.targetValue := div_le_div_of_nonneg_right hgood htarget.le
      exact mul_le_mul_of_nonneg_right hratio (by norm_num)
    | lower_is_better =>
      simp only [hdirection] at hgood ⊢
      have hnonneg : ∀ x : Rat, 0 < x → 0 ≤ kpi.targetValue / x * 100 := fun x hx => by positivity
      rcases hlow htype hdirection with ha | hb
      · rw [if_pos ha]
        split_ifs with hb
        · exact le_refl _
        · exact hnonneg b (not_le.mp hb)
      · rw [if_neg (not_le.mpr (hb.trans_le hgood)), if_neg (not_le.mpr hb)]
        have hratio : kpi.targetValue / a ≤ kpi.targetValue / b := div_le_div_of_nonneg_left htarget.le hb hgood
        exact mul_le_mul_of_nonneg_right hratio (by norm_num)

/-- The score of a better value is lower exactly where the value has come down to zero. -/
theorem clampedScore_le_iff (hyes : rule.noScore ≤ rule.yesScore) (htarget : 0 < kpi.targetValue) (hb : 0 ≤ b)
    (hgood : AtLeastAsGood kpi a b) : clampedScore kpi rule a ≤ clampedScore kpi rule b ↔ ¬ DropsToZero kpi rule a b := by
  by_cases hlow : kpi.type = .measurement → kpi.direction = .lower_is_better → a ≤ 0 ∨ 0 < b
  · refine ⟨fun _ hdrops => ?_, fun _ => clamp_mono (computeRaw_mono hyes htarget hgood hlow)⟩
    rcases hlow hdrops.type hdrops.direction with ha | hpositive
    · exact absurd hdrops.positive (not_lt.mpr ha)
    · rw [hdrops.zero] at hpositive
      exact lt_irrefl _ hpositive
  · push Not at hlow
    obtain ⟨htype, hdirection, ha, hle⟩ := hlow
    obtain rfl : b = 0 := le_antisymm hle hb
    have hraw : computeRaw kpi a rule = kpi.targetValue / a * 100 := by
      simp only [computeRaw, htype, hdirection, if_neg (not_le.mpr htarget), if_neg (not_le.mpr ha)]
    have hzero : computeRaw kpi 0 rule = 0 := by
      simp only [computeRaw, htype, hdirection, if_neg (not_le.mpr htarget), if_pos (le_refl _)]
    have hpositive : 0 < kpi.targetValue / a * 100 := by positivity
    have hscores : rule.floorScore < kpi.targetValue / a * 100 ↔ rule.floorScore * a < kpi.targetValue * 100 := by
      rw [div_mul_eq_mul_div, lt_div_iff₀ ha]
    rw [← not_lt, not_iff_not, clampedScore, clampedScore, hraw, hzero, clamp_zero_lt_iff hpositive, hscores]
    exact ⟨fun h => ⟨htype, hdirection, rfl, ha, h.1, h.2.1, h.2.2⟩, fun h => ⟨h.scores, h.floor, h.cap⟩⟩

end

/-! ## Means -/

theorem toFixed2_mono {x y : Rat} (h : x ≤ y) : toFixed2 x ≤ toFixed2 y := by
  unfold toFixed2
  split_ifs with hx hy hy
  · have hfloor : ⌊-y * 100 + 1 / 2⌋ ≤ ⌊-x * 100 + 1 / 2⌋ := Int.floor_le_floor (by linarith)
    have hcast : ((⌊-y * 100 + 1 / 2⌋ : Int) : Rat) ≤ (⌊-x * 100 + 1 / 2⌋ : Int) := Int.cast_le.mpr hfloor
    linarith
  · have hneg : (0 : Rat) ≤ (⌊-x * 100 + 1 / 2⌋ : Int) := Int.cast_nonneg (Int.floor_nonneg.mpr (by linarith))
    have hpos : (0 : Rat) ≤ (⌊y * 100 + 1 / 2⌋ : Int) := Int.cast_nonneg (Int.floor_nonneg.mpr (by linarith))
    linarith
  · exact absurd (h.trans_lt hy) hx
  · have hfloor : ⌊x * 100 + 1 / 2⌋ ≤ ⌊y * 100 + 1 / 2⌋ := Int.floor_le_floor (by linarith)
    have hcast : ((⌊x * 100 + 1 / 2⌋ : Int) : Rat) ≤ (⌊y * 100 + 1 / 2⌋ : Int) := Int.cast_le.mpr hfloor
    linarith

/-- The same weight, and a score that is not lower. -/
def NotLower (p q : Rat × Rat) : Prop := q.2 = p.2 ∧ 0 ≤ p.2 ∧ p.1 ≤ q.1

theorem weightedMean_mono {scores scores' : List (Rat × Rat)} (h : List.Forall₂ NotLower scores scores') :
    weightedMean scores ≤ weightedMean scores' := by
  have hsums : (scores'.map Prod.snd).sum = (scores.map Prod.snd).sum ∧
      (scores.map fun p => p.1 * p.2).sum ≤ (scores'.map fun p => p.1 * p.2).sum := by
    induction h with
    | nil => exact ⟨rfl, le_refl _⟩
    | @cons p q scores scores' hpq _ ih =>
      obtain ⟨hweight, hnonneg, hle⟩ := hpq
      have hproduct : p.1 * p.2 ≤ q.1 * q.2 := by
        rw [hweight]
        exact mul_le_mul_of_nonneg_right hle hnonneg
      refine ⟨?_, ?_⟩
      · rw [List.map_cons, List.map_cons, List.sum_cons, List.sum_cons, ih.1, hweight]
      · rw [List.map_cons, List.map_cons, List.sum_cons, List.sum_cons]
        exact add_le_add hproduct ih.2
  unfold weightedMean
  rw [hsums.1]
  split_ifs with htotal
  · exact div_le_div_of_nonneg_right hsums.2 htotal.le
  · exact le_refl _

/-! ## Rows -/

/-- A row as it was, or with a score that is not lower. -/
structure Better (t : Tables) (row row' : KpiMonitoring) : Prop where
  unitId : row'.unitId = row.unitId
  periodYear : row'.periodYear = row.periodYear
  periodMonth : row'.periodMonth = row.periodMonth
  code : row'.kpiMasterCode = row.kpiMasterCode
  score : ∀ kpi, row.master t = some kpi → normalized t kpi row ≤ normalized t kpi row'

/-- Other monitoring rows. -/
def Tables.withRows (t : Tables) (rows : List KpiMonitoring) : Tables := { t with kpiMonitoring := rows }

section
variable {t : Tables} {rows rows' : List KpiMonitoring}

theorem countedScores_withRows (shown : List KpiMonitoring) (unitId : Int) :
    countedScores (t.withRows rows) shown unitId = countedScores t shown unitId := rfl

theorem Better.refl (row : KpiMonitoring) : Better t row row := ⟨rfl, rfl, rfl, rfl, fun _ _ => le_refl _⟩

theorem Better.master {row row' : KpiMonitoring} (h : Better t row row') : row'.master t = row.master t := by
  unfold KpiMonitoring.master
  rw [h.code]

/-- The scores that better rows count for a unit. -/
theorem countedScores_better (hweights : ∀ kpi ∈ t.kpiMaster, 0 ≤ kpi.weight) (h : List.Forall₂ (Better t) rows rows')
    (unitId : Int) : List.Forall₂ NotLower (countedScores t rows unitId) (countedScores t rows' unitId) := by
  unfold countedScores
  apply List.rel_filterMap (R := Better t)
  · intro row row' hrow
    unfold activeScore
    rw [hrow.master]
    cases hkpi : (row.master t).filter KpiMaster.active with
    | none => exact .none
    | some kpi =>
      have hmaster : row.master t = some kpi := (Option.filter_eq_some_iff.mp hkpi).1
      exact .some ⟨rfl, hweights kpi (List.mem_of_find?_eq_some hmaster), hrow.score kpi hmaster⟩
  · apply List.rel_filter _ h
    intro row row' hrow
    simp only [hrow.unitId]

theorem visibleRows_better (h : List.Forall₂ (Better t) t.kpiMonitoring rows') (user : AuthUser) (year month : Int) :
    List.Forall₂ (Better t) (visibleRows t user year month) (visibleRows (t.withRows rows') user year month) := by
  apply List.rel_filter _ h
  intro row row' hrow
  simp only [hrow.unitId, hrow.periodYear, hrow.periodMonth]

/-- What a summary shows of its units: the mean of the scores that the visible rows count for each. -/
theorem mem_dashboardSummary {thresholds : List KpiThreshold} {user : AuthUser} {periodYear periodMonth : Option Int}
    {summary : Summary} (h : dashboardSummary t thresholds user periodYear periodMonth = .ok summary) :
    ∃ year month, checkedPeriod periodYear periodMonth = .ok (year, month) ∧
      (∀ unitId, (∃ unit ∈ summary.units, unit.unitId = unitId) ↔
        countedScores t (visibleRows t user year month) unitId ≠ []) ∧
      ∀ unit ∈ summary.units,
        unit.score = toFixed2 (weightedMean (countedScores t (visibleRows t user year month) unit.unitId)) ∧
        unit.band = classifyScore (weightedMean (countedScores t (visibleRows t user year month) unit.unitId)) thresholds := by
  obtain ⟨⟨year, month⟩, hperiod, h⟩ := bind_eq_ok.mp h
  cases h
  have hcounts := counts_foldl (t := t) (visibleRows t user year month)
  refine ⟨year, month, hperiod, fun unitId => ?_, fun unit hunit => ?_⟩
  · rw [← hcounts.units]
    constructor
    · rintro ⟨unit, hunit, rfl⟩
      rw [List.mem_insertionSort] at hunit
      obtain ⟨totals, htotals, rfl⟩ := List.mem_map.mp hunit
      exact List.mem_map_of_mem htotals
    · intro hunit
      obtain ⟨totals, htotals, rfl⟩ := List.mem_map.mp hunit
      refine ⟨totals.unitScore thresholds, ?_, rfl⟩
      rw [List.mem_insertionSort]
      exact List.mem_map_of_mem htotals
  · rw [List.mem_insertionSort] at hunit
    obtain ⟨totals, htotals, rfl⟩ := List.mem_map.mp hunit
    show toFixed2 totals.score = toFixed2 (weightedMean (countedScores t _ totals.unitId)) ∧
      classifyScore totals.score thresholds = classifyScore (weightedMean (countedScores t _ totals.unitId)) thresholds
    rw [hcounts.score htotals]
    exact ⟨rfl, rfl⟩

/-- Better rows never lower the score that the summary shows of a unit. -/
theorem dashboardSummary_mono (hweights : ∀ kpi ∈ t.kpiMaster, 0 ≤ kpi.weight)
    (h : List.Forall₂ (Better t) t.kpiMonitoring rows') {thresholds : List KpiThreshold} {user : AuthUser}
    {periodYear periodMonth : Option Int} {summary : Summary}
    (hsummary : dashboardSummary t thresholds user periodYear periodMonth = .ok summary) :
    ∃ summary', dashboardSummary (t.withRows rows') thresholds user periodYear periodMonth = .ok summary' ∧
      ∀ unit ∈ summary.units, (∃ unit' ∈ summary'.units, unit'.unitId = unit.unitId) ∧
        ∀ unit' ∈ summary'.units, unit'.unitId = unit.unitId → unit.score ≤ unit'.score := by
  obtain ⟨year, month, hperiod, hunits, hscores⟩ := mem_dashboardSummary hsummary
  obtain ⟨summary', hsummary'⟩ : ∃ summary',
      dashboardSummary (t.withRows rows') thresholds user periodYear periodMonth = .ok summary' := by
    rw [dashboardSummary, hperiod]
    exact ⟨_, rfl⟩
  obtain ⟨year', month', hperiod', hunits', hscores'⟩ := mem_dashboardSummary hsummary'
  cases hperiod.symm.trans hperiod'
  have hbetter : ∀ unitId, List.Forall₂ NotLower (countedScores t (visibleRows t user year month) unitId)
      (countedScores (t.withRows rows') (visibleRows (t.withRows rows') user year month) unitId) := by
    intro unitId
    rw [countedScores_withRows]
    exact countedScores_better hweights (visibleRows_better h user year month) unitId
  refine ⟨summary', hsummary', fun unit hunit => ⟨?_, fun unit' hunit' hid => ?_⟩⟩
  · rw [hunits']
    intro hnil
    have hnone := hbetter unit.unitId
    rw [hnil, List.forall₂_nil_right_iff] at hnone
    exact (hunits unit.unitId).mp ⟨unit, hunit, rfl⟩ hnone
  · rw [(hscores unit hunit).1, (hscores' unit' hunit').1, hid]
    exact toFixed2_mono (weightedMean_mono (hbetter unit.unitId))

end

/-! ## A better value -/

/-- A row with another actual value. -/
def Tables.report (t : Tables) (i : Nat) (actual : Rat) : Tables :=
  t.withRows (t.kpiMonitoring.modify i fun row => { row with actualValue := actual })

/-- Where a row of the KPI reports `b` instead of `a`, the summary shows no lower score of any unit. -/
def NeverLowersUnit (kpi : KpiMaster) (rule : KpiScoringRule) (a b : Rat) : Prop :=
  ∀ (t : Tables) (thresholds : List KpiThreshold) (user : AuthUser) (periodYear periodMonth : Option Int) (i : Nat)
    (row : KpiMonitoring) (summary : Summary), scoringRule t = rule → (∀ kpi ∈ t.kpiMaster, 0 ≤ kpi.weight) →
    t.kpiMonitoring[i]? = some row → row.master t = some kpi → row.actualValue = a →
    dashboardSummary t thresholds user periodYear periodMonth = .ok summary →
    ∃ summary', dashboardSummary (t.report i b) thresholds user periodYear periodMonth = .ok summary' ∧
      ∀ unit ∈ summary.units, (∃ unit' ∈ summary'.units, unit'.unitId = unit.unitId) ∧
        ∀ unit' ∈ summary'.units, unit'.unitId = unit.unitId → unit.score ≤ unit'.score

section
variable {kpi : KpiMaster} {rule : KpiScoringRule} {a b : Rat}

theorem better_report {t : Tables} {i : Nat} {row : KpiMonitoring} (hrule : scoringRule t = rule)
    (hrow : t.kpiMonitoring[i]? = some row) (hmaster : row.master t = some kpi) (ha : row.actualValue = a)
    (hscore : clampedScore kpi rule a ≤ clampedScore kpi rule b) :
    List.Forall₂ (Better t) t.kpiMonitoring (t.report i b).kpiMonitoring := by
  rw [List.forall₂_iff_get]
  refine ⟨by simp [Tables.report, Tables.withRows], fun j hj hj' => ?_⟩
  simp only [Tables.report, Tables.withRows, List.get_eq_getElem, List.getElem_modify]
  split_ifs with heq
  · subst heq
    obtain ⟨_, hget⟩ := List.getElem?_eq_some_iff.mp hrow
    rw [hget]
    refine ⟨rfl, rfl, rfl, rfl, fun other hother => ?_⟩
    cases hmaster.symm.trans hother
    show clampedScore kpi (scoringRule t) row.actualValue ≤ clampedScore kpi (scoringRule t) b
    rw [hrule, ha]
    exact hscore
  · exact .refl _

/-- **A better value never lowers a score**, of the KPI and of any unit, exactly where it is not the zero of a KPI that
is to be low, in place of a positive value that scores above the floor. -/
theorem better_never_lowers_iff (hyes : rule.noScore ≤ rule.yesScore) (htarget : 0 < kpi.targetValue) (hb : 0 ≤ b)
    (hgood : AtLeastAsGood kpi a b) :
    (clampedScore kpi rule a ≤ clampedScore kpi rule b ∧ NeverLowersUnit kpi rule a b) ↔ ¬ DropsToZero kpi rule a b := by
  rw [← clampedScore_le_iff hyes htarget hb hgood, and_iff_left_iff_imp]
  intro hscore t thresholds user periodYear periodMonth i row summary hrule hweights hrow hmaster hvalue hsummary
  exact dashboardSummary_mono hweights (better_report hrule hrow hmaster hvalue hscore) hsummary

end

/-- A KPI that is to be below four. -/
def responseDays : KpiMaster := { code := "R", direction := .lower_is_better, targetValue := 4 }

theorem better_never_lowers_faster :
    clampedScore responseDays {} 5 ≤ clampedScore responseDays {} 3 ∧ NeverLowersUnit responseDays {} 5 3 := by
  refine (better_never_lowers_iff (by decide +kernel) (by decide +kernel) (by decide +kernel) ?_).mpr fun hdrops => ?_
  · show (3 : Rat) ≤ 5
    norm_num
  · exact absurd hdrops.zero (by norm_num)

/-- No days at all score less than five. -/
theorem zero_days_score_nothing : ¬ ∀ (kpi : KpiMaster) (rule : KpiScoringRule) (a b : Rat),
    rule.floorScore ≤ rule.capScore → rule.noScore ≤ rule.yesScore → 0 < kpi.targetValue → 0 ≤ a → 0 ≤ b →
    AtLeastAsGood kpi a b → clampedScore kpi rule a ≤ clampedScore kpi rule b := by
  intro h
  have hle := h responseDays {} 5 0 (by decide +kernel) (by decide +kernel) (by decide +kernel) (by decide +kernel)
    (by decide +kernel) (show (0 : Rat) ≤ 5 by norm_num)
  exact absurd hle (by decide +kernel)

end ComplianceHub.Kpi
