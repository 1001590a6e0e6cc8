import ComplianceHub.Common
import Mathlib.Algebra.Order.Floor.Ring
import Mathlib.Algebra.Order.Field.Rat
import Mathlib.Data.List.Sort
import Mathlib.Data.Rat.Floor
import Mathlib.Tactic.Ring

/-!
# KPI dashboards

* `computeRaw`, `clamp`, `toFixed2`, `classifyScore` : the score of one monitoring row, and the band of a score;
* `dashboardSummary`, `dashboardUnit`, `dashboardUnitTimeseries` : the three dashboards, each with its own aggregation.

Numbers are exact rationals, periods are whole years and months.
-/

namespace ComplianceHub.Kpi

inductive KpiType where
  | measurement
  | yes_no
deriving DecidableEq, Repr

inductive KpiDirection where
  | higher_is_better
  | lower_is_better
deriving DecidableEq, Repr

structure KpiMaster where
  code : String
  name : String := ""
  type : KpiType := .measurement
  unitOfMeasure : Option String := none
  direction : KpiDirection := .higher_is_better
  targetValue : Rat
  weight : Rat := 1
  active : Bool := true
deriving DecidableEq, Repr

inductive KpiMonitoringStatus where
  | draft
  | locked
deriving DecidableEq, Repr

structure KpiMonitoring where
  id : Nat
  kpiMasterCode : String
  unitId : Int
  periodYear : Int
  periodMonth : Int
  actualValue : Rat
  remarks : Option String := none
  status : KpiMonitoringStatus := .draft
deriving DecidableEq, Repr

structure KpiScoringRule where
  id : Nat := 0
  active : Bool := true
  capScore : Rat := 100
  floorScore : Rat := 0
  yesScore : Rat := 100
  noScore : Rat := 0
deriving DecidableEq, Repr

structure KpiThreshold where
  band : String
  minScore : Rat
  maxScore : Rat
deriving DecidableEq, Repr

/-- The KPI tables. -/
structure Tables where
  kpiMaster : List KpiMaster := []
  kpiMonitoring : List KpiMonitoring := []
  kpiScoringRules : List KpiScoringRule := []

structure AuthUser where
  /-- The role has the capability `isKpiManage`. -/
  isKpiManage : Bool
  /-- The numeric unit ids in the token. -/
  units : List Int
deriving DecidableEq, Repr

section
variable (t : Tables)

/-- The joined master of a row. -/
def KpiMonitoring.master (row : KpiMonitoring) : Option KpiMaster := t.kpiMaster.find? fun kpi => kpi.code = row.kpiMasterCode

/-- The active rule with the highest id, else the defaults. -/
def scoringRule : KpiScoringRule :=
  ((t.kpiScoringRules.filter KpiScoringRule.active).insertionSort fun a b => b.id ≤ a.id).head?.getD {}

/-- `order: { minScore: 'DESC' }`. -/
def byMinScore (thresholds : List KpiThreshold) : List KpiThreshold :=
  thresholds.insertionSort fun a b => b.minScore ≤ a.minScore

def canViewAll (user : AuthUser) : Bool := user.isKpiManage

def getAllowedUnitIds (user : AuthUser) : List Int := user.units.dedup

/-! ## Scores -/

def clamp (value floor cap : Rat) : Rat := min cap (max floor value)

def computeRaw (kpi : KpiMaster) (actual : Rat) (rule : KpiScoringRule) : Rat :=
  match kpi.type with
  | .yes_no => if 1 ≤ actual then rule.yesScore else rule.noScore
  | .measurement =>
    if kpi.targetValue ≤ 0 then 0
    else match kpi.direction with
      | .higher_is_better => actual / kpi.targetValue * 100
      | .lower_is_better =>
        -- Use target / actual and clamp by the scoring rule caps.
        if actual ≤ 0 then 0 else kpi.targetValue / actual * 100

/-- The score of a row, between the floor and the cap. -/
def normalized (kpi : KpiMaster) (row : KpiMonitoring) : Rat :=
  let rule := scoringRule t
  clamp (computeRaw kpi row.actualValue rule) rule.floorScore rule.capScore

/-- `Number(x.toFixed(2))`: two decimals, halves away from zero. -/
def toFixed2 (x : Rat) : Rat :=
  if x < 0 then -((⌊-x * 100 + 1 / 2⌋ : Rat) / 100) else (⌊x * 100 + 1 / 2⌋ : Rat) / 100

def classifyScore (score : Rat) (thresholds : List KpiThreshold) : String :=
  match ((byMinScore thresholds).find? fun t => t.minScore ≤ score && score ≤ t.maxScore).map KpiThreshold.band with
  | some "" | none => "unclassified"
  | some band => band

/-! ## The summary -/

/-- What the summary adds up for a unit. -/
structure UnitTotals where
  unitId : Int
  unitName : String
  totalWeight : Rat := 0
  weightedSum : Rat := 0
  kpiCount : Nat := 0
deriving DecidableEq, Repr

def UnitTotals.add (totals : UnitTotals) (weight normalized : Rat) : UnitTotals :=
  { totals with
    totalWeight := totals.totalWeight + weight
    weightedSum := totals.weightedSum + normalized * weight
    kpiCount := totals.kpiCount + 1 }

/-- A row counted for its unit; `byUnit` keeps the units in the order of their first rows. -/
def countFor (byUnit : List UnitTotals) (unitId : Int) (weight normalized : Rat) : List UnitTotals :=
  match byUnit with
  | [] => [{ unitId, unitName := "Unit " ++ toString unitId : UnitTotals }.add weight normalized]
  | current :: rest =>
    if current.unitId = unitId then current.add weight normalized :: rest
    else current :: countFor rest unitId weight normalized

/-- Rows of an inactive KPI are left out. -/
def countRow (byUnit : List UnitTotals) (row : KpiMonitoring) : List UnitTotals :=
  match (row.master t).filter KpiMaster.active with
  | some kpi => countFor byUnit row.unitId kpi.weight (normalized t kpi row)
  | none => byUnit

structure UnitScore where
  unitId : Int
  unitName : String
  score : Rat
  kpiCount : Nat
  band : String
deriving DecidableEq, Repr

def UnitTotals.score (totals : UnitTotals) : Rat :=
  if 0 < totals.totalWeight then totals.weightedSum / totals.totalWeight else 0

def UnitTotals.unitScore (thresholds : List KpiThreshold) (totals : UnitTotals) : UnitScore :=
  { unitId := totals.unitId, unitName := totals.unitName, score := toFixed2 totals.score
    kpiCount := totals.kpiCount, band := classifyScore totals.score thresholds }

structure Summary where
  overallScore : Rat
  rowCount : Nat
  units : List UnitScore
deriving DecidableEq, Repr

/-- A whole year and month, checked like the query parameters. -/
def checkedPeriod (periodYear periodMonth : Option Int) : Except HttpException (Int × Int) := do
  match periodYear.filter fun year => 2000 ≤ year ∧ year ≤ 2100 with
  | none => .error (.badRequest "periodYear must be a valid year (2000-2100).")
  | some year =>
    match periodMonth.filter fun month => 1 ≤ month ∧ month ≤ 12 with
    | none => .error (.badRequest "periodMonth must be between 1 and 12.")
    | some month => pure (year, month)

/-- The rows of a period that the user may see, none for a user without units. -/
def visibleRows (user : AuthUser) (year month : Int) : List KpiMonitoring :=
  t.kpiMonitoring.filter fun row => row.periodYear = year && row.periodMonth = month &&
    (canViewAll user || row.unitId ∈ getAllowedUnitIds user)

def dashboardSummary (thresholds : List KpiThreshold) (user : AuthUser) (periodYear periodMonth : Option Int) :
    Except HttpException Summary := do
  let (year, month) ← checkedPeriod periodYear periodMonth
  let rows := visibleRows t user year month
  let units := (rows.foldl (countRow t) []).map (UnitTotals.unitScore thresholds)
  let overallScore := if units.length = 0 then 0 else (units.map UnitScore.score).sum / units.length
  pure {
    overallScore := toFixed2 overallScore
    rowCount := rows.length
    units := units.insertionSort fun a b => b.score ≤ a.score }

/-! ## One unit -/

/-- One line of a unit's dashboard. -/
structure Detail where
  id : Nat
  code : String
  name : String
  type : KpiType
  direction : KpiDirection
  unitOfMeasure : Option String
  targetValue : Rat
  actualValue : Rat
  weight : Rat
  normalizedScore : Rat
  status : KpiMonitoringStatus
  band : String
  remarks : Option String
deriving DecidableEq, Repr

def detail (thresholds : List KpiThreshold) (row : KpiMonitoring) : Option Detail :=
  (row.master t).map fun kpi => {
    id := row.id, code := row.kpiMasterCode, name := kpi.name, type := kpi.type, direction := kpi.direction
    unitOfMeasure := kpi.unitOfMeasure, targetValue := kpi.targetValue, actualValue := row.actualValue
    weight := kpi.weight, normalizedScore := toFixed2 (normalized t kpi row), status := row.status
    band := classifyScore (normalized t kpi row) thresholds, remarks := row.remarks }

structure UnitDashboard where
  unitId : Int
  score : Rat
  band : String
  periodYear : Int
  periodMonth : Int
  details : List Detail
deriving DecidableEq, Repr

def assertUnitAccess (user : AuthUser) (unitId : Int) : Except HttpException Unit :=
  check (canViewAll user ∨ unitId ∈ getAllowedUnitIds user) (.forbidden "Unit access denied.")

def dashboardUnit (thresholds : List KpiThreshold) (user : AuthUser) (unitId : Int)
    (periodYear periodMonth : Option Int) : Except HttpException UnitDashboard := do
  check (0 < unitId) (.badRequest "Invalid unit ID.")
  let (year, month) ← checkedPeriod periodYear periodMonth
  assertUnitAccess user unitId
  let rows := t.kpiMonitoring.filter fun row =>
    row.unitId = unitId && row.periodYear = year && row.periodMonth = month
  let details := rows.filterMap (detail t thresholds)
  let totalWeight := (details.map Detail.weight).sum
  let weightedSum := (details.map fun item => item.normalizedScore * item.weight).sum
  let score := if 0 < totalWeight then weightedSum / totalWeight else 0
  pure {
    unitId, score := toFixed2 score, band := classifyScore score thresholds, periodYear := year, periodMonth := month
    details }

/-! ## The series -/

/-- The months of a range; `guard` is the safety cap. -/
def periodsFrom (toYear toMonth : Int) : Nat → Int → Int → List (Int × Int)
  | 0, _, _ => []
  | guard + 1, year, month =>
    if year < toYear ∨ (year = toYear ∧ month ≤ toMonth) then
      (year, month) ::
        if 12 < month + 1 then periodsFrom toYear toMonth guard (year + 1) 1
        else periodsFrom toYear toMonth guard year (month + 1)
    else []

structure KpiScore where
  code : String
  name : String
  normalizedScore : Rat
  actualValue : Rat
  band : String
deriving DecidableEq, Repr

structure PeriodScore where
  periodYear : Int
  periodMonth : Int
  unitId : Int
  score : Rat
  band : String
  hasData : Bool
  kpiScores : List KpiScore
deriving DecidableEq, Repr

def kpiScore (thresholds : List KpiThreshold) (row : KpiMonitoring) : Option KpiScore :=
  (row.master t).map fun kpi => {
    code := row.kpiMasterCode, name := kpi.name, normalizedScore := toFixed2 (normalized t kpi row)
    actualValue := row.actualValue, band := classifyScore (normalized t kpi row) thresholds }

/-- The composite score of a month. Weights are looked up by position among the rows with a master. -/
def periodScore (thresholds : List KpiThreshold) (unitId : Int) (rows : List KpiMonitoring) (period : Int × Int) :
    PeriodScore :=
  let periodRows := rows.filter fun row => row.periodYear = period.1 && row.periodMonth = period.2
  let kpiScores := periodRows.filterMap (kpiScore t thresholds)
  let weights := periodRows.filterMap fun row => (row.master t).map KpiMaster.weight
  let totalWeight := weights.sum
  let weightedSum := (kpiScores.mapIdx fun i k => k.normalizedScore * (weights[i]?.getD 0)).sum
  let score := if 0 < totalWeight then weightedSum / totalWeight else 0
  { periodYear := period.1, periodMonth := period.2, unitId, score := toFixed2 score
    band := if periodRows.length = 0 then "unclassified" else classifyScore score thresholds
    hasData := periodRows.length ≠ 0, kpiScores }

/-- One end of the range of a series. -/
def checkedEnd (year month : Option Int) (yearName monthName : String) : Except HttpException (Int × Int) := do
  match year.filter fun year => 2000 ≤ year ∧ year ≤ 2100 with
  | none => .error (.badRequest (yearName ++ " invalid."))
  | some year =>
    match month.filter fun month => 1 ≤ month ∧ month ≤ 12 with
    | none => .error (.badRequest (monthName ++ " invalid."))
    | some month => pure (year, month)

/-- `(period_year > :fy OR (period_year = :fy AND period_month >= :fm))`, and up to the other end. -/
def inRange (first last : Int × Int) (row : KpiMonitoring) : Bool :=
  (first.1 < row.periodYear || (row.periodYear = first.1 && first.2 ≤ row.periodMonth)) &&
    (row.periodYear < last.1 || (row.periodYear = last.1 && row.periodMonth ≤ last.2))

def dashboardUnitTimeseries (thresholds : List KpiThreshold) (user : AuthUser) (unitId : Int)
    (fromYear fromMonth toYear toMonth : Option Int) : Except HttpException (List PeriodScore) := do
  check (0 < unitId) (.badRequest "Invalid unit ID.")
  let first ← checkedEnd fromYear fromMonth "fromYear" "fromMonth"
  let last ← checkedEnd toYear toMonth "toYear" "toMonth"
  assertUnitAccess user unitId
  let rows := t.kpiMonitoring.filter fun row => row.unitId = unitId && inRange first last row
  pure ((periodsFrom last.1 last.2 61 first.1 first.2).map (periodScore t thresholds unitId rows))

end

end ComplianceHub.Kpi
