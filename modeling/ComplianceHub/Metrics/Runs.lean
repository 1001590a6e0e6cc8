import ComplianceHub.Documents.Types
import ComplianceHub.Lib.OrderedMap
import Mathlib.Data.List.Sort

/-!
# Metric runs

* `MetricTemplate`, `MetricApplicability`, `MetricResult`, `Review` : the rows; `MetricsDb` : the tables;
* `getApplicableMetrics` : the templates that apply to a document;
* `computeMetrics`, `computeMetricsAndAutoReview` : a run on a version, with the outcomes of its checks;
* `getMetricResults`, `calculateAggregateScore` : the results that are read back, and their score.

Numbers are exact rationals, `computed_at` and `reviewed_at` count the rows in the order they are stored.
-/

namespace ComplianceHub.Metrics

open ComplianceHub.Documents (Document DocumentVersion ManualReview)

/-! ## Rows -/

inductive MetricType where
  | section_check
  | keyword_check
  | property_check
  | date_check
deriving DecidableEq, Repr

inductive MetricStatus where
  | pass
  | fail
  | warning
  | error
deriving DecidableEq, Repr

structure MetricTemplate where
  id : Nat
  name : String
  description : Option String := none
  metric_type : MetricType
  weight : Int := 1
  is_active : Bool := true
deriving DecidableEq, Repr

/-- A key that is none does not restrict the metric. -/
structure MetricApplicability where
  metric_id : Nat
  unit_id : Option Nat := none
  document_type : Option String := none
  reportorial_doc_type_id : Option Nat := none
deriving DecidableEq, Repr

/-- One comparison of a property check, with its values as texts. -/
structure ComparedProperty where
  keyword : String
  extracted : Option String
  comparison : Option String
  expected : String
  isMatch : Bool
deriving DecidableEq, Repr

structure MetricResult where
  id : Nat
  version_id : Nat
  metric_template_id : Nat
  execution_id : Option Nat
  template_snapshot : Option MetricTemplate
  status : MetricStatus
  evidence : List ComparedProperty
  message : Option String
  score : Option Rat
  computed_at : Nat
deriving DecidableEq, Repr

/-- A result with its template, if that has been loaded. -/
structure LoadedResult extends MetricResult where
  metric_template : Option MetricTemplate
deriving DecidableEq, Repr

structure Finding where
  category : String
  description : String
  severity : String := "medium"
deriving DecidableEq, Repr

structure Review extends ManualReview where
  findings : List Finding
deriving DecidableEq, Repr

structure MetricsDb where
  documents : List Document := []
  versions : List DocumentVersion := []
  templates : List MetricTemplate := []
  applicabilities : List MetricApplicability := []
  results : List MetricResult := []
  reviews : List Review := []
  /-- Every identifier given so far is below it. -/
  nextId : Nat := 0
  /-- Every row stored so far is from before. -/
  clock : Nat := 0
deriving DecidableEq, Repr

/-- What a check finds. -/
structure CheckResult where
  status : MetricStatus
  evidence : List ComparedProperty := []
  message : Option String := none
  score : Option Rat := none
deriving DecidableEq, Repr

/-- The outcomes of the checks of a run: a result, or the message of an error. -/
abbrev Checks := MetricTemplate → Except String CheckResult

/-! ## Templates -/

def MetricsDb.template? (db : MetricsDb) (id : Nat) : Option MetricTemplate :=
  db.templates.find? fun row => decide (row.id = id)

section
variable (collates : String → String → Bool) (db : MetricsDb)

/-- A metric applies to a document: by unit and type, or by its report type. -/
def MetricApplicability.applies (app : MetricApplicability) (unitId : Nat) (documentType : String)
    (reportorialDocTypeId : Option Nat) : Bool :=
  app.reportorial_doc_type_id.isNone && app.unit_id.all (· = unitId) && app.document_type.all (collates · documentType) ||
    (reportorialDocTypeId.filter (· ≠ 0)).any fun id => app.reportorial_doc_type_id = some id

/-- Each template once, where it comes first. -/
def uniqueTemplates (templates : List MetricTemplate) : List MetricTemplate :=
  (templates.foldl (fun map template => map.set template.id template)
    (Lib.OrderedMap.empty : Lib.OrderedMap Nat MetricTemplate)).entries.map Prod.snd

def getApplicableMetrics (unitId : Nat) (documentType : String) (reportorialDocTypeId : Option Nat) : List MetricTemplate :=
  let applicabilities := db.applicabilities.filter fun app => app.applies collates unitId documentType reportorialDocTypeId
  let templates := (applicabilities.filterMap fun app => db.template? app.metric_id).filter MetricTemplate.is_active
  uniqueTemplates templates

/-! ## Runs -/

def orNotFound {α : Type} (row : Option α) (message : String) : Except HttpException α :=
  match row with
  | some row => .ok row
  | none => .error (.notFound message)

/-- A version with its document. -/
def MetricsDb.versionWithDocument (db : MetricsDb) (versionId : Nat) : Option (DocumentVersion × Document) := do
  let version ← db.versions.find? fun row => decide (row.id = versionId)
  let document ← db.documents.find? fun row => decide (row.id = version.document_id)
  pure (version, document)

/-- The row of a check: an error is a result too. -/
def newResult (versionId executionId : Nat) (metric : MetricTemplate) (outcome : Except String CheckResult)
    (id computed_at : Nat) : MetricResult :=
  match outcome with
  | .ok result =>
    { id, version_id := versionId, metric_template_id := metric.id, execution_id := some executionId
      template_snapshot := some metric, status := result.status, evidence := result.evidence, message := result.message
      score := result.score, computed_at }
  | .error message =>
    { id, version_id := versionId, metric_template_id := metric.id, execution_id := some executionId
      template_snapshot := some metric, status := .error, evidence := []
      message := some ("Error computing metric: " ++ message), score := some 0, computed_at }

/-- The results of a run are the saved entities, without their templates. -/
def computeMetric (checks : Checks) (versionId executionId : Nat) (run : MetricsDb × List LoadedResult)
    (metric : MetricTemplate) : MetricsDb × List LoadedResult :=
  let row := newResult versionId executionId metric (checks metric) run.1.nextId run.1.clock
  ({ run.1 with results := run.1.results ++ [row], nextId := run.1.nextId + 1, clock := run.1.clock + 1 },
    run.2 ++ [{ row with metric_template := none }])

/-- The templates of a run on a version. -/
def metricsOf (document : Document) : List MetricTemplate :=
  getApplicableMetrics collates db document.unit_id document.document_type document.reportorial_doc_type_id

def computeMetrics (checks : Checks) (versionId : Nat) : Except HttpException (MetricsDb × List LoadedResult) := do
  let (_, document) ← orNotFound (db.versionWithDocument versionId) "Version not found"
  let executionId := db.nextId
  pure ((metricsOf collates db document).foldl (computeMetric checks versionId executionId)
    ({ db with nextId := db.nextId + 1 }, []))

/-! ## Scores -/

structure Aggregate where
  total_score : Rat := 0
  passed : Nat := 0
  failed : Nat := 0
  warnings : Nat := 0
  errors : Nat := 0
deriving DecidableEq, Repr

/-- What is added up over the results. -/
structure Totals where
  totalWeightedScore : Rat := 0
  totalWeight : Rat := 0
  passed : Nat := 0
  failed : Nat := 0
  warnings : Nat := 0
  errors : Nat := 0
deriving DecidableEq, Repr

/-- `result.metric_template?.weight || 1` -/
def LoadedResult.weight (result : LoadedResult) : Rat :=
  match result.metric_template with
  | some template => if template.weight = 0 then 1 else template.weight
  | none => 1

def Totals.add (totals : Totals) (result : LoadedResult) : Totals :=
  let totals := { totals with
    totalWeightedScore := totals.totalWeightedScore + result.score.getD 0 * result.weight
    totalWeight := totals.totalWeight + result.weight }
  match result.status with
  | .pass => { totals with passed := totals.passed + 1 }
  | .fail => { totals with failed := totals.failed + 1 }
  | .warning => { totals with warnings := totals.warnings + 1 }
  | .error => { totals with errors := totals.errors + 1 }

def calculateAggregateScore (results : List LoadedResult) : Aggregate :=
  if results.length = 0 then {}
  else
    let totals := results.foldl Totals.add {}
    let total_score := if 0 < totals.totalWeight then totals.totalWeightedScore / totals.totalWeight else 0
    { total_score := jsRound (total_score * 100) / 100, passed := totals.passed, failed := totals.failed
      warnings := totals.warnings, errors := totals.errors }

/-- `order: { computed_at: 'DESC' }` -/
def byComputedAt (rows : List MetricResult) : List MetricResult :=
  rows.insertionSort fun a b => b.computed_at ≤ a.computed_at

/-- The results of the latest run on a version, each with its template. -/
def getMetricResults (versionId : Nat) : List LoadedResult :=
  let stored := db.results.filter fun row => decide (row.version_id = versionId)
  match (byComputedAt stored).head? with
  | none => []
  | some latest =>
    (byComputedAt (stored.filter fun row => latest.execution_id.all fun id => row.execution_id = some id)).map fun row =>
      { row with metric_template := db.template? row.metric_template_id }

/-! ## Automatic reviews -/

def toOperatorSymbol (operator : Option String) : String :=
  match operator with
  | some "gte" => ">="
  | some "lte" => "<="
  | some "gt" => ">"
  | some "lt" => "<"
  | some "eq" => "="
  | operator => (operator.filter (· ≠ "")).getD "="

/-- `result.message || 'Automated validation failed.'` -/
def LoadedResult.text (result : LoadedResult) : String :=
  (result.message.filter (· ≠ "")).getD "Automated validation failed."

def comparedLine (compared : ComparedProperty) : String :=
  compared.keyword ++ ": " ++ compared.extracted.getD "" ++ " did not satisfy " ++ toOperatorSymbol compared.comparison ++
    " " ++ compared.expected

def buildAutoReviewLine (result : LoadedResult) : String :=
  if result.metric_template.all fun template => template.metric_type ≠ .property_check then result.text
  else
    let failedChecks := result.evidence.filter fun compared => !compared.isMatch && compared.extracted.isSome
    if failedChecks.length = 0 then result.text else "; ".intercalate (failedChecks.map comparedLine)

def LoadedResult.isFailed (result : LoadedResult) : Bool := result.status = .fail || result.status = .error

/-- `result.metric_template?.name || 'Automated Check'` -/
def findingOf (result : LoadedResult) : Finding where
  category := ((result.metric_template.map MetricTemplate.name).filter (· ≠ "")).getD "Automated Check"
  description := result.text

def autoRemarks (failedResults : List LoadedResult) : String :=
  "Automated checks flagged this submission for revision:\n" ++
    "\n".intercalate (failedResults.map fun result => "• " ++ buildAutoReviewLine result)

def isAutoReview (document_id versionId : Nat) (review : Review) : Bool :=
  review.document_id = document_id && review.version_id = versionId && review.reviewer_id.isNone

/-- An automatic review that is made again, at its old time. -/
def flagAgain (failedResults : List LoadedResult) (review : Review) : Review :=
  { review with
    decision := .needs_revision, remarks := some (autoRemarks failedResults), findings := failedResults.map findingOf }

def newAutoReview (document_id versionId : Nat) (failedResults : List LoadedResult) (id : Nat) (reviewed_at : Int) : Review where
  id := id
  document_id := document_id
  version_id := versionId
  decision := .needs_revision
  remarks := some (autoRemarks failedResults)
  reviewer_id := none
  reviewed_at := reviewed_at
  findings := failedResults.map findingOf

/-- What a run with failures writes. -/
def autoReview (versionId : Nat) (failedResults : List LoadedResult) : MetricsDb :=
  match db.versionWithDocument versionId with
  | none => db
  | some (_, document) =>
    match db.reviews.find? (isAutoReview document.id versionId) with
    | some existing =>
      { db with reviews := db.reviews.map fun row => if row.id = existing.id then flagAgain failedResults existing else row }
    | none =>
      { db with
        reviews := db.reviews ++ [newAutoReview document.id versionId failedResults db.nextId db.clock]
        nextId := db.nextId + 1
        clock := db.clock + 1 }

/-- The results of a run, and its score. -/
structure MetricRun where
  results : List LoadedResult
  aggregate : Aggregate
deriving DecidableEq, Repr

def computeMetricsAndAutoReview (checks : Checks) (versionId : Nat) : Except HttpException (MetricsDb × MetricRun) := do
  let (db, results) ← computeMetrics collates db checks versionId
  let aggregate := calculateAggregateScore results
  let db := if 0 < aggregate.failed ∨ 0 < aggregate.errors then
      autoReview db versionId (results.filter LoadedResult.isFailed)
    else db
  pure (db, { results, aggregate })

end

end ComplianceHub.Metrics
