import ComplianceHub.Metrics.Runs
import Mathlib.Algebra.BigOperators.Group.List.Basic
import Mathlib.Tactic.Linarith

/-!
# The score of a run and the score that is read back

* `weightedScore`, `calculateAggregateScore_eq` : an aggregate is a rounded mean and four counts, in any order of the
  results;
* `runRows`, `computeMetrics_eq_ok` : the rows that a run stores;
* `getMetricResults_run` : they are read back, each with its template;
* `aggregate_read_back_iff` : the score of a run is read back exactly where the weights do not change the mean.
-/

namespace ComplianceHub.Metrics

open ComplianceHub.Documents (Document DocumentVersion)

/-! ## Aggregates -/

section
variable {results results' : List LoadedResult}

theorem totals_foldl (results : List LoadedResult) (totals : Totals) :
    results.foldl Totals.add totals =
      { totalWeightedScore := totals.totalWeightedScore + (results.map fun r => r.score.getD 0 * r.weight).sum
        totalWeight := totals.totalWeight + (results.map LoadedResult.weight).sum
        passed := totals.passed + results.countP (·.status = .pass)
        failed := totals.failed + results.countP (·.status = .fail)
        warnings := totals.warnings + results.countP (·.status = .warning)
        errors := totals.errors + results.countP (·.status = .error) } := by
  induction results generalizing totals with
  | nil => simp
  | cons result rest ih =>
    rw [List.foldl_cons, ih]
    unfold Totals.add
    cases hstatus : result.status with
    | _ =>
      simp only [List.map_cons, List.sum_cons, List.countP_cons, hstatus, add_assoc]
      simp [add_comm]

/-- The mean of scores with weights, before it is rounded. -/
def weightedScore (scores : List (Rat × Rat)) : Rat :=
  if 0 < (scores.map Prod.snd).sum then (scores.map fun p => p.1 * p.2).sum / (scores.map Prod.snd).sum else 0

def LoadedResult.scored (result : LoadedResult) : Rat × Rat := (result.score.getD 0, result.weight)

theorem calculateAggregateScore_eq (results : List LoadedResult) :
    calculateAggregateScore results =
      { total_score := jsRound (weightedScore (results.map LoadedResult.scored) * 100) / 100
        passed := results.countP (·.status = .pass)
        failed := results.countP (·.status = .fail)
        warnings := results.countP (·.status = .warning)
        errors := results.countP (·.status = .error) } := by
  unfold calculateAggregateScore
  split_ifs with hnil
  · rw [List.length_eq_zero_iff] at hnil
    subst hnil
    decide +kernel
  · rw [totals_foldl]
    simp only [weightedScore, List.map_map, zero_add]
    rfl

/-- An aggregate does not depend on the order of the results. -/
theorem calculateAggregateScore_perm (h : results.Perm results') :
    calculateAggregateScore results = calculateAggregateScore results' := by
  have hweights : ((results.map LoadedResult.scored).map Prod.snd).sum = ((results'.map LoadedResult.scored).map Prod.snd).sum :=
    ((h.map _).map _).sum_eq
  have hproducts : ((results.map LoadedResult.scored).map fun p => p.1 * p.2).sum =
      ((results'.map LoadedResult.scored).map fun p => p.1 * p.2).sum := ((h.map _).map _).sum_eq
  rw [calculateAggregateScore_eq, calculateAggregateScore_eq, weightedScore, hweights, hproducts, h.countP_eq, h.countP_eq,
    h.countP_eq, h.countP_eq]
  rfl

end

/-! ## The rows of a run -/

section
variable (checks : Checks) (versionId executionId : Nat)

/-- The rows that a run stores for some templates. -/
def runRows : Nat → Nat → List MetricTemplate → List MetricResult
  | _, _, [] => []
  | id, clock, metric :: rest =>
    newResult versionId executionId metric (checks metric) id clock :: runRows (id + 1) (clock + 1) rest

/-- A result without its template. -/
def unloaded (row : MetricResult) : LoadedResult := { row with metric_template := none }

/-- A result with its template. -/
def loaded (db : MetricsDb) (row : MetricResult) : LoadedResult :=
  { row with metric_template := db.template? row.metric_template_id }

theorem foldl_computeMetric (metrics : List MetricTemplate) (db : MetricsDb) (results : List LoadedResult) :
    metrics.foldl (computeMetric checks versionId executionId) (db, results) =
      ({ db with
        results := db.results ++ runRows checks versionId executionId db.nextId db.clock metrics
        nextId := db.nextId + metrics.length
        clock := db.clock + metrics.length },
        results ++ (runRows checks versionId executionId db.nextId db.clock metrics).map unloaded) := by
  induction metrics generalizing db results with
  | nil => simp [runRows]
  | cons metric rest ih =>
    rw [List.foldl_cons, computeMetric, ih]
    simp only [runRows, List.map_cons, List.append_assoc, List.singleton_append, List.length_cons, unloaded]
    rw [Nat.add_right_comm, Nat.add_right_comm db.clock]
    rfl

variable {checks versionId executionId}

theorem mem_runRows {metrics : List MetricTemplate} {id clock : Nat} {row : MetricResult}
    (h : row ∈ runRows checks versionId executionId id clock metrics) :
    row.version_id = versionId ∧ row.execution_id = some executionId ∧ clock ≤ row.computed_at ∧
      row.computed_at < clock + metrics.length := by
  induction metrics generalizing id clock with
  | nil => cases h
  | cons metric rest ih =>
    rw [List.length_cons]
    rcases List.mem_cons.mp h with rfl | h
    · unfold newResult
      split
      · exact ⟨rfl, rfl, le_refl _, by show clock < _; omega⟩
      · exact ⟨rfl, rfl, le_refl _, by show clock < _; omega⟩
    · obtain ⟨hversion, hexecution, hle, hlt⟩ := ih h
      exact ⟨hversion, hexecution, by omega, by omega⟩

/-- The score of an outcome. -/
def outcomeScore (outcome : Except String CheckResult) : Rat :=
  match outcome with
  | .ok result => result.score.getD 0
  | .error _ => 0

def outcomeStatus (outcome : Except String CheckResult) : MetricStatus :=
  match outcome with
  | .ok result => result.status
  | .error _ => .error

theorem newResult_outcome (metric : MetricTemplate) (id clock : Nat) :
    (newResult versionId executionId metric (checks metric) id clock).metric_template_id = metric.id ∧
      (newResult versionId executionId metric (checks metric) id clock).score.getD 0 = outcomeScore (checks metric) ∧
        (newResult versionId executionId metric (checks metric) id clock).status = outcomeStatus (checks metric) := by
  unfold newResult outcomeScore outcomeStatus
  cases checks metric with
  | ok result => exact ⟨rfl, rfl, rfl⟩
  | error message => exact ⟨rfl, rfl, rfl⟩

/-- The outcomes of a run, in the order of its templates. -/
theorem map_runRows {α : Type} (f : MetricResult → α) (g : MetricTemplate → α) {metrics : List MetricTemplate} (id clock : Nat)
    (h : ∀ metric ∈ metrics, ∀ id clock, f (newResult versionId executionId metric (checks metric) id clock) = g metric) :
    (runRows checks versionId executionId id clock metrics).map f = metrics.map g := by
  induction metrics generalizing id clock with
  | nil => rfl
  | cons metric rest ih =>
    rw [runRows, List.map_cons, List.map_cons, h metric List.mem_cons_self,
      ih _ _ fun metric hmetric => h metric (List.mem_cons_of_mem _ hmetric)]

end

/-! ## The rows that are read back -/

/-- Stored results are from before, and so are their executions. -/
structure Sane (db : MetricsDb) : Prop where
  earlier : ∀ row ∈ db.results, row.computed_at < db.clock
  executions : ∀ row ∈ db.results, ∀ id ∈ row.execution_id, id < db.nextId

section
variable {collates : String → String → Bool} {db db' : MetricsDb} {checks : Checks} {versionId : Nat}
  {version : DocumentVersion} {document : Document}

theorem head_byComputedAt {rows : List MetricResult} {latest : MetricResult} (h : (byComputedAt rows).head? = some latest) :
    latest ∈ rows ∧ ∀ row ∈ rows, row.computed_at ≤ latest.computed_at := by
  have htotal : Std.Total fun a b : MetricResult => b.computed_at ≤ a.computed_at := ⟨fun a b => by omega⟩
  have htrans : IsTrans MetricResult fun a b => b.computed_at ≤ a.computed_at := ⟨fun a b c => by omega⟩
  have hsorted := List.pairwise_insertionSort (fun a b : MetricResult => b.computed_at ≤ a.computed_at) rows
  unfold byComputedAt at h
  have hmem : ∀ row, row ∈ rows.insertionSort (fun a b => b.computed_at ≤ a.computed_at) ↔ row ∈ rows :=
    fun row => List.mem_insertionSort _
  generalize rows.insertionSort (fun a b => b.computed_at ≤ a.computed_at) = sorted at h hsorted hmem
  cases sorted with
  | nil => cases h
  | cons first rest =>
    cases h
    refine ⟨(hmem latest).mp List.mem_cons_self, fun row hrow => ?_⟩
    rcases List.mem_cons.mp ((hmem row).mpr hrow) with rfl | hrow
    · exact le_refl _
    · exact (List.pairwise_cons.mp hsorted).1 row hrow

theorem mem_uniqueTemplates {templates : List MetricTemplate} {template : MetricTemplate}
    (h : template ∈ uniqueTemplates templates) : template ∈ templates := by
  have hentries : ∀ (rest : List MetricTemplate) (map : Lib.OrderedMap Nat MetricTemplate),
      ∀ entry ∈ (rest.foldl (fun map template => map.set template.id template) map).entries,
        entry ∈ map.entries ∨ entry.2 ∈ rest := by
    intro rest
    induction rest with
    | nil => exact fun map entry hentry => .inl hentry
    | cons first rest ih =>
      intro map entry hentry
      rcases ih (map.set first.id first) entry hentry with hset | hrest
      · rcases (Lib.mem_assign map.nodup).mp hset with rfl | ⟨hold, -⟩
        · exact .inr List.mem_cons_self
        · exact .inl hold
      · exact .inr (List.mem_cons_of_mem _ hrest)
  obtain ⟨entry, hentry, rfl⟩ := List.mem_map.mp h
  rcases hentries templates Lib.OrderedMap.empty entry hentry with hnone | hmem
  · cases hnone
  · exact hmem

/-- A template that applies is the one of its identifier. -/
theorem template?_of_mem {metric : MetricTemplate} (h : metric ∈ metricsOf collates db document) :
    db.template? metric.id = some metric := by
  obtain ⟨app, -, hfound⟩ := List.mem_filterMap.mp (List.mem_filter.mp (mem_uniqueTemplates h)).1
  have hid : metric.id = app.metric_id := of_decide_eq_true (List.find?_some hfound :)
  rw [hid]
  exact hfound

/-- The results of a run that has stored some are read back, in another order. -/
theorem getMetricResults_run (hsane : Sane db) {rows : List MetricResult} (hne : rows ≠ [])
    (hrows : ∀ row ∈ rows, row.version_id = versionId ∧ row.execution_id = some db.nextId ∧ db.clock ≤ row.computed_at)
    (hresults : db'.results = db.results ++ rows) : (getMetricResults db' versionId).Perm (rows.map (loaded db')) := by
  have hstored : db'.results.filter (fun row => decide (row.version_id = versionId)) =
      db.results.filter (fun row => decide (row.version_id = versionId)) ++ rows := by
    rw [hresults, List.filter_append]
    congr 1
    exact List.filter_eq_self.mpr fun row hrow => decide_eq_true (hrows row hrow).1
  unfold getMetricResults
  rw [hstored]
  obtain ⟨first, hfirst⟩ := List.exists_mem_of_ne_nil rows hne
  cases hlatest : (byComputedAt (db.results.filter (fun row => decide (row.version_id = versionId)) ++ rows)).head? with
  | none =>
    rw [List.head?_eq_none_iff] at hlatest
    have hmem : first ∈ byComputedAt (db.results.filter (fun row => decide (row.version_id = versionId)) ++ rows) :=
      (List.mem_insertionSort _).mpr (List.mem_append_right _ hfirst)
    rw [hlatest] at hmem
    cases hmem
  | some latest =>
    obtain ⟨hmem, hmax⟩ := head_byComputedAt hlatest
    have hnew : latest ∈ rows := by
      rcases List.mem_append.mp hmem with hold | hnew
      · have hbefore := hsane.earlier latest (List.mem_filter.mp hold).1
        have hafter := hmax first (List.mem_append_right _ hfirst)
        have hclock := (hrows first hfirst).2.2
        omega
      · exact hnew
    have hexecution : (db.results.filter (fun row => decide (row.version_id = versionId)) ++ rows).filter
        (fun row => latest.execution_id.all fun id => row.execution_id = some id) = rows := by
      rw [(hrows latest hnew).2.1, List.filter_append, List.filter_eq_nil_iff.mpr, List.nil_append]
      · exact List.filter_eq_self.mpr fun row hrow => decide_eq_true (hrows row hrow).2.1
      · intro row hrow hsame
        have hfresh := hsane.executions row (List.mem_filter.mp hrow).1 _ (of_decide_eq_true hsame)
        exact lt_irrefl _ hfresh
    dsimp only
    rw [hlatest]
    dsimp only
    rw [hexecution]
    exact (List.perm_insertionSort _ rows).map _

theorem getMetricResults_nil (h : ∀ row ∈ db.results, row.version_id ≠ versionId) : getMetricResults db versionId = [] := by
  unfold getMetricResults
  rw [List.filter_eq_nil_iff.mpr fun row hrow hversion => h row hrow (of_decide_eq_true hversion)]
  rfl

theorem getMetricResults_ne_nil (h : ¬ ∀ row ∈ db.results, row.version_id ≠ versionId) :
    getMetricResults db versionId ≠ [] := by
  push Not at h
  obtain ⟨row, hrow, hversion⟩ := h
  have hmem : row ∈ db.results.filter fun row => decide (row.version_id = versionId) :=
    List.mem_filter.mpr ⟨hrow, decide_eq_true hversion⟩
  unfold getMetricResults
  generalize db.results.filter (fun row => decide (row.version_id = versionId)) = stored at hmem
  cases hlatest : (byComputedAt stored).head? with
  | none =>
    rw [List.head?_eq_none_iff] at hlatest
    have hsorted : row ∈ byComputedAt stored := (List.mem_insertionSort _).mpr hmem
    rw [hlatest] at hsorted
    cases hsorted
  | some latest =>
    -- the latest result is one of its own execution
    have hown : latest ∈ byComputedAt (stored.filter fun row => latest.execution_id.all fun id => row.execution_id = some id) := by
      refine (List.mem_insertionSort _).mpr (List.mem_filter.mpr ⟨(head_byComputedAt hlatest).1, ?_⟩)
      cases latest.execution_id with
      | none => rfl
      | some id => exact decide_eq_true rfl
    dsimp only
    rw [hlatest]
    exact List.ne_nil_of_mem (List.mem_map_of_mem hown)

/-! ## The score that is read back -/

/-- The scores of the checks of some templates, with their weights. -/
def weighed (checks : Checks) (metrics : List MetricTemplate) : List (Rat × Rat) :=
  metrics.map fun metric => (outcomeScore (checks metric), (metric.weight : Rat))

/-- The same scores, all with the weight one. -/
def unweighed (checks : Checks) (metrics : List MetricTemplate) : List (Rat × Rat) :=
  metrics.map fun metric => (outcomeScore (checks metric), 1)

/-- The weights do not change the mean of a run, and a run without templates is the first on its version. -/
def ReadsBack (db : MetricsDb) (checks : Checks) (versionId : Nat) (metrics : List MetricTemplate) : Prop :=
  if metrics = [] then ∀ row ∈ db.results, row.version_id ≠ versionId
  else jsRound (weightedScore (unweighed checks metrics) * 100) = jsRound (weightedScore (weighed checks metrics) * 100)

instance (db : MetricsDb) (checks : Checks) (versionId : Nat) (metrics : List MetricTemplate) :
    Decidable (ReadsBack db checks versionId metrics) := by
  unfold ReadsBack
  infer_instance

/-- What a run has stored and reports. -/
theorem computeMetricsAndAutoReview_eq_ok {run : MetricRun}
    (hversion : db.versionWithDocument versionId = some (version, document))
    (h : computeMetricsAndAutoReview collates db checks versionId = .ok (db', run)) :
    db'.results = db.results ++
        runRows checks versionId db.nextId (db.nextId + 1) db.clock (metricsOf collates db document) ∧
      db'.templates = db.templates ∧
      run.results = (runRows checks versionId db.nextId (db.nextId + 1) db.clock (metricsOf collates db document)).map unloaded ∧
      run.aggregate = calculateAggregateScore run.results ∧
      db.clock + (metricsOf collates db document).length ≤ db'.clock ∧ db.nextId < db'.nextId := by
  obtain ⟨⟨ran, results⟩, hcompute, h⟩ := bind_eq_ok.mp h
  cases h
  unfold computeMetrics at hcompute
  rw [hversion] at hcompute
  obtain ⟨_, hfound, hcompute⟩ := bind_eq_ok.mp hcompute
  cases hfound
  dsimp only at hcompute
  rw [foldl_computeMetric, List.nil_append] at hcompute
  cases hcompute
  have hkept : ∀ (db : MetricsDb) failed, (autoReview db versionId failed).results = db.results ∧
      (autoReview db versionId failed).templates = db.templates ∧
        db.clock ≤ (autoReview db versionId failed).clock ∧ db.nextId ≤ (autoReview db versionId failed).nextId := by
    intro db failed
    unfold autoReview
    split
    · exact ⟨rfl, rfl, le_refl _, le_refl _⟩
    · split
      · exact ⟨rfl, rfl, le_refl _, le_refl _⟩
      · exact ⟨rfl, rfl, Nat.le_succ _, Nat.le_succ _⟩
  dsimp only
  split_ifs
  · obtain ⟨hresults, htemplates, hclock, hnext⟩ := hkept { db with
      results := db.results ++ runRows checks versionId db.nextId (db.nextId + 1) db.clock (metricsOf collates db document)
      nextId := db.nextId + 1 + (metricsOf collates db document).length
      clock := db.clock + (metricsOf collates db document).length } _
    rw [hresults, htemplates]
    refine ⟨rfl, rfl, rfl, rfl, hclock, lt_of_lt_of_le ?_ hnext⟩
    show db.nextId < db.nextId + 1 + (metricsOf collates db document).length
    omega
  · refine ⟨rfl, rfl, rfl, rfl, le_refl _, ?_⟩
    show db.nextId < db.nextId + 1 + (metricsOf collates db document).length
    omega

theorem counts_eq_length (results : List LoadedResult) :
    results.countP (·.status = .pass) + results.countP (·.status = .fail) + results.countP (·.status = .warning) +
      results.countP (·.status = .error) = results.length := by
  induction results with
  | nil => rfl
  | cons result rest ih =>
    simp only [List.countP_cons, List.length_cons]
    cases hstatus : result.status with
    | _ =>
      simp
      omega

theorem aggregate_eq_zero_iff {results : List LoadedResult} : calculateAggregateScore results = {} ↔ results = [] := by
  constructor
  · intro h
    rw [calculateAggregateScore_eq, Aggregate.mk.injEq] at h
    have hcounts := counts_eq_length results
    rw [h.2.1, h.2.2.1, h.2.2.2.1, h.2.2.2.2] at hcounts
    exact List.length_eq_zero_iff.mp hcounts.symm
  · rintro rfl
    rfl

theorem countP_runRows (load : MetricResult → LoadedResult) (hload : ∀ row, (load row).status = row.status)
    (executionId id clock : Nat) (metrics : List MetricTemplate) (status : MetricStatus) :
    ((runRows checks versionId executionId id clock metrics).map load).countP (·.status = status) =
      metrics.countP fun metric => outcomeStatus (checks metric) = status := by
  have hstatuses : (runRows checks versionId executionId id clock metrics).map (fun row => (load row).status) =
      metrics.map fun metric => outcomeStatus (checks metric) := by
    refine map_runRows _ _ _ _ fun metric _ id clock => ?_
    rw [hload, (newResult_outcome metric id clock).2.2]
  rw [List.countP_map]
  have hcount := congrArg (List.countP (· = status)) hstatuses
  rw [List.countP_map, List.countP_map] at hcount
  exact hcount

/-- The score of a run, over its outcomes. -/
theorem calculateAggregateScore_runRows (load : MetricResult → LoadedResult) (hload : ∀ row, (load row).status = row.status)
    (executionId id clock : Nat) (metrics : List MetricTemplate) (scores : List (Rat × Rat))
    (hscores : ((runRows checks versionId executionId id clock metrics).map load).map LoadedResult.scored = scores) :
    calculateAggregateScore ((runRows checks versionId executionId id clock metrics).map load) =
      { total_score := jsRound (weightedScore scores * 100) / 100
        passed := metrics.countP fun metric => outcomeStatus (checks metric) = .pass
        failed := metrics.countP fun metric => outcomeStatus (checks metric) = .fail
        warnings := metrics.countP fun metric => outcomeStatus (checks metric) = .warning
        errors := metrics.countP fun metric => outcomeStatus (checks metric) = .error } := by
  rw [calculateAggregateScore_eq, hscores]
  simp only [countP_runRows load hload]

end

section
variable {collates : String → String → Bool} {db db' : MetricsDb} {checks : Checks} {versionId : Nat}
  {version : DocumentVersion} {document : Document}

/-- **The score of a run is read back** exactly where the weights of its templates do not change the mean, and where a run
without templates finds no results of an earlier one. -/
theorem aggregate_read_back_iff {run : MetricRun} (hsane : Sane db)
    (hversion : db.versionWithDocument versionId = some (version, document))
    (hweights : ∀ metric ∈ metricsOf collates db document, 0 < metric.weight)
    (h : computeMetricsAndAutoReview collates db checks versionId = .ok (db', run)) :
    run.aggregate = calculateAggregateScore (getMetricResults db' versionId) ↔
      ReadsBack db checks versionId (metricsOf collates db document) := by
  obtain ⟨hresults, htemplates, hrun, haggregate, -⟩ := computeMetricsAndAutoReview_eq_ok hversion h
  have htemplate : ∀ metric ∈ metricsOf collates db document, db'.template? metric.id = some metric := by
    intro metric hmetric
    rw [MetricsDb.template?, htemplates]
    exact template?_of_mem hmetric
  rw [haggregate, hrun]
  unfold ReadsBack
  generalize metricsOf collates db document = metrics at hweights hresults htemplate
  split_ifs with hnone
  · subst hnone
    rw [runRows, List.append_nil] at hresults
    have hread : getMetricResults db' versionId = [] ↔ ∀ row ∈ db.results, row.version_id ≠ versionId := by
      rw [← hresults]
      refine ⟨fun hnil => ?_, getMetricResults_nil⟩
      by_contra hstored
      exact getMetricResults_ne_nil hstored hnil
    rw [← hread, ← aggregate_eq_zero_iff, eq_comm]
    rfl
  · have hne : runRows checks versionId db.nextId (db.nextId + 1) db.clock metrics ≠ [] := by
      cases metrics with
      | nil => exact absurd rfl hnone
      | cons metric rest => exact List.cons_ne_nil _ _
    have hrows : ∀ row ∈ runRows checks versionId db.nextId (db.nextId + 1) db.clock metrics,
        row.version_id = versionId ∧ row.execution_id = some db.nextId ∧ db.clock ≤ row.computed_at := by
      intro row hrow
      obtain ⟨hof, hexecution, hle, -⟩ := mem_runRows hrow
      exact ⟨hof, hexecution, hle⟩
    rw [calculateAggregateScore_perm (getMetricResults_run hsane hne hrows hresults)]
    have hunweighed : ((runRows checks versionId db.nextId (db.nextId + 1) db.clock metrics).map unloaded).map
        LoadedResult.scored = unweighed checks metrics := by
      rw [List.map_map]
      refine map_runRows _ _ _ _ fun metric _ id clock => ?_
      show ((newResult versionId db.nextId metric (checks metric) id clock).score.getD 0, (1 : Rat)) = _
      rw [(newResult_outcome metric id clock).2.1]
    have hweighed : ((runRows checks versionId db.nextId (db.nextId + 1) db.clock metrics).map (loaded db')).map
        LoadedResult.scored = weighed checks metrics := by
      rw [List.map_map]
      refine map_runRows _ _ _ _ fun metric hmetric id clock => ?_
      have hloaded : (loaded db' (newResult versionId db.nextId metric (checks metric) id clock)).metric_template =
          some metric := by
        rw [loaded, (newResult_outcome metric id clock).1]
        exact htemplate metric hmetric
      show ((newResult versionId db.nextId metric (checks metric) id clock).score.getD 0,
        (loaded db' (newResult versionId db.nextId metric (checks metric) id clock)).weight) = _
      rw [LoadedResult.weight, hloaded, (newResult_outcome metric id clock).2.1]
      dsimp only
      rw [if_neg (hweights metric hmetric).ne']
    rw [calculateAggregateScore_runRows unloaded (fun _ => rfl) _ _ _ _ _ hunweighed,
      calculateAggregateScore_runRows (loaded db') (fun _ => rfl) _ _ _ _ _ hweighed, Aggregate.mk.injEq]
    have hcents : ∀ a b : Int, (a / 100 : Rat) = b / 100 ↔ a = b := by
      intro a b
      constructor
      · intro hdiv
        have hcast : (a : Rat) = b := by linarith
        exact Int.cast_injective hcast
      · rintro rfl
        rfl
    rw [hcents]
    exact ⟨fun h => h.1, fun h => ⟨h, rfl, rfl, rfl, rfl⟩⟩

end

/-! ## Two metrics -/

/-- A document with two metrics that apply to it. -/
def twoMetrics (weight : Int) : MetricsDb where
  documents := [{ id := 0, title := "T", document_type := "T", unit_id := 5, uploaded_by := 1 }]
  versions := [{ id := 1, document_id := 0, version_number := 1, file_name := "a.pdf", checksum := "", uploaded_by := 1 }]
  templates := [{ id := 2, name := "Sections", metric_type := .section_check },
    { id := 3, name := "Keywords", metric_type := .keyword_check, weight }]
  applicabilities := [{ metric_id := 2 }, { metric_id := 3 }]
  nextId := 4

/-- The sections are there, and the keywords are not. -/
def halfMet : Checks := fun metric =>
  if metric.metric_type = .section_check then .ok { status := .pass, score := some 1 }
  else .ok { status := .fail, message := some "No keywords", score := some 0 }

def halfMetRun (weight : Int) : MetricsDb × MetricRun :=
  match computeMetricsAndAutoReview (fun a b => a = b) (twoMetrics weight) halfMet 1 with
  | .ok run => run
  | .error _ => (twoMetrics weight, { results := [], aggregate := {} })

theorem aggregate_read_back_equal_weights :
    (halfMetRun 1).2.aggregate = calculateAggregateScore (getMetricResults (halfMetRun 1).1 1) := by
  have hrun : computeMetricsAndAutoReview (fun a b => a = b) (twoMetrics 1) halfMet 1 = .ok (halfMetRun 1) := rfl
  have hversion : (twoMetrics 1).versionWithDocument 1 = some (_, _) := rfl
  have hsane : Sane (twoMetrics 1) :=
    ⟨fun _ hrow => (List.not_mem_nil hrow).elim, fun _ hrow => (List.not_mem_nil hrow).elim⟩
  refine (aggregate_read_back_iff hsane hversion ?_ hrun).mpr ?_
  · decide +kernel
  · decide +kernel

/-- The run reports one half, and one quarter is read back. -/
theorem weights_change_the_score : ¬ ∀ (collates : String → String → Bool) (db db' : MetricsDb) (checks : Checks)
    (versionId : Nat) (run : MetricRun), Sane db →
    (∀ version document, db.versionWithDocument versionId = some (version, document) →
      ∀ metric ∈ metricsOf collates db document, 0 < metric.weight) →
    computeMetricsAndAutoReview collates db checks versionId = .ok (db', run) →
      run.aggregate = calculateAggregateScore (getMetricResults db' versionId) := by
  intro h
  have hread := h (fun a b => a = b) (twoMetrics 3) (halfMetRun 3).1 halfMet 1 (halfMetRun 3).2
    ⟨fun _ hrow => (List.not_mem_nil hrow).elim, fun _ hrow => (List.not_mem_nil hrow).elim⟩ ?_ rfl
  · exact absurd hread (by decide +kernel)
  · intro version document hversion
    cases hversion
    decide +kernel

end ComplianceHub.Metrics
