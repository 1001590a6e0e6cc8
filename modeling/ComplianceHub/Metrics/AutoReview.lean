import ComplianceHub.Lib.Rows
import ComplianceHub.Lib.Run
import ComplianceHub.Metrics.Aggregate

/-!
# Automatic reviews over metric runs

* `MetricsEvent`, `metrics` : metric runs, between changes of the templates and the documents;
* `Kept` : a version has one automatic review at most, and every automatic review asks for a revision;
* `ReviewFollows` : the automatic review of a version is the one of a run;
* `sane_of_run` : runs keep what reading their results back needs;
* `auto_review_follows_iff` : it follows every run exactly where each run has a failure, or finds no automatic review;
* `a_passing_run_leaves_the_review` : one that does not, leaves the review of an earlier run.
-/

namespace ComplianceHub.Metrics

open ComplianceHub.Documents (Document DocumentVersion)
open ComplianceHub.Lib

inductive MetricsEvent where
  | run (checks : Checks) (versionId : Nat)
  | settings (templates : List MetricTemplate) (applicabilities : List MetricApplicability)
  /-- The documents are changed, their identifiers apart. -/
  | edit (f : Document → Document)

/-- A run that raises an exception has written nothing. -/
def MetricsDb.apply (collates : String → String → Bool) (db : MetricsDb) : MetricsEvent → MetricsDb
  | .run checks versionId =>
    match computeMetricsAndAutoReview collates db checks versionId with
    | .ok (db', _) => db'
    | .error _ => db
  | .settings templates applicabilities => { db with templates, applicabilities }
  | .edit f => { db with documents := db.documents.map fun document => { f document with id := document.id } }

/-- Before the first run. -/
def metrics (collates : String → String → Bool) : System MetricsDb MetricsEvent where
  init db := db.results = [] ∧ (db.reviews.map (·.id)).Nodup ∧
    ∀ review ∈ db.reviews, review.id < db.nextId ∧ review.reviewer_id.isSome = true
  step db e db' := db' = db.apply collates e

/-- The automatic reviews of a version. -/
def autoReviews (db : MetricsDb) (versionId : Nat) : List Review :=
  db.reviews.filter fun review => review.version_id = versionId && review.reviewer_id.isNone

/-- The automatic review of a version is the one of a run: it is there where a check has failed, with these failures. -/
structure ReviewFollows (db : MetricsDb) (versionId : Nat) (run : MetricRun) : Prop where
  one : (autoReviews db versionId).length ≤ 1
  revision : (∃ review ∈ autoReviews db versionId, review.decision = .needs_revision) ↔
    ∃ result ∈ run.results, result.isFailed = true
  findings : ∀ review ∈ autoReviews db versionId,
    review.findings = (run.results.filter LoadedResult.isFailed).map findingOf

section
variable (collates : String → String → Bool)

/-- The automatic review follows the run of a step. -/
def Follows (e : Transition MetricsDb MetricsEvent) : Prop :=
  ∀ checks versionId db run, e.label = .run checks versionId →
    computeMetricsAndAutoReview collates e.before checks versionId = .ok (db, run) → ReviewFollows e.after versionId run

def outcomeFails (outcome : Except String CheckResult) : Bool :=
  outcomeStatus outcome = .fail || outcomeStatus outcome = .error

/-- A run on a stored version has a failure, or finds no automatic review. -/
def FailsOrIsFirst (e : Transition MetricsDb MetricsEvent) : Prop :=
  ∀ checks versionId version document, e.label = .run checks versionId →
    e.before.versionWithDocument versionId = some (version, document) →
    (∃ metric ∈ metricsOf collates e.before document, outcomeFails (checks metric) = true) ∨
      autoReviews e.before versionId = []

end

/-! ## Invariant -/

/-- Reviews have identifiers of their own; an automatic one asks for a revision, and is the only one of its version. -/
structure Kept (db : MetricsDb) : Prop where
  nodup : (db.reviews.map (·.id)).Nodup
  fresh : ∀ review ∈ db.reviews, review.id < db.nextId
  auto : ∀ review ∈ db.reviews, review.reviewer_id.isNone = true → review.decision = .needs_revision ∧
    ∀ version, db.versions.find? (fun row => decide (row.id = review.version_id)) = some version →
      review.document_id = version.document_id
  one : ∀ versionId, (autoReviews db versionId).length ≤ 1

section
variable {collates : String → String → Bool} {db db' : MetricsDb} {checks : Checks} {versionId : Nat}
  {version : DocumentVersion} {document : Document} {failedResults : List LoadedResult}

theorem versionWithDocument_eq_some (h : db.versionWithDocument versionId = some (version, document)) :
    db.versions.find? (fun row => decide (row.id = versionId)) = some version ∧ version.id = versionId ∧
      document.id = version.document_id := by
  obtain ⟨found, hfound, h⟩ := Option.bind_eq_some_iff.mp h
  obtain ⟨own, hown, h⟩ := Option.bind_eq_some_iff.mp h
  cases h
  exact ⟨hfound, of_decide_eq_true (List.find?_some hfound :), of_decide_eq_true (List.find?_some hown :)⟩

theorem Kept.of_eq (h : Kept db) (hreviews : db'.reviews = db.reviews) (hversions : db'.versions = db.versions)
    (hnext : db.nextId ≤ db'.nextId) : Kept db' := by
  refine ⟨?_, fun review hreview => ?_, fun review hreview hauto => ?_, fun versionId => ?_⟩
  · rw [hreviews]
    exact h.nodup
  · rw [hreviews] at hreview
    exact (h.fresh review hreview).trans_le hnext
  · rw [hreviews] at hreview
    rw [hversions]
    exact h.auto review hreview hauto
  · rw [autoReviews, hreviews]
    exact h.one versionId

/-- The review that a run finds is the only automatic one of its version. -/
theorem Kept.find?_iff (h : Kept db) (hversion : db.versionWithDocument versionId = some (version, document)) :
    (∀ review, db.reviews.find? (isAutoReview document.id versionId) = some review → autoReviews db versionId = [review]) ∧
      (db.reviews.find? (isAutoReview document.id versionId) = none → autoReviews db versionId = []) := by
  obtain ⟨hfound, -, hid⟩ := versionWithDocument_eq_some hversion
  have hauto : ∀ review ∈ db.reviews, isAutoReview document.id versionId review = true ↔ review ∈ autoReviews db versionId := by
    intro review hreview
    rw [autoReviews, List.mem_filter, isAutoReview]
    simp only [Bool.and_eq_true, decide_eq_true_eq]
    constructor
    · exact fun h => ⟨hreview, h.1.2, h.2⟩
    · rintro ⟨-, hof, hnone⟩
      refine ⟨⟨?_, hof⟩, hnone⟩
      rw [hid]
      exact (h.auto review hreview hnone).2 version (hof ▸ hfound)
  constructor
  · intro review hreview
    have hmem := (hauto review (List.mem_of_find?_eq_some hreview)).mp (List.find?_some hreview)
    have hone := h.one versionId
    generalize autoReviews db versionId = reviews at hmem hone
    match reviews with
    | [only] => rw [List.mem_singleton.mp hmem]
  · intro hnone
    refine List.eq_nil_iff_forall_not_mem.mpr fun review hreview => ?_
    have hmem := (List.mem_filter.mp hreview).1
    exact List.find?_eq_none.mp hnone review hmem ((hauto review hmem).mpr hreview)

/-- A review that is made again replaces itself. -/
theorem autoReviews_flagAgain (h : Kept db) {existing : Review} (hexisting : existing ∈ db.reviews) (versionId : Nat)
    (hdb' : db' = { db with reviews := db.reviews.map fun row => if row.id = existing.id then flagAgain failedResults existing else row }) :
    autoReviews db' versionId =
      (autoReviews db versionId).map fun row => if row.id = existing.id then flagAgain failedResults existing else row := by
  subst hdb'
  unfold autoReviews
  rw [List.filter_map]
  congr 1
  apply List.filter_congr
  intro row hrow
  show (fun review : Review => review.version_id = versionId && review.reviewer_id.isNone)
    (if row.id = existing.id then flagAgain failedResults existing else row) = _
  split_ifs with hid
  · rw [List.inj_on_of_nodup_map h.nodup hrow hexisting hid]
    rfl
  · rfl

theorem Kept.flagged (h : Kept db) {existing : Review} (hexisting : existing ∈ db.reviews)
    (hdb' : db' = { db with reviews := db.reviews.map fun row => if row.id = existing.id then flagAgain failedResults existing else row }) :
    Kept db' := by
  have hids : db'.reviews.map (·.id) = db.reviews.map (·.id) := by
    rw [hdb']
    exact map_column_of_change fun _ _ hid => hid.symm
  refine ⟨?_, fun review hreview => ?_, fun review hreview hauto => ?_, fun versionId => ?_⟩
  · rw [hids]
    exact h.nodup
  · have hid : review.id ∈ db.reviews.map (·.id) := by
      exact hids ▸ List.mem_map.mpr ⟨review, hreview, rfl⟩
    obtain ⟨old, hold, hid⟩ := List.mem_map.mp hid
    rw [← hid, hdb']
    exact h.fresh old hold
  · rw [hdb'] at hreview ⊢
    obtain ⟨old, hold, rfl⟩ := List.mem_map.mp hreview
    split_ifs at hauto ⊢ with hid
    · exact ⟨rfl, (h.auto existing hexisting hauto).2⟩
    · exact h.auto old hold hauto
  · rw [autoReviews_flagAgain h hexisting versionId hdb', List.length_map]
    exact h.one versionId

theorem autoReviews_append (review : Review) (versionId : Nat) (hdb' : db'.reviews = db.reviews ++ [review]) :
    autoReviews db' versionId =
      autoReviews db versionId ++ if review.version_id = versionId ∧ review.reviewer_id = none then [review] else [] := by
  unfold autoReviews
  rw [hdb', List.filter_append]
  congr 1
  split_ifs with hown
  · simp [hown]
  · rw [List.filter_eq_nil_iff]
    intro row hrow
    rw [List.mem_singleton.mp hrow]
    simpa using hown

/-- What a run with failures leaves: one automatic review of its version, with these failures. -/
theorem Kept.reviewed (h : Kept db) (hversion : db.versionWithDocument versionId = some (version, document))
    (failedResults : List LoadedResult) :
    Kept (autoReview db versionId failedResults) ∧ ∃ review,
      autoReviews (autoReview db versionId failedResults) versionId = [review] ∧ review.decision = .needs_revision ∧
        review.findings = failedResults.map findingOf := by
  obtain ⟨hfound, hof, hid⟩ := versionWithDocument_eq_some hversion
  unfold autoReview
  rw [hversion]
  dsimp only
  cases hexisting : db.reviews.find? (isAutoReview document.id versionId) with
  | some existing =>
    have hmem := List.mem_of_find?_eq_some hexisting
    refine ⟨h.flagged hmem rfl, flagAgain failedResults existing, ?_, rfl, rfl⟩
    rw [autoReviews_flagAgain h hmem versionId rfl, (h.find?_iff hversion).1 existing hexisting, List.map_singleton,
      if_pos rfl]
  | none =>
    have hnone := (h.find?_iff hversion).2 hexisting
    have hown : autoReviews { db with
        reviews := db.reviews ++ [newAutoReview document.id versionId failedResults db.nextId db.clock]
        nextId := db.nextId + 1
        clock := db.clock + 1 } versionId = [newAutoReview document.id versionId failedResults db.nextId db.clock] := by
      rw [autoReviews_append _ versionId (show _ = db.reviews ++ _ from rfl), hnone, if_pos ⟨rfl, rfl⟩]
      rfl
    refine ⟨⟨?_, fun review hreview => ?_, fun review hreview hauto => ?_, fun other => ?_⟩, _, hown, rfl, rfl⟩
    · exact nodup_ids_concat h.nodup h.fresh
    · rcases List.mem_append.mp hreview with hreview | hreview
      · exact Nat.lt_succ_of_lt (h.fresh review hreview)
      · rw [List.mem_singleton.mp hreview]
        exact Nat.lt_succ_self _
    · rcases List.mem_append.mp hreview with hreview | hreview
      · exact h.auto review hreview hauto
      · rw [List.mem_singleton.mp hreview]
        refine ⟨rfl, fun own hown => ?_⟩
        cases hfound.symm.trans hown
        exact hid
    · by_cases hsame : versionId = other
      · rw [← hsame, hown]
        exact le_refl _
      · rw [autoReviews_append _ other (show _ = db.reviews ++ _ from rfl), if_neg fun hnew => hsame hnew.1, List.append_nil]
        exact h.one other

/-! ## Runs -/

theorem aggregate_fails_iff (results : List LoadedResult) :
    (0 < (calculateAggregateScore results).failed ∨ 0 < (calculateAggregateScore results).errors) ↔
      ∃ result ∈ results, result.isFailed = true := by
  rw [calculateAggregateScore_eq]
  simp only [List.countP_pos_iff, LoadedResult.isFailed, Bool.or_eq_true, decide_eq_true_eq]
  constructor
  · rintro (⟨result, hmem, hstatus⟩ | ⟨result, hmem, hstatus⟩)
    · exact ⟨result, hmem, .inl hstatus⟩
    · exact ⟨result, hmem, .inr hstatus⟩
  · rintro ⟨result, hmem, hstatus | hstatus⟩
    · exact .inl ⟨result, hmem, hstatus⟩
    · exact .inr ⟨result, hmem, hstatus⟩

/-- A result of a run has failed where a check has. -/
theorem run_fails_iff {run : MetricRun} (hversion : db.versionWithDocument versionId = some (version, document))
    (h : computeMetricsAndAutoReview collates db checks versionId = .ok (db', run)) :
    (∃ result ∈ run.results, result.isFailed = true) ↔
      ∃ metric ∈ metricsOf collates db document, outcomeFails (checks metric) = true := by
  have hstatuses : (runRows checks versionId db.nextId (db.nextId + 1) db.clock (metricsOf collates db document)).map
      (fun row => (unloaded row).isFailed) =
      (metricsOf collates db document).map fun metric => outcomeFails (checks metric) := by
    refine map_runRows _ _ _ _ fun metric _ id clock => ?_
    unfold LoadedResult.isFailed outcomeFails
    rw [show (unloaded (newResult versionId db.nextId metric (checks metric) id clock)).status = outcomeStatus (checks metric)
        from (newResult_outcome metric id clock).2.2]
  have hmem : true ∈ (runRows checks versionId db.nextId (db.nextId + 1) db.clock (metricsOf collates db document)).map
        (fun row => (unloaded row).isFailed) ↔
      true ∈ (metricsOf collates db document).map fun metric => outcomeFails (checks metric) := by
    rw [hstatuses]
  rw [(computeMetricsAndAutoReview_eq_ok hversion h).2.2.1]
  simpa only [List.mem_map, exists_exists_and_eq_and] using hmem

/-- A run stores its results, and makes an automatic review where one of them has failed. -/
theorem reviews_of_run {run : MetricRun} (h : computeMetricsAndAutoReview collates db checks versionId = .ok (db', run)) :
    ∃ version document, db.versionWithDocument versionId = some (version, document) ∧ ∃ ran : MetricsDb,
      ran.reviews = db.reviews ∧ ran.versions = db.versions ∧ ran.documents = db.documents ∧ db.nextId ≤ ran.nextId ∧
        ((∃ result ∈ run.results, result.isFailed = true) ∧
            db' = autoReview ran versionId (run.results.filter LoadedResult.isFailed) ∨
          (¬ ∃ result ∈ run.results, result.isFailed = true) ∧ db' = ran) := by
  obtain ⟨⟨ran, results⟩, hcompute, h⟩ := bind_eq_ok.mp h
  cases h
  obtain ⟨⟨version, document⟩, hfound, hcompute⟩ := bind_eq_ok.mp hcompute
  dsimp only at hcompute
  rw [foldl_computeMetric, List.nil_append] at hcompute
  cases hcompute
  refine ⟨version, document, ?_, { db with
    results := db.results ++ runRows checks versionId db.nextId (db.nextId + 1) db.clock (metricsOf collates db document)
    nextId := db.nextId + 1 + (metricsOf collates db document).length
    clock := db.clock + (metricsOf collates db document).length }, rfl, rfl, rfl, ?_, ?_⟩
  · unfold orNotFound at hfound
    split at hfound
    · rename_i found hsome
      cases hfound
      exact hsome
    · cases hfound
  · show db.nextId ≤ db.nextId + 1 + (metricsOf collates db document).length
    omega
  · dsimp only
    split_ifs with hfails
    · exact .inl ⟨(aggregate_fails_iff _).mp hfails, rfl⟩
    · exact .inr ⟨fun hresult => hfails ((aggregate_fails_iff _).mpr hresult), rfl⟩

/-- The automatic review follows a run that has a failure, or finds none. -/
theorem Kept.run {run : MetricRun} (hdb : Kept db)
    (h : computeMetricsAndAutoReview collates db checks versionId = .ok (db', run)) :
    Kept db' ∧ (ReviewFollows db' versionId run ↔
      (∃ result ∈ run.results, result.isFailed = true) ∨ autoReviews db versionId = []) := by
  obtain ⟨version, document, hversion, ran, hreviews, hversions, hdocuments, hnext, ⟨hfails, rfl⟩ | ⟨hpasses, rfl⟩⟩ :=
    reviews_of_run h
  · have hran : Kept ran := hdb.of_eq hreviews hversions hnext
    have hversion' : ran.versionWithDocument versionId = some (version, document) := by
      unfold MetricsDb.versionWithDocument at hversion ⊢
      rw [hversions, hdocuments]
      exact hversion
    obtain ⟨hkept, review, hown, hdecision, hfindings⟩ :=
      hran.reviewed hversion' (run.results.filter LoadedResult.isFailed)
    refine ⟨hkept, fun _ => .inl hfails, fun _ => ⟨?_, ?_, ?_⟩⟩
    · rw [hown]
      exact le_refl _
    · rw [hown]
      exact ⟨fun _ => hfails, fun _ => ⟨review, List.mem_singleton_self _, hdecision⟩⟩
    · rw [hown]
      intro other hother
      rw [List.mem_singleton.mp hother]
      exact hfindings
  · have hkept : Kept db' := hdb.of_eq hreviews hversions hnext
    have hsame : autoReviews db' versionId = autoReviews db versionId := by
      rw [autoReviews, hreviews]
      rfl
    refine ⟨hkept, fun hfollows => .inr ?_, fun hor => ?_⟩
    · rw [← hsame]
      refine List.eq_nil_iff_forall_not_mem.mpr fun review hreview => hpasses (hfollows.revision.mp ⟨review, hreview, ?_⟩)
      obtain ⟨hmem, hown⟩ := List.mem_filter.mp hreview
      exact (hkept.auto review hmem (Bool.and_eq_true_iff.mp hown).2).1
    · have hnone : autoReviews db' versionId = [] := hsame.trans (hor.resolve_left hpasses)
      refine ⟨hkept.one versionId, ?_, ?_⟩
      · rw [hnone]
        exact ⟨fun ⟨_, hmem, _⟩ => (List.not_mem_nil hmem).elim, fun hfails => absurd hfails hpasses⟩
      · rw [hnone]
        exact fun _ hmem => (List.not_mem_nil hmem).elim

theorem Kept.apply (h : Kept db) (e : MetricsEvent) : Kept (db.apply collates e) := by
  cases e with
  | run checks versionId =>
    cases hcompute : computeMetricsAndAutoReview collates db checks versionId with
    | ok ran =>
      rw [MetricsDb.apply, hcompute]
      exact (h.run hcompute).1
    | error exception =>
      rw [MetricsDb.apply, hcompute]
      exact h
  | settings templates applicabilities => exact h.of_eq rfl rfl (le_refl _)
  | edit f => exact h.of_eq rfl rfl (le_refl _)

theorem kept_of_run {history : List (Transition MetricsDb MetricsEvent)} (h : Run (metrics collates) history db) : Kept db := by
  refine Run.always (P := fun _ => True) (fun db hinit => ?_) (fun db e db' hdb hs _ => ?_) h fun _ _ => trivial
  · have hhuman : ∀ review ∈ db.reviews, review.reviewer_id.isNone = false := by
      intro review hreview
      rw [Option.isNone_eq_false_iff]
      exact (hinit.2.2 review hreview).2
    refine ⟨hinit.2.1, fun review hreview => (hinit.2.2 review hreview).1, fun review hreview hauto => ?_, fun versionId => ?_⟩
    · rw [hhuman review hreview] at hauto
      cases hauto
    · rw [autoReviews, List.filter_eq_nil_iff.mpr]
      · exact Nat.zero_le _
      · intro review hreview
        rw [hhuman review hreview, Bool.and_false]
        exact Bool.false_ne_true
  · rw [show db' = db.apply collates e from hs]
    exact hdb.apply e

/-- The results of a run are from after every earlier one. -/
theorem Sane.run {run : MetricRun} (hdb : Sane db)
    (h : computeMetricsAndAutoReview collates db checks versionId = .ok (db', run)) : Sane db' := by
  obtain ⟨version, document, hversion, -⟩ := reviews_of_run h
  obtain ⟨hresults, -, -, -, hclock, hnext⟩ := computeMetricsAndAutoReview_eq_ok hversion h
  constructor
  · intro row hrow
    rw [hresults] at hrow
    rcases List.mem_append.mp hrow with hrow | hrow
    · have hearlier := hdb.earlier row hrow
      omega
    · obtain ⟨-, -, -, hlt⟩ := mem_runRows hrow
      omega
  · intro row hrow id hid
    rw [hresults] at hrow
    rcases List.mem_append.mp hrow with hrow | hrow
    · exact (hdb.executions row hrow id hid).trans hnext
    · rw [(mem_runRows hrow).2.1] at hid
      cases hid
      exact hnext

/-- Every state of a run of the system can read its last results back. -/
theorem sane_of_run {history : List (Transition MetricsDb MetricsEvent)} (h : Run (metrics collates) history db) : Sane db := by
  refine Run.always (P := fun _ => True) (fun db hinit => ?_) (fun db e db' hdb hs _ => ?_) h fun _ _ => trivial
  · have hnone : ∀ row, row ∉ db.results := by
      rw [hinit.1]
      exact fun _ => List.not_mem_nil
    exact ⟨fun row hrow => absurd hrow (hnone row), fun row hrow => absurd hrow (hnone row)⟩
  · rw [show db' = db.apply collates e from hs]
    cases e with
    | run checks versionId =>
      cases hcompute : computeMetricsAndAutoReview collates db checks versionId with
      | ok ran =>
        rw [MetricsDb.apply, hcompute]
        exact hdb.run hcompute
      | error exception =>
        rw [MetricsDb.apply, hcompute]
        exact hdb
    | settings templates applicabilities => exact ⟨hdb.earlier, hdb.executions⟩
    | edit f => exact ⟨hdb.earlier, hdb.executions⟩

/-- **The automatic review follows every metric run** exactly where each run has a failure, or finds no automatic review of
its version. -/
theorem auto_review_follows_iff {history : List (Transition MetricsDb MetricsEvent)}
    (h : Run (metrics collates) history db) :
    (∀ e ∈ history, Follows collates e) ↔ ∀ e ∈ history, FailsOrIsFirst collates e := by
  apply forall₂_congr
  intro e he
  obtain ⟨hs, _, hrun, -⟩ := h.reached e he
  have hkept := kept_of_run hrun
  have hafter : e.after = e.before.apply collates e.label := hs
  constructor
  · intro hfollows checks versionId version document hlabel hversion
    cases hcompute : computeMetricsAndAutoReview collates e.before checks versionId with
    | ok ran =>
      obtain ⟨db', run⟩ := ran
      have hfollows := hfollows checks versionId db' run hlabel hcompute
      rw [hafter, hlabel, MetricsDb.apply, hcompute] at hfollows
      rw [← run_fails_iff hversion hcompute]
      exact (hkept.run hcompute).2.mp hfollows
    | error exception =>
      unfold computeMetricsAndAutoReview computeMetrics at hcompute
      rw [hversion] at hcompute
      cases hcompute
  · intro hmeets checks versionId db' run hlabel hcompute
    obtain ⟨version, document, hversion, -⟩ := reviews_of_run hcompute
    have hmeets := hmeets checks versionId version document hlabel hversion
    rw [hafter, hlabel, MetricsDb.apply, hcompute]
    rw [← run_fails_iff hversion hcompute] at hmeets
    exact (hkept.run hcompute).2.mpr hmeets

end

/-! ## Two runs -/

def sameText (a b : String) : Bool := a = b

def allMet : Checks := fun _ => .ok { status := .pass, score := some 1 }

/-- A run on the document with two metrics, and a second one. -/
def twoRuns (second : Checks) : List (Transition MetricsDb MetricsEvent) :=
  trace (MetricsDb.apply sameText) (twoMetrics 1) [.run halfMet 1, .run second 1]

theorem run_twoRuns (second : Checks) : ∃ db, Run (metrics sameText) (twoRuns second) db := by
  have hinit : (metrics sameText).init (twoMetrics 1) :=
    ⟨rfl, List.nodup_nil, fun _ hreview => (List.not_mem_nil hreview).elim⟩
  have hrun := Run.trace (MetricsDb.apply sameText) (fun _ _ => rfl) [.run halfMet 1, .run second 1] (Run.init hinit)
  rw [List.nil_append] at hrun
  exact ⟨_, hrun⟩

theorem auto_review_follows_failing_runs : (twoRuns halfMet).map (fun e => e.after.reviews.length) = [1, 1] ∧
    ∀ e ∈ twoRuns halfMet, Follows sameText e := by
  obtain ⟨_, hrun⟩ := run_twoRuns halfMet
  refine ⟨by decide +kernel, (auto_review_follows_iff hrun).mpr ?_⟩
  intro e he checks versionId version document hlabel hversion
  left
  rcases List.mem_cons.mp he with rfl | he
  · cases hlabel
    cases hversion
    decide +kernel
  · rw [List.mem_singleton.mp he] at hlabel hversion ⊢
    cases hlabel
    cases hversion
    decide +kernel

/-- The second run has no failure, and the review of the first one is still there. -/
theorem a_passing_run_leaves_the_review : ¬ ∀ (collates : String → String → Bool)
    (history : List (Transition MetricsDb MetricsEvent)) (db : MetricsDb), Run (metrics collates) history db →
      ∀ e ∈ history, Follows collates e := by
  intro h
  obtain ⟨_, hrun⟩ := run_twoRuns allMet
  have hsecond := h sameText _ _ hrun _ (List.mem_cons_of_mem _ (List.mem_singleton_self _)) allMet 1 _ _ rfl rfl
  have hfailed := hsecond.revision.mp (by decide +kernel)
  exact absurd hfailed (by decide +kernel)

end ComplianceHub.Metrics
