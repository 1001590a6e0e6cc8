import ComplianceHub.Mov.Snapshots
import Mathlib.Data.List.Nodup
import Mathlib.Data.List.Pairwise

/-!
# Reports and their manifests

* `Issuance`, `ReportDb` : the issuances with their assessments;
* `generateRegisterReport`, `generateMonitoringMatrixReport` : the two reports, with what an assessment puts into a row;
* `RegisterManifestExact`, `MatrixManifestExact`, `StatusesShown` : what the manifests list, and what the rows show;
* `OneEachQuarter` : the assessments of an issuance that the matrix has a column for;
* `manifests_list_what_is_used` : when the manifests list what the reports have used.

Identifiers are numbers. Letter case is that of ASCII. The count of added entries, the numbering and the other cells of a
row are left out.
-/

namespace ComplianceHub.Mov

/-! ## Issuances and their assessments -/

structure AssessmentEvidence where
  id : Nat
  documentVersionId : Option Nat := none
deriving DecidableEq, Repr

structure IssuanceAssessment where
  id : Nat
  year : Int
  quarter : Option Int := none
  status : String := "not_assessed"
  evidenceSummary : Option String := none
  gapSummary : Option String := none
  readinessStatus : Option String := none
  evidence : List AssessmentEvidence := []
  remediationActions : List Nat := []
deriving DecidableEq, Repr

structure Issuance where
  id : Nat
  issuance_number : String
  title : String
  issuance_type : Option String := none
  primary_register : String := "legal_regulatory"
  lifecycle_status : String := "active"
  register_decision : String := "included"
  scope_profile : String := "core"
  applicability_scope : Option String := none
  register_added_at : Option Int := none
  created_at : Int := 0
  assessments : List IssuanceAssessment := []
deriving DecidableEq, Repr

/-- The issuances. An id is the key of its assessment. -/
structure ReportDb where
  issuances : List Issuance := []
  keyed : (issuances.flatMap fun issuance => issuance.assessments.map (·.id)).Nodup := by decide

structure ReportQuery where
  year : Int
  quarter : Int
  scope : Option String := none
  unit : Option String := none
  register_type : Option String := none
  scope_profile : Option String := none
deriving DecidableEq, Repr

inductive RegisterGroup where
  | legal
  | standards
  | internal
  | internal_operational
deriving DecidableEq, Repr

def validateReportPeriod (year quarter : Int) : Except HttpException Unit := do
  check (2000 ≤ year ∧ year ≤ 2200) (.badRequest "Report year is invalid")
  check (1 ≤ quarter ∧ quarter ≤ 4) (.badRequest "Report quarter must be between 1 and 4")

def normalizeIssuanceType (value : Option String) : String := (trim (value.getD "")).toLower

def resolveRegisterGroup (item : Issuance) : RegisterGroup :=
  if item.primary_register = "legal_regulatory" then .legal
  else if item.primary_register = "standards" then .standards
  else if item.primary_register = "internal_issuances" then .internal
  else if item.primary_register = "internal_operational" then .internal_operational
  else
    -- Compatibility fallback for records not yet migrated.
    let type := normalizeIssuanceType item.issuance_type
    let number := item.issuance_number.toLower
    if type ∈ ["standard", "framework", "guideline"] then .standards
    else if type = "internal policy" ∨ type = "internal_policy" ∨ type = "plan" ∨ "ao".isPrefixOf number ∨
        "mc".isPrefixOf number then .internal
    else .legal

/-- `text.includes(part)` -/
def includesText (text part : String) : Bool := text.toList.tails.any fun rest => part.toList.isPrefixOf rest

section
variable (query : ReportQuery)

def registerScope : String := (orText query.scope_profile "core").toLower

/-- The scope, the unit and the profile of the query. -/
def inScope (item : Issuance) : Bool :=
  let scopeFilter := (trim (query.scope.getD "")).toLower
  let unitFilter := (trim (query.unit.getD "")).toLower
  let scopeValue := (item.applicability_scope.getD "").toLower
  let scopeMatch := if scopeFilter ≠ "" ∧ scopeFilter ≠ "all" then includesText scopeValue scopeFilter else true
  let unitMatch := if unitFilter ≠ "" then includesText scopeValue unitFilter else true
  let registerScopeMatch := registerScope query = "all" || item.scope_profile = registerScope query
  scopeMatch && unitMatch && registerScopeMatch

/-- The later date of addition first, and of these the later creation. -/
def addedLater (a b : Issuance) : Bool :=
  match a.register_added_at, b.register_added_at with
  | some x, some y => y < x || (x = y && b.created_at ≤ a.created_at)
  | some _, none => true
  | none, some _ => false
  | none, none => b.created_at ≤ a.created_at

/-- The active issuances of the register, latest first. -/
def includedIssuances (db : ReportDb) : List Issuance :=
  (db.issuances.filter fun item => item.lifecycle_status = "active" && item.register_decision = "included").mergeSort
    addedLater

/-- The issuances that both reports are about. -/
def shownIssuances (db : ReportDb) : List Issuance := (includedIssuances db).filter (inScope query)

end

/-! ## The register -/

/-- A row of the register: the issuance, and the assessment that its columns are from. -/
structure RegisterItem where
  issuance : Issuance
  assessment : Option IssuanceAssessment
deriving DecidableEq, Repr

namespace RegisterItem

def compliance_status (item : RegisterItem) : String := (item.assessment.map (·.status)).getD "not_assessed"

def evidence_location (item : RegisterItem) : String :=
  ((item.assessment.map (·.evidenceSummary)).getD none).getD ""

def gap_summary (item : RegisterItem) : String := ((item.assessment.map (·.gapSummary)).getD none).getD ""

def quarterly_readiness (item : RegisterItem) : String :=
  orText ((item.assessment.map (·.readinessStatus)).getD none) "not_assessed"

end RegisterItem

structure RegisterManifestEntry where
  issuance_id : Nat
  assessment_id : Option Nat
  evidence_ids : List Nat
  document_version_ids : List Nat
  remediation_action_ids : List Nat
deriving DecidableEq, Repr

structure RegisterReport where
  title : String
  /-- The tables, each under its heading. -/
  sections : List (String × List RegisterItem)
  total : Nat
  compliant : Nat
  ready : Nat
  source_manifest : List RegisterManifestEntry
deriving DecidableEq, Repr

section
variable (query : ReportQuery)

/-- `.sort((a, b) => Number(b.quarter || 0) - Number(a.quarter || 0))[0]` -/
def latestQuarter (entries : List IssuanceAssessment) : Option IssuanceAssessment :=
  (entries.mergeSort fun a b => b.quarter.getD 0 ≤ a.quarter.getD 0).head?

/-- The assessment that the rows are filled from. -/
def registerAssessment (item : Issuance) : Option IssuanceAssessment :=
  latestQuarter (item.assessments.filter fun entry =>
    entry.year = query.year && (entry.quarter = none || entry.quarter = some query.quarter))

/-- The assessment that the manifest names. -/
def manifestAssessment (item : Issuance) : Option IssuanceAssessment :=
  latestQuarter (item.assessments.filter fun entry =>
    entry.year = query.year && (entry.quarter = some query.quarter || entry.quarter = none))

def registerItem (item : Issuance) : RegisterItem := { issuance := item, assessment := registerAssessment query item }

def registerManifestEntry (item : Issuance) : RegisterManifestEntry :=
  let assessment := manifestAssessment query item
  let evidence := (assessment.map (·.evidence)).getD []
  { issuance_id := item.id
    assessment_id := assessment.map (·.id)
    evidence_ids := evidence.map (·.id)
    document_version_ids := evidence.filterMap (·.documentVersionId)
    remediation_action_ids := (assessment.map (·.remediationActions)).getD [] }

def registerTitle (registerType : String) : String :=
  if registerType = "legal" then "Legal & Regulatory Register"
  else if registerType = "standards" then "Standards Register"
  else if registerType = "internal" then "Internal Issuances Register"
  else if registerType = "internal_operational" then "Internal Operational Documents Register"
  else "Register"

def generateRegisterReport (db : ReportDb) : Except HttpException RegisterReport := do
  validateReportPeriod query.year query.quarter
  let registerType := (orText query.register_type "all").toLower
  check (registerType ∈ ["legal", "standards", "internal", "internal_operational", "all"])
    (.badRequest "Register type is invalid")
  check (registerScope query ∈ ["core", "extended", "all"]) (.badRequest "Register scope is invalid")
  let filtered := ((includedIssuances db).map (registerItem query)).filter fun item => inScope query item.issuance
  let entries (group : RegisterGroup) := filtered.filter fun item => resolveRegisterGroup item.issuance = group
  let selectedEntries :=
    if registerType = "legal" then entries .legal
    else if registerType = "standards" then entries .standards
    else if registerType = "internal" then entries .internal
    else if registerType = "internal_operational" then entries .internal_operational
    else filtered
  let sections :=
    if registerType = "legal" then [("Legal Register", entries .legal)]
    else if registerType = "standards" then [("Standards Register", entries .standards)]
    else if registerType = "internal" then [("Internal Issuances Register", entries .internal)]
    else if registerType = "internal_operational" then
      [("Internal Operational Documents Register", entries .internal_operational)]
    else
      [("Legal Register", entries .legal), ("Standards Register", entries .standards),
        ("Internal Issuances Register", entries .internal),
        ("Internal Operational Documents Register", entries .internal_operational)]
  .ok {
    title := registerTitle registerType ++ " Report " ++ toString query.year ++ " Q" ++ toString query.quarter
    sections
    total := selectedEntries.length
    compliant := selectedEntries.countP fun item => item.compliance_status.toLower = "compliant"
    ready := selectedEntries.countP fun item => item.quarterly_readiness.toLower = "ready"
    source_manifest := selectedEntries.map fun item => registerManifestEntry query item.issuance }

end

/-! ## The monitoring matrix -/

/-- A row of the matrix, with the statuses of its quarter columns. -/
structure MatrixItem where
  issuance : Issuance
  q1_compliance_status : String
  q2_compliance_status : String
  q3_compliance_status : String
  q4_compliance_status : String
deriving DecidableEq, Repr

/-- The column of a quarter. -/
def MatrixItem.status (item : MatrixItem) (quarter : Int) : String :=
  if quarter = 1 then item.q1_compliance_status
  else if quarter = 2 then item.q2_compliance_status
  else if quarter = 3 then item.q3_compliance_status
  else item.q4_compliance_status

structure MatrixManifestEntry where
  issuance_id : Nat
  assessment_ids : List Nat
deriving DecidableEq, Repr

structure MatrixReport where
  title : String
  rows : List MatrixItem
  total : Nat
  source_manifest : List MatrixManifestEntry
deriving DecidableEq, Repr

section
variable (query : ReportQuery)

/-- The assessments of the year, each under its quarter. -/
def quarterlyEntries (item : Issuance) : List IssuanceAssessment :=
  item.assessments.filter fun entry =>
    entry.year = query.year && entry.quarter.any fun quarter => 1 ≤ quarter && quarter ≤ 4

/-- The entry of a quarter in the map, which is the last one. -/
def quarterlyAssessment (item : Issuance) (quarter : Int) : Option IssuanceAssessment :=
  ((quarterlyEntries query item).filter fun entry => entry.quarter = some quarter).getLast?

/-- The first column is always shown, another one up to the quarter of the query. -/
def isShownQuarter (quarter : Int) : Bool := quarter = 1 || quarter ≤ query.quarter

def quarterStatus (item : Issuance) (quarter : Int) : String :=
  if isShownQuarter query quarter then
    orText ((quarterlyAssessment query item quarter).map (·.status)) "not_assessed"
  else ""

def matrixItem (item : Issuance) : MatrixItem where
  issuance := item
  q1_compliance_status := quarterStatus query item 1
  q2_compliance_status := quarterStatus query item 2
  q3_compliance_status := quarterStatus query item 3
  q4_compliance_status := quarterStatus query item 4

def matrixManifestEntry (item : Issuance) : MatrixManifestEntry where
  issuance_id := item.id
  assessment_ids := (item.assessments.filter fun entry =>
    entry.year = query.year && entry.quarter.getD 0 ≤ query.quarter).map (·.id)

def generateMonitoringMatrixReport (db : ReportDb) : Except HttpException MatrixReport := do
  validateReportPeriod query.year query.quarter
  check (registerScope query ∈ ["core", "extended", "all"]) (.badRequest "Register scope is invalid")
  let filtered := ((includedIssuances db).map (matrixItem query)).filter fun item => inScope query item.issuance
  .ok {
    title := "ICT Compliance Register Monitoring " ++ toString query.year ++ " Q" ++ toString query.quarter
    rows := filtered
    total := filtered.length
    source_manifest := filtered.map fun item => matrixManifestEntry query item.issuance }

end

/-! ## What the manifests should list -/

section
variable (query : ReportQuery) (db : ReportDb)

/-- The manifest of the register lists the assessments that fill the rows of its tables. -/
def RegisterManifestExact (report : RegisterReport) : Prop :=
  ∀ issuance ∈ db.issuances, ∀ assessment ∈ issuance.assessments,
    (∃ entry ∈ report.source_manifest, entry.assessment_id = some assessment.id) ↔
      ∃ table ∈ report.sections, ∃ item ∈ table.2, item.issuance = issuance ∧ item.assessment = some assessment

/-- The assessment's status is in a quarter column of the issuance's row. -/
def FillsColumn (issuance : Issuance) (assessment : IssuanceAssessment) : Prop :=
  ∃ quarter : Int, 1 ≤ quarter ∧ quarter ≤ 4 ∧ isShownQuarter query quarter = true ∧
    quarterlyAssessment query issuance quarter = some assessment ∧ assessment.status ≠ ""

/-- The manifest of the matrix lists the assessments that fill the quarter columns of its rows. -/
def MatrixManifestExact (report : MatrixReport) : Prop :=
  ∀ issuance ∈ db.issuances, ∀ assessment ∈ issuance.assessments,
    (∃ entry ∈ report.source_manifest, assessment.id ∈ entry.assessment_ids) ↔
      ∃ item ∈ report.rows, item.issuance = issuance ∧ FillsColumn query issuance assessment

/-- Both reports show the status of an assessment for the queried quarter itself. -/
def StatusesShown (register : RegisterReport) (matrix : MatrixReport) : Prop :=
  ∀ issuance ∈ db.issuances, ∀ assessment ∈ issuance.assessments,
    assessment.year = query.year → assessment.quarter = some query.quarter →
      (∀ table ∈ register.sections, ∀ item ∈ table.2, item.issuance = issuance →
        item.compliance_status = assessment.status) ∧
      ∀ item ∈ matrix.rows, item.issuance = issuance → item.status query.quarter = assessment.status

/-- Of the year up to the quarter, an issuance has only quarterly assessments, each with a status, and one a quarter. -/
def OneEachQuarter (issuance : Issuance) : Prop :=
  ∀ assessment ∈ issuance.assessments, assessment.year = query.year → assessment.quarter.getD 0 ≤ query.quarter →
    1 ≤ assessment.quarter.getD 0 ∧ assessment.status ≠ "" ∧
    ∀ other ∈ issuance.assessments, other.year = query.year → other.quarter = assessment.quarter → other = assessment

instance (issuance : Issuance) : Decidable (OneEachQuarter query issuance) :=
  inferInstanceAs (Decidable (∀ _ ∈ _, _ → _ → _ ∧ _ ∧ ∀ _ ∈ _, _ → _ → _))

end

/-! ## The rows of the reports -/

section
variable {query : ReportQuery} {db : ReportDb} {issuance other : Issuance} {assessment entry : IssuanceAssessment}

theorem mem_of_mem_shown (h : issuance ∈ shownIssuances query db) : issuance ∈ db.issuances := by
  unfold shownIssuances includedIssuances at h
  have hmem := (List.mergeSort_perm _ _).mem_iff.mp (List.mem_filter.mp h).1
  exact (List.mem_filter.mp hmem).1

/-- An id names one assessment of one issuance. -/
theorem same_of_id (hissuance : issuance ∈ db.issuances) (hassessment : assessment ∈ issuance.assessments)
    (hother : other ∈ db.issuances) (hentry : entry ∈ other.assessments) (hid : entry.id = assessment.id) :
    other = issuance ∧ entry = assessment := by
  obtain ⟨hnodup, hdisjoint⟩ := List.nodup_flatMap.mp db.keyed
  have hsame : other = issuance := by
    by_contra hne
    have hsymm : Std.Symm (Function.onFun List.Disjoint fun item : Issuance => item.assessments.map (·.id)) :=
      ⟨fun _ _ h _ ha hb => h hb ha⟩
    refine hdisjoint.forall hother hissuance hne (List.mem_map.mpr ⟨entry, hentry, rfl⟩) ?_
    rw [hid]
    exact List.mem_map.mpr ⟨assessment, hassessment, rfl⟩
  subst hsame
  exact ⟨rfl, List.inj_on_of_nodup_map (hnodup other hother) hentry hassessment hid⟩

theorem filter_map_rows {ρ : Type} (row : Issuance → ρ) {issuanceOf : ρ → Issuance}
    (h : ∀ item, issuanceOf (row item) = item) :
    (((includedIssuances db).map row).filter fun item => inScope query (issuanceOf item)) =
      (shownIssuances query db).map row := by
  unfold shownIssuances
  rw [List.filter_map]
  congr 1
  apply List.filter_congr
  intro item _
  show inScope query (issuanceOf (row item)) = inScope query item
  rw [h]

theorem manifestAssessment_eq (item : Issuance) : manifestAssessment query item = registerAssessment query item := by
  unfold manifestAssessment registerAssessment
  congr 1
  apply List.filter_congr
  intro entry _
  rw [Bool.or_comm]

/-- The tables of the register hold the issuances of its manifest, which are among those in scope. -/
theorem generateRegisterReport_eq_ok {report : RegisterReport} (h : generateRegisterReport query db = .ok report) :
    ∃ selected : List Issuance, (∀ item ∈ selected, item ∈ shownIssuances query db) ∧
      report.source_manifest = selected.map (registerManifestEntry query) ∧
      ∀ item, (∃ table ∈ report.sections, item ∈ table.2) ↔ item ∈ selected.map (registerItem query) := by
  unfold generateRegisterReport at h
  obtain ⟨-, -, h⟩ := bind_eq_ok.mp h
  obtain ⟨-, -, h⟩ := bind_eq_ok.mp h
  obtain ⟨-, -, h⟩ := bind_eq_ok.mp h
  rw [filter_map_rows (registerItem query) fun _ => rfl] at h
  have hentries (group : RegisterGroup) : (((shownIssuances query db).map (registerItem query)).filter fun item =>
      decide (resolveRegisterGroup item.issuance = group)) =
      ((shownIssuances query db).filter fun item => resolveRegisterGroup item = group).map (registerItem query) := by
    rw [List.filter_map]
    rfl
  simp only [hentries] at h
  obtain rfl := Except.ok.inj h
  dsimp only
  split_ifs
  case neg =>
    refine ⟨shownIssuances query db, fun _ h => h, ?_, ?_⟩
    · rw [List.map_map]
      rfl
    · intro item
      simp only [List.mem_cons, List.not_mem_nil, or_false, exists_eq_or_imp, exists_eq_left, List.mem_map,
        List.mem_filter, decide_eq_true_eq]
      constructor
      · rintro (⟨i, hi, rfl⟩ | ⟨i, hi, rfl⟩ | ⟨i, hi, rfl⟩ | ⟨i, hi, rfl⟩) <;> exact ⟨i, hi.1, rfl⟩
      · rintro ⟨i, hi, rfl⟩
        cases hgroup : resolveRegisterGroup i with
        | legal => exact .inl ⟨i, ⟨hi, hgroup⟩, rfl⟩
        | standards => exact .inr (.inl ⟨i, ⟨hi, hgroup⟩, rfl⟩)
        | internal => exact .inr (.inr (.inl ⟨i, ⟨hi, hgroup⟩, rfl⟩))
        | internal_operational => exact .inr (.inr (.inr ⟨i, ⟨hi, hgroup⟩, rfl⟩))
  all_goals
    refine ⟨_, fun item hitem => (List.mem_filter.mp hitem).1, by rw [List.map_map]; rfl, ?_⟩
    intro item
    simp only [List.mem_singleton, exists_eq_left]

theorem generateMonitoringMatrixReport_eq_ok {report : MatrixReport}
    (h : generateMonitoringMatrixReport query db = .ok report) :
    (1 ≤ query.quarter ∧ query.quarter ≤ 4) ∧ report.rows = (shownIssuances query db).map (matrixItem query) ∧
      report.source_manifest = (shownIssuances query db).map (matrixManifestEntry query) := by
  unfold generateMonitoringMatrixReport validateReportPeriod at h
  obtain ⟨_, hperiod, h⟩ := bind_eq_ok.mp h
  obtain ⟨_, -, hquarter⟩ := bind_eq_ok.mp hperiod
  obtain ⟨-, -, h⟩ := bind_eq_ok.mp h
  rw [filter_map_rows (matrixItem query) fun _ => rfl] at h
  obtain rfl := Except.ok.inj h
  refine ⟨check_eq_ok.mp hquarter, rfl, ?_⟩
  rw [List.map_map]
  rfl

/-! ## The manifest of the register -/

theorem mem_of_registerAssessment (h : registerAssessment query issuance = some assessment) :
    assessment ∈ issuance.assessments ∧ assessment.year = query.year ∧
      (assessment.quarter = none ∨ assessment.quarter = some query.quarter) := by
  unfold registerAssessment latestQuarter at h
  have hmem := (List.mergeSort_perm _ _).mem_iff.mp (List.mem_of_head? h)
  simpa using List.mem_filter.mp hmem

theorem registerManifestExact_of_ok {report : RegisterReport} (h : generateRegisterReport query db = .ok report) :
    RegisterManifestExact db report := by
  obtain ⟨selected, hselected, hmanifest, hsections⟩ := generateRegisterReport_eq_ok h
  intro issuance hissuance assessment hassessment
  rw [hmanifest]
  constructor
  · rintro ⟨entry, hentry, hid⟩
    obtain ⟨item, hitem, rfl⟩ := List.mem_map.mp hentry
    have hnamed : (manifestAssessment query item).map (·.id) = some assessment.id := hid
    rw [manifestAssessment_eq, Option.map_eq_some_iff] at hnamed
    obtain ⟨named, hnamed, hid⟩ := hnamed
    obtain ⟨rfl, rfl⟩ := same_of_id hissuance hassessment (mem_of_mem_shown (hselected item hitem))
      (mem_of_registerAssessment hnamed).1 hid
    obtain ⟨table, htable, hrow⟩ := (hsections (registerItem query item)).mpr (List.mem_map.mpr ⟨item, hitem, rfl⟩)
    exact ⟨table, htable, registerItem query item, hrow, rfl, hnamed⟩
  · rintro ⟨table, htable, row, hrow, rfl, hfilled⟩
    obtain ⟨item, hitem, rfl⟩ := List.mem_map.mp ((hsections row).mp ⟨table, htable, hrow⟩)
    have hfilled : registerAssessment query item = some assessment := hfilled
    refine ⟨_, List.mem_map.mpr ⟨item, hitem, rfl⟩, ?_⟩
    show (manifestAssessment query item).map (·.id) = some assessment.id
    rw [manifestAssessment_eq, hfilled]
    rfl

/-! ## The manifest of the matrix -/

theorem quarterlyAssessment_eq_some {quarter : Int} (h : quarterlyAssessment query issuance quarter = some assessment) :
    assessment ∈ issuance.assessments ∧ assessment.year = query.year ∧ assessment.quarter = some quarter := by
  unfold quarterlyAssessment quarterlyEntries at h
  have hmem := List.mem_filter.mp (List.mem_of_getLast? h)
  have hyear := (List.mem_filter.mp hmem.1).2
  rw [Bool.and_eq_true, decide_eq_true_eq] at hyear
  exact ⟨(List.mem_filter.mp hmem.1).1, hyear.1, by simpa using hmem.2⟩

/-- Each quarterly assessment of the year has one that stands in its column. -/
theorem exists_quarterlyAssessment {quarter : Int} (hmem : assessment ∈ issuance.assessments)
    (hyear : assessment.year = query.year) (hquarter : assessment.quarter = some quarter) (hone : 1 ≤ quarter)
    (hfour : quarter ≤ 4) : ∃ last, quarterlyAssessment query issuance quarter = some last := by
  have hentry : assessment ∈ (quarterlyEntries query issuance).filter fun entry => entry.quarter = some quarter := by
    refine List.mem_filter.mpr ⟨List.mem_filter.mpr ⟨hmem, ?_⟩, by simp [hquarter]⟩
    simp [hyear, hquarter, hone, hfour]
  unfold quarterlyAssessment
  exact ⟨_, List.getLast?_eq_getLast_of_ne_nil (List.ne_nil_of_mem hentry)⟩

theorem listed_of_fillsColumn (hone : 1 ≤ query.quarter) (h : FillsColumn query issuance assessment) :
    assessment.year = query.year ∧ assessment.quarter.getD 0 ≤ query.quarter := by
  obtain ⟨quarter, -, -, hshown, hlast, -⟩ := h
  obtain ⟨-, hyear, hquarter⟩ := quarterlyAssessment_eq_some hlast
  refine ⟨hyear, ?_⟩
  rw [hquarter]
  unfold isShownQuarter at hshown
  simp at hshown ⊢
  omega

/-- All the assessments of the year up to the quarter fill a column exactly where there is one a quarter. -/
theorem oneEachQuarter_iff (hquarter : query.quarter ≤ 4) : OneEachQuarter query issuance ↔
    ∀ assessment ∈ issuance.assessments, assessment.year = query.year →
      assessment.quarter.getD 0 ≤ query.quarter → FillsColumn query issuance assessment := by
  constructor
  · intro h assessment hmem hyear hlisted
    obtain ⟨hone, hstatus, hunique⟩ := h assessment hmem hyear hlisted
    cases hq : assessment.quarter with
    | none => simp [hq] at hone
    | some quarter =>
      rw [hq, Option.getD_some] at hone hlisted
      obtain ⟨last, hlast⟩ := exists_quarterlyAssessment hmem hyear hq hone (by omega)
      obtain ⟨hlmem, hlyear, hlquarter⟩ := quarterlyAssessment_eq_some hlast
      obtain rfl := hunique last hlmem hlyear (hlquarter.trans hq.symm)
      exact ⟨quarter, hone, by omega, by simp [isShownQuarter, hlisted], hlast, hstatus⟩
  · intro h assessment hmem hyear hlisted
    obtain ⟨quarter, hone, -, -, hlast, hstatus⟩ := h assessment hmem hyear hlisted
    obtain ⟨-, -, hquarter⟩ := quarterlyAssessment_eq_some hlast
    refine ⟨by simpa [hquarter] using hone, hstatus, ?_⟩
    intro other hother hoyear hoquarter
    obtain ⟨quarter', -, -, -, hlast', -⟩ := h other hother hoyear (by rw [hoquarter]; exact hlisted)
    obtain ⟨-, -, hquarter'⟩ := quarterlyAssessment_eq_some hlast'
    have hsame : quarter' = quarter := by
      rw [hoquarter, hquarter] at hquarter'
      exact (Option.some.inj hquarter').symm
    rw [hsame, hlast] at hlast'
    exact (Option.some.inj hlast').symm

theorem matrixManifestExact_iff {report : MatrixReport} (h : generateMonitoringMatrixReport query db = .ok report) :
    MatrixManifestExact query db report ↔ ∀ issuance ∈ shownIssuances query db, OneEachQuarter query issuance := by
  obtain ⟨⟨hone, hfour⟩, hrows, hmanifest⟩ := generateMonitoringMatrixReport_eq_ok h
  have hlisted : ∀ issuance ∈ db.issuances, ∀ assessment ∈ issuance.assessments,
      (∃ entry ∈ report.source_manifest, assessment.id ∈ entry.assessment_ids) ↔ issuance ∈ shownIssuances query db ∧
        assessment.year = query.year ∧ assessment.quarter.getD 0 ≤ query.quarter := by
    intro issuance hissuance assessment hassessment
    rw [hmanifest]
    constructor
    · rintro ⟨entry, hentry, hid⟩
      obtain ⟨item, hitem, rfl⟩ := List.mem_map.mp hentry
      obtain ⟨named, hnamed, hid⟩ := List.mem_map.mp hid
      obtain ⟨hnamed, hof⟩ := List.mem_filter.mp hnamed
      obtain ⟨rfl, rfl⟩ := same_of_id hissuance hassessment (mem_of_mem_shown hitem) hnamed hid
      exact ⟨hitem, by simpa using hof⟩
    · rintro ⟨hshown, hyear, hquarter⟩
      refine ⟨_, List.mem_map.mpr ⟨issuance, hshown, rfl⟩, List.mem_map.mpr ⟨assessment, ?_, rfl⟩⟩
      exact List.mem_filter.mpr ⟨hassessment, by simp [hyear, hquarter]⟩
  have hshown : ∀ issuance, (∃ item ∈ report.rows, item.issuance = issuance) ↔ issuance ∈ shownIssuances query db := by
    intro issuance
    rw [hrows]
    constructor
    · rintro ⟨item, hitem, rfl⟩
      obtain ⟨shown, hshown, rfl⟩ := List.mem_map.mp hitem
      exact hshown
    · intro hshown
      exact ⟨_, List.mem_map.mpr ⟨issuance, hshown, rfl⟩, rfl⟩
  constructor
  · intro hexact issuance hissuance
    refine (oneEachQuarter_iff hfour).mpr ?_
    intro assessment hassessment hyear hquarter
    have hmem := mem_of_mem_shown hissuance
    obtain ⟨-, -, -, hfills⟩ := (hexact issuance hmem assessment hassessment).mp
      ((hlisted issuance hmem assessment hassessment).mpr ⟨hissuance, hyear, hquarter⟩)
    exact hfills
  · intro heach issuance hissuance assessment hassessment
    rw [hlisted issuance hissuance assessment hassessment]
    constructor
    · rintro ⟨hmem, hyear, hquarter⟩
      obtain ⟨item, hitem, hof⟩ := (hshown issuance).mpr hmem
      exact ⟨item, hitem, hof, (oneEachQuarter_iff hfour).mp (heach issuance hmem) assessment hassessment hyear hquarter⟩
    · rintro ⟨item, hitem, hof, hfills⟩
      exact ⟨(hshown issuance).mp ⟨item, hitem, hof⟩, listed_of_fillsColumn hone hfills⟩

/-! ## The status for the queried quarter -/

theorem le_of_latestQuarter {entries : List IssuanceAssessment} (h : latestQuarter entries = some assessment)
    (hentry : entry ∈ entries) : entry.quarter.getD 0 ≤ assessment.quarter.getD 0 := by
  unfold latestQuarter at h
  have hsorted : (entries.mergeSort fun a b => b.quarter.getD 0 ≤ a.quarter.getD 0).Pairwise fun a b =>
      decide (b.quarter.getD 0 ≤ a.quarter.getD 0) = true :=
    List.pairwise_mergeSort (by simp only [decide_eq_true_eq]; omega)
      (by simp only [Bool.or_eq_true, decide_eq_true_eq]; omega) entries
  obtain ⟨rest, hrest⟩ : ∃ rest, entries.mergeSort (fun a b => b.quarter.getD 0 ≤ a.quarter.getD 0) = assessment :: rest := by
    cases hsort : entries.mergeSort (fun a b => b.quarter.getD 0 ≤ a.quarter.getD 0) with
    | nil => simp [hsort] at h
    | cons first rest =>
      rw [hsort, List.head?_cons] at h
      exact ⟨rest, by rw [Option.some.inj h]⟩
  have hmem := (List.mergeSort_perm entries fun a b => b.quarter.getD 0 ≤ a.quarter.getD 0).mem_iff.mpr hentry
  rw [hrest] at hsorted hmem
  rcases List.mem_cons.mp hmem with rfl | hmem
  · exact Int.le_refl _
  · simpa using (List.pairwise_cons.mp hsorted).1 entry hmem

/-- The assessment of the quarter itself comes before an annual one. -/
theorem registerAssessment_of_quarter (hone : 1 ≤ query.quarter) (heach : OneEachQuarter query issuance)
    (hmem : assessment ∈ issuance.assessments) (hyear : assessment.year = query.year)
    (hquarter : assessment.quarter = some query.quarter) : registerAssessment query issuance = some assessment := by
  have hentry : assessment ∈ issuance.assessments.filter fun entry =>
      entry.year = query.year && (entry.quarter = none || entry.quarter = some query.quarter) :=
    List.mem_filter.mpr ⟨hmem, by simp [hyear, hquarter]⟩
  obtain ⟨first, hfirst⟩ : ∃ first, registerAssessment query issuance = some first := by
    unfold registerAssessment latestQuarter
    rw [← Option.isSome_iff_exists, List.isSome_head?]
    refine List.ne_nil_of_mem ((List.mergeSort_perm _ _).mem_iff.mpr hentry)
  have hle := le_of_latestQuarter hfirst hentry
  obtain ⟨hfmem, hfyear, hfquarter⟩ := mem_of_registerAssessment hfirst
  have hsame : first.quarter = assessment.quarter := by
    rcases hfquarter with hnone | hsome
    · rw [hnone, hquarter] at hle
      simp at hle
      omega
    · rw [hsome, hquarter]
  obtain ⟨-, -, hunique⟩ := heach assessment hmem hyear (by rw [hquarter]; exact Int.le_refl _)
  rw [hfirst, hunique first hfmem hfyear hsame]

theorem status_matrixItem {quarter : Int} (hone : 1 ≤ quarter) (hfour : quarter ≤ 4) :
    (matrixItem query issuance).status quarter = quarterStatus query issuance quarter := by
  obtain rfl | rfl | rfl | rfl : quarter = 1 ∨ quarter = 2 ∨ quarter = 3 ∨ quarter = 4 := by omega
  all_goals rfl

theorem statusesShown_of_oneEachQuarter {register : RegisterReport} {matrix : MatrixReport}
    (hregister : generateRegisterReport query db = .ok register)
    (hmatrix : generateMonitoringMatrixReport query db = .ok matrix)
    (heach : ∀ issuance ∈ shownIssuances query db, OneEachQuarter query issuance) :
    StatusesShown query db register matrix := by
  obtain ⟨⟨hone, hfour⟩, hrows, -⟩ := generateMonitoringMatrixReport_eq_ok hmatrix
  obtain ⟨selected, hselected, -, hsections⟩ := generateRegisterReport_eq_ok hregister
  intro issuance _ assessment hmem hyear hquarter
  constructor
  · rintro table htable item hitem rfl
    obtain ⟨shown, hshown, rfl⟩ := List.mem_map.mp ((hsections item).mp ⟨table, htable, hitem⟩)
    have hfilled := registerAssessment_of_quarter hone (heach shown (hselected shown hshown)) hmem hyear hquarter
    simp [RegisterItem.compliance_status, registerItem, hfilled]
  · intro item hitem hof
    rw [hrows] at hitem
    obtain ⟨shown, hshown, rfl⟩ := List.mem_map.mp hitem
    obtain rfl : shown = issuance := hof
    obtain ⟨-, hstatus, hunique⟩ := heach shown hshown assessment hmem hyear (by rw [hquarter]; exact Int.le_refl _)
    obtain ⟨last, hlast⟩ := exists_quarterlyAssessment hmem hyear hquarter hone hfour
    obtain ⟨hlmem, hlyear, hlquarter⟩ := quarterlyAssessment_eq_some hlast
    obtain rfl := hunique last hlmem hlyear (hlquarter.trans hquarter.symm)
    rw [status_matrixItem hone hfour]
    simp [quarterStatus, isShownQuarter, hlast, orText, Option.filter, hstatus]

/-- The manifests list what the reports have used, and the reports agree on the queried quarter, exactly where the
issuances in scope have one assessment a quarter up to it, and no annual one. -/
theorem manifests_list_what_is_used (query : ReportQuery) (db : ReportDb) (register : RegisterReport)
    (matrix : MatrixReport) (hregister : generateRegisterReport query db = .ok register)
    (hmatrix : generateMonitoringMatrixReport query db = .ok matrix) :
    (RegisterManifestExact db register ∧ MatrixManifestExact query db matrix ∧ StatusesShown query db register matrix) ↔
      ∀ issuance ∈ shownIssuances query db, OneEachQuarter query issuance := by
  constructor
  · rintro ⟨-, hexact, -⟩
    exact (matrixManifestExact_iff hmatrix).mp hexact
  · intro heach
    exact ⟨registerManifestExact_of_ok hregister, (matrixManifestExact_iff hmatrix).mpr heach,
      statusesShown_of_oneEachQuarter hregister hmatrix heach⟩

end

theorem exists_of_isOk {ε α : Type} {x : Except ε α} (h : x.isOk = true) : ∃ a, x = .ok a := by
  cases x with
  | error e => cases h
  | ok a => exact ⟨a, rfl⟩

/-- A circular with an assessment for 2026 and one for its first quarter. -/
def assessedCircular : ReportDb where
  issuances := [{ id := 1, issuance_number := "MC-4", title := "Records retention", assessments :=
    [{ id := 10, year := 2026, status := "partial" }, { id := 11, year := 2026, quarter := some 1, status := "compliant" }] }]

def firstQuarter : ReportQuery := { year := 2026, quarter := 1 }

/-- The manifest of the matrix lists the assessment for the year, and no column shows it. -/
theorem annual_assessment_is_listed : ¬ ∀ (query : ReportQuery) (db : ReportDb) (register : RegisterReport)
    (matrix : MatrixReport), generateRegisterReport query db = .ok register →
    generateMonitoringMatrixReport query db = .ok matrix →
      RegisterManifestExact db register ∧ MatrixManifestExact query db matrix ∧ StatusesShown query db register matrix := by
  intro h
  obtain ⟨register, hregister⟩ := exists_of_isOk (x := generateRegisterReport firstQuarter assessedCircular)
    (by decide +kernel)
  obtain ⟨matrix, hmatrix⟩ := exists_of_isOk (x := generateMonitoringMatrixReport firstQuarter assessedCircular)
    (by decide +kernel)
  have heach := (matrixManifestExact_iff hmatrix).mp (h _ _ _ _ hregister hmatrix).2.1
  exact absurd heach (by decide +kernel)

/-- The circular without the assessment for the year. -/
def quarterlyCircular : ReportDb where
  issuances := [{ id := 1, issuance_number := "MC-4", title := "Records retention", assessments :=
    [{ id := 11, year := 2026, quarter := some 1, status := "compliant" }] }]

theorem quarterly_assessment_is_listed : ∃ register matrix,
    generateRegisterReport firstQuarter quarterlyCircular = .ok register ∧
    generateMonitoringMatrixReport firstQuarter quarterlyCircular = .ok matrix ∧
    RegisterManifestExact quarterlyCircular register ∧ MatrixManifestExact firstQuarter quarterlyCircular matrix ∧
    StatusesShown firstQuarter quarterlyCircular register matrix := by
  obtain ⟨register, hregister⟩ := exists_of_isOk (x := generateRegisterReport firstQuarter quarterlyCircular)
    (by decide +kernel)
  obtain ⟨matrix, hmatrix⟩ := exists_of_isOk (x := generateMonitoringMatrixReport firstQuarter quarterlyCircular)
    (by decide +kernel)
  exact ⟨register, matrix, hregister, hmatrix, (manifests_list_what_is_used firstQuarter quarterlyCircular register matrix
    hregister hmatrix).mpr (by decide +kernel)⟩

end ComplianceHub.Mov
