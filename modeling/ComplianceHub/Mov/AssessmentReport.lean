import ComplianceHub.Kpi.Dashboard
import ComplianceHub.Lib.Separated
import ComplianceHub.Mov.Snapshots

/-!
# The tables of the assessment report

* `scheduleRow`, `kpiRow` : the rows of the schedule and of the KPI gaps, with pipes between the fields;
* `cells`, `tableRow` : a row read back, and the row of the HTML table;
* `htmlRow_injective` : the cells of an HTML row are in its text;
* `Separable` : fields that a row can hold;
* `cells_carry_their_fields` : which rows come out with each field in its cell.

The text of a number is a parameter.
-/

namespace ComplianceHub.Mov

open ComplianceHub.Lib
open ComplianceHub.Kpi (KpiMaster KpiMonitoring)

/-! ## Rows with pipes -/

/-- A scheduled activity: its title, its status, and the metadata that the report shows. -/
structure ScheduleEntry where
  title : String
  status : String := "draft"
  owner : Option String := none
  due_date : Option String := none
  remarks : Option String := none
deriving DecidableEq, Repr

/-- A monitoring row with its master, and its unit where that is loaded. -/
structure LoadedKpiRow extends KpiMonitoring where
  kpiMaster : Option KpiMaster := none
  unitName : Option String := none
deriving DecidableEq, Repr

def isBelowTarget (row : LoadedKpiRow) : Bool :=
  match row.kpiMaster with
  | none => false
  | some kpi =>
    if kpi.targetValue = 0 then false
    else match kpi.direction with
      | .higher_is_better => row.actualValue < kpi.targetValue
      | .lower_is_better => kpi.targetValue < row.actualValue

def pipeRow (fields : List String) : String := String.join (fields.map fun field => "| " ++ field ++ " ") ++ "|"

/-- What a row of the schedule holds: activity, owner, due date, status, remarks. -/
def scheduleCells (item : ScheduleEntry) : List String :=
  [item.title, orText item.owner "-", orText item.due_date "-", item.status, orText item.remarks "-"]

def scheduleRow (item : ScheduleEntry) : String := pipeRow (scheduleCells item)

section
variable (numberText : Rat → String) (manualRemarks : String → Option String)

/-- The remark that the request gives, for the KPI in the unit or else for the KPI. -/
def overridden (row : LoadedKpiRow) : Option String :=
  let ofUnit := (manualRemarks (toString row.unitId ++ ":" ++ row.kpiMasterCode)).map trim
  let ofKpi := (manualRemarks row.kpiMasterCode).map trim
  (ofUnit.filter (· ≠ "")) <|> (ofKpi.filter (· ≠ ""))

def targetText (row : LoadedKpiRow) : Option String :=
  (row.kpiMaster.filter (·.targetValue ≠ 0)).map fun kpi => numberText kpi.targetValue

/-- What a row of the gaps holds: unit, code, name, actual value, target, remarks. -/
def kpiCells (row : LoadedKpiRow) : List String :=
  [orText row.unitName (toString row.unitId), row.kpiMasterCode, orText (row.kpiMaster.map (·.name)) "-",
    numberText row.actualValue, (targetText numberText row).getD "-",
    (overridden manualRemarks row).getD (orText row.remarks "-")]

def kpiRow (row : LoadedKpiRow) : String := pipeRow (kpiCells numberText manualRemarks row)

end

/-! ## The HTML table -/

def replaceAll (c : Char) (entity : String) (text : String) : String :=
  String.ofList (text.toList.flatMap fun d => if d = c then entity.toList else [d])

def escapeHtml (value : String) : String :=
  replaceAll '\x27' "&#39;" (replaceAll '\x22' "&quot;" (replaceAll '>' "&gt;" (replaceAll '<' "&lt;"
    (replaceAll '&' "&amp;" value))))

/-- The cells of a row: split, trimmed, and without the empty ones. -/
def cells (row : String) : List String :=
  (((row.toList.splitOn '|').map String.ofList).map trim).filter (· ≠ "")

def htmlRow (texts : List String) : String :=
  "<tr>" ++ String.join (texts.map fun text => "<td>" ++ escapeHtml text ++ "</td>") ++ "</tr>"

def tableRow (width : Nat) (row : String) : String :=
  htmlRow ((List.range width).map fun i => orText (cells row)[i]? "-")

/-- The body of the schedule's table. -/
def scheduleTable (schedule : List ScheduleEntry) : String :=
  if schedule.isEmpty then
    "<tr><td>No schedule entries found</td><td>-</td><td>-</td><td>-</td><td>-</td></tr>"
  else String.join ((schedule.map scheduleRow).map (tableRow 5))

/-- The body of the table of KPI gaps. -/
def kpiTable (numberText : Rat → String) (manualRemarks : String → Option String) (rows : List LoadedKpiRow) : String :=
  let below := rows.filter isBelowTarget
  if below.isEmpty then
    "<tr><td>No KPI gaps detected in this period</td><td>-</td><td>-</td><td>-</td><td>-</td><td>-</td></tr>"
  else String.join ((below.map (kpiRow numberText manualRemarks)).map (tableRow 6))

/-! ## What a row should read -/

/-- A trimmed text, or the dash for an empty one. -/
def dashText (text : String) : String := if trim text = "" then "-" else trim text

/-- The fields under the headers of the schedule. -/
def scheduleFields (item : ScheduleEntry) : List String :=
  [item.title, item.owner.getD "", item.due_date.getD "", item.status, item.remarks.getD ""]

/-- The fields under the headers of the gaps. -/
def kpiFields (numberText : Rat → String) (manualRemarks : String → Option String) (row : LoadedKpiRow) : List String :=
  [orText row.unitName (toString row.unitId), row.kpiMasterCode, (row.kpiMaster.map (·.name)).getD "",
    numberText row.actualValue, (targetText numberText row).getD "",
    (overridden manualRemarks row).getD (row.remarks.getD "")]

/-- No field has a pipe in it, and after a blank field come only fields that read as a dash. -/
def Separable (fields : List String) : Prop :=
  (∀ field ∈ fields, '|' ∉ field.toList) ∧
    fields.Pairwise fun before after => trim before = "" → dashText after = "-"

instance (fields : List String) : Decidable (Separable fields) := inferInstanceAs (Decidable (_ ∧ _))

/-! ## Escaped texts -/

/-- What stands for a character in HTML. -/
def entity (c : Char) : List Char :=
  if c = '&' then "&amp;".toList
  else if c = '<' then "&lt;".toList
  else if c = '>' then "&gt;".toList
  else if c = '\x22' then "&quot;".toList
  else if c = '\x27' then "&#39;".toList
  else [c]

/-- The replacements one after the other come to one for each character: none finds what another has put in. -/
theorem toList_escapeHtml (value : String) : (escapeHtml value).toList = value.toList.flatMap entity := by
  unfold escapeHtml replaceAll
  simp only [String.toList_ofList, List.flatMap_assoc]
  apply List.flatMap_congr
  intro c _
  unfold entity
  by_cases hamp : c = '&'
  · subst hamp
    decide
  by_cases hlt : c = '<'
  · subst hlt
    decide
  by_cases hgt : c = '>'
  · subst hgt
    decide
  by_cases hquot : c = '\x22'
  · subst hquot
    decide
  by_cases hapos : c = '\x27'
  · subst hapos
    decide
  simp [hamp, hlt, hgt, hquot, hapos]

/-- No entity begins another. -/
theorem entity_append_inj {c d : Char} {s t : List Char} (h : entity c ++ s = entity d ++ t) : c = d ∧ s = t := by
  unfold entity at h
  split_ifs at h <;> simp at h <;> grind

theorem flatMap_entity_injective {s t : List Char} (h : s.flatMap entity = t.flatMap entity) : s = t := by
  have hne : ∀ c : Char, entity c ≠ [] := by
    intro c
    unfold entity
    split_ifs <;> simp
  induction s generalizing t with
  | nil =>
    cases t with
    | nil => rfl
    | cons d t =>
      have hnil : entity d = [] := (List.append_eq_nil_iff.mp h.symm).1
      exact absurd hnil (hne d)
  | cons c s ih =>
    cases t with
    | nil =>
      have hnil : entity c = [] := (List.append_eq_nil_iff.mp h).1
      exact absurd hnil (hne c)
    | cons d t =>
      obtain ⟨rfl, hrest⟩ := entity_append_inj h
      rw [ih hrest]

theorem escapeHtml_injective {value other : String} (h : escapeHtml value = escapeHtml other) : value = other := by
  have hlist := congrArg String.toList h
  rw [toList_escapeHtml, toList_escapeHtml] at hlist
  exact String.toList_inj.mp (flatMap_entity_injective hlist)

/-- No tag begins within an escaped text. -/
theorem lt_notMem_escapeHtml (value : String) : '<' ∉ (escapeHtml value).toList := by
  rw [toList_escapeHtml, List.mem_flatMap]
  rintro ⟨c, -, hc⟩
  unfold entity at hc
  split_ifs at hc
  all_goals
    simp at hc
    try exact absurd hc.symm ‹¬ c = '<'›

/-! ## Rows of the table -/

theorem toList_htmlRow (texts : List String) : (htmlRow texts).toList =
    "<tr>".toList ++ ((texts.map fun text => (escapeHtml text).toList).flatMap
      (fun cell => "<td>".toList ++ (cell ++ '<' :: "/td>".toList)) ++ "</tr>".toList) := by
  unfold htmlRow
  simp [String.toList_join, List.flatMap_map]

/-- The cells of an HTML row are in its text. -/
theorem htmlRow_injective {texts others : List String} (h : htmlRow texts = htmlRow others) : texts = others := by
  have hlist := congrArg String.toList h
  rw [toList_htmlRow, toList_htmlRow, List.append_cancel_left_eq] at hlist
  have hnone : ∀ texts : List String, ∀ cell ∈ texts.map fun text => (escapeHtml text).toList, '<' ∉ cell := by
    intro texts cell hcell
    obtain ⟨text, -, rfl⟩ := List.mem_map.mp hcell
    exact lt_notMem_escapeHtml text
  have hcells := eq_of_tagged (hnone texts) (hnone others) (by simp) hlist
  refine List.map_injective_iff.mpr ?_ hcells
  intro value other hsame
  exact escapeHtml_injective (String.toList_inj.mp hsame)

theorem toList_trim (text : String) : (trim text).toList = strip isSpace text.toList := by
  unfold trim strip
  rw [String.toList_ofList]

theorem toList_pipeRow (fields : List String) : (pipeRow fields).toList = joinRow '|' ' ' (fields.map String.toList) := by
  unfold pipeRow joinRow
  simp [String.toList_join, List.flatMap_map]

theorem toList_cells (row : String) : (cells row).map String.toList = cellsOf '|' isSpace row.toList := by
  have htrim : ∀ part : List Char, (trim (String.ofList part)).toList = strip isSpace part := by
    intro part
    rw [toList_trim, String.toList_ofList]
  unfold cells cellsOf
  rw [List.map_map, List.filter_map, List.filter_map, List.map_map]
  congr 1
  · funext part
    exact htrim part
  · apply List.filter_congr
    intro part _
    simp [← htrim]

theorem orText_cells (row : String) (i : Nat) :
    (orText (cells row)[i]? "-").toList = (cellsOf '|' isSpace row.toList)[i]?.getD "-".toList := by
  rw [← toList_cells, List.getElem?_map]
  cases hget : (cells row)[i]? with
  | none => rfl
  | some cell =>
    have hne : cell ≠ "" := by
      have hmem := List.mem_of_getElem? hget
      unfold cells at hmem
      simpa using (List.mem_filter.mp hmem).2
    simp [orText, Option.filter, hne]

theorem toList_dashText (text : String) : (dashText text).toList = dashed "-".toList (strip isSpace text.toList) := by
  unfold dashText dashed
  rw [← toList_trim]
  by_cases h : trim text = ""
  · rw [if_pos h, h]
    rfl
  · rw [if_neg h, if_neg (by simpa using h)]

/-- A row of pipes is shown with each field in its cell exactly where the fields are separable. -/
theorem tableRow_pipeRow (fields : List String) :
    tableRow fields.length (pipeRow fields) = htmlRow (fields.map dashText) ↔ Separable fields := by
  have hshown : tableRow fields.length (pipeRow fields) = htmlRow (fields.map dashText) ↔
      fill "-".toList (cellsOf '|' isSpace (joinRow '|' ' ' (fields.map String.toList))) fields.length =
        (fields.map String.toList).map fun field => dashed "-".toList (strip isSpace field) := by
    unfold tableRow
    rw [← toList_pipeRow]
    constructor
    · intro h
      have hcells := congrArg (List.map String.toList) (htmlRow_injective h)
      rw [List.map_map, List.map_map] at hcells
      unfold fill
      rw [List.map_map]
      calc (List.range fields.length).map (fun i => (cellsOf '|' isSpace (pipeRow fields).toList)[i]?.getD "-".toList)
          = (List.range fields.length).map (String.toList ∘ fun i => orText (cells (pipeRow fields))[i]? "-") :=
            List.map_congr_left fun i _ => (orText_cells _ i).symm
        _ = fields.map (String.toList ∘ dashText) := hcells
        _ = fields.map ((fun field => dashed "-".toList (strip isSpace field)) ∘ String.toList) :=
            List.map_congr_left fun field _ => toList_dashText field
    · intro h
      congr 1
      apply List.map_injective_iff.mpr fun _ _ => String.toList_inj.mp
      rw [List.map_map, List.map_map]
      calc (List.range fields.length).map (String.toList ∘ fun i => orText (cells (pipeRow fields))[i]? "-")
          = fill "-".toList (cellsOf '|' isSpace (pipeRow fields).toList) fields.length :=
            List.map_congr_left fun i _ => orText_cells _ i
        _ = fields.map ((fun field => dashed "-".toList (strip isSpace field)) ∘ String.toList) := by
            rw [h, List.map_map]
        _ = fields.map (String.toList ∘ dashText) := List.map_congr_left fun field _ => (toList_dashText field).symm
  have hblank : ∀ text : String, strip isSpace text.toList = [] ↔ trim text = "" := by
    intro text
    rw [← toList_trim]
    simp
  rw [hshown, ← List.length_map String.toList,
    fill_cellsOf_joinRow _ (by decide) (by decide) (by decide) (by decide)]
  unfold Separable
  rw [List.pairwise_map]
  simp only [List.forall_mem_map, hblank, ← toList_dashText, String.toList_inj]

theorem dashText_orText (value : Option String) : dashText (orText value "-") = dashText (value.getD "") := by
  cases value with
  | none => decide
  | some text =>
    by_cases h : text = ""
    · rw [h]
      decide
    · simp [orText, Option.filter, h]

theorem map_dashText_scheduleCells (item : ScheduleEntry) :
    (scheduleCells item).map dashText = (scheduleFields item).map dashText := by
  simp [scheduleCells, scheduleFields, dashText_orText]

section
variable (numberText : Rat → String) (manualRemarks : String → Option String)

theorem map_dashText_kpiCells (row : LoadedKpiRow) : (kpiCells numberText manualRemarks row).map dashText =
    (kpiFields numberText manualRemarks row).map dashText := by
  have htarget : dashText ((targetText numberText row).getD "-") = dashText ((targetText numberText row).getD "") := by
    cases targetText numberText row <;> rfl
  have hremark : dashText ((overridden manualRemarks row).getD (orText row.remarks "-")) =
      dashText ((overridden manualRemarks row).getD (row.remarks.getD "")) := by
    cases overridden manualRemarks row with
    | none => exact dashText_orText row.remarks
    | some remark => rfl
  simp [kpiCells, kpiFields, dashText_orText, htarget, hremark]

/-- Each field is in the cell under its header exactly where the row can hold its fields. -/
theorem cells_carry_their_fields :
    (∀ item : ScheduleEntry, tableRow 5 (scheduleRow item) = htmlRow ((scheduleFields item).map dashText) ↔
      Separable (scheduleCells item)) ∧
    (∀ row : LoadedKpiRow, isBelowTarget row = true →
      (tableRow 6 (kpiRow numberText manualRemarks row) =
          htmlRow ((kpiFields numberText manualRemarks row).map dashText) ↔
        Separable (kpiCells numberText manualRemarks row))) := by
  constructor
  · intro item
    rw [← map_dashText_scheduleCells]
    exact tableRow_pipeRow (scheduleCells item)
  · intro row _
    rw [← map_dashText_kpiCells]
    exact tableRow_pipeRow (kpiCells numberText manualRemarks row)

/-- The tables of rows that can hold their fields are the tables of the fields. -/
theorem tables_of_separable {schedule : List ScheduleEntry} {rows : List LoadedKpiRow} (hschedule : schedule ≠ [])
    (hbelow : rows.filter isBelowTarget ≠ []) (hitems : ∀ item ∈ schedule, Separable (scheduleCells item))
    (hrows : ∀ row ∈ rows, isBelowTarget row = true → Separable (kpiCells numberText manualRemarks row)) :
    scheduleTable schedule = String.join (schedule.map fun item => htmlRow ((scheduleFields item).map dashText)) ∧
    kpiTable numberText manualRemarks rows = String.join ((rows.filter isBelowTarget).map fun row =>
      htmlRow ((kpiFields numberText manualRemarks row).map dashText)) := by
  constructor
  · unfold scheduleTable
    rw [if_neg (by simpa using hschedule), List.map_map]
    refine congrArg String.join (List.map_congr_left ?_)
    intro item hitem
    rw [← map_dashText_scheduleCells]
    exact (tableRow_pipeRow (scheduleCells item)).mpr (hitems item hitem)
  · unfold kpiTable
    rw [if_neg (by simpa using hbelow), List.map_map]
    refine congrArg String.join (List.map_congr_left ?_)
    intro row hrow
    obtain ⟨hmem, hbelow⟩ := List.mem_filter.mp hrow
    rw [← map_dashText_kpiCells]
    exact (tableRow_pipeRow (kpiCells numberText manualRemarks row)).mpr (hrows row hmem hbelow)

end

/-- An activity with a pipe in its title. -/
def jointInspection : ScheduleEntry where
  title := "Inspection | North wing"
  owner := some "Records Unit"

/-- A KPI of unit 4 whose name is blank, and whose remark has been left out. -/
def lateReports : LoadedKpiRow where
  id := 1
  kpiMasterCode := "KPI-7"
  unitId := 4
  periodYear := 2026
  periodMonth := 2
  actualValue := 60
  kpiMaster := some { code := "KPI-7", name := " ", targetValue := 90 }

/-- The pipe splits the title, and the blank name is dropped. -/
theorem fields_are_shifted :
    (¬ ∀ item : ScheduleEntry, tableRow 5 (scheduleRow item) = htmlRow ((scheduleFields item).map dashText)) ∧
    ¬ ∀ row : LoadedKpiRow, isBelowTarget row = true →
      tableRow 6 (kpiRow (fun x => toString x.num) (fun _ => none) row) =
        htmlRow ((kpiFields (fun x => toString x.num) (fun _ => none) row).map dashText) := by
  constructor
  · intro h
    exact absurd (h jointInspection) (by decide +kernel)
  · intro h
    exact absurd (h lateReports (by decide +kernel)) (by decide +kernel)

/-- The gap with a name on it. -/
def lateReportsNamed : LoadedKpiRow :=
  { lateReports with kpiMaster := some { code := "KPI-7", name := "Reports on time", targetValue := 90 } }

theorem late_reports_are_shown : tableRow 6 (kpiRow (fun x => toString x.num) (fun _ => none) lateReportsNamed) =
    htmlRow ["4", "KPI-7", "Reports on time", "60", "90", "-"] := by
  have hfields : (kpiFields (fun x => toString x.num) (fun _ => none) lateReportsNamed).map dashText =
      ["4", "KPI-7", "Reports on time", "60", "90", "-"] := by decide +kernel
  rw [← hfields]
  refine ((cells_carry_their_fields (fun x => toString x.num) (fun _ => none)).2 lateReportsNamed ?_).mpr ?_
  · decide +kernel
  · decide +kernel

end ComplianceHub.Mov
