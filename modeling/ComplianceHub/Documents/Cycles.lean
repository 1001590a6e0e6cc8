import ComplianceHub.Documents.Upload
import ComplianceHub.Lib.Rows
import ComplianceHub.Lib.Run
import Mathlib.Logic.Function.Basic

/-!
# One submission for each cycle

* `Cycle`, `submittedCycle` : what an upload reports on, and the canonical suffix of its period;
* `Submissions` : the tables, with the cycle of each document;
* `lookedUp` : the document that the duplicate check finds;
* `uploadDocument_eq_ok` : what an accepted upload of a focal writes;
* `one_live_submission_per_cycle` : no cycle has two live submissions exactly where every accepted upload finds those of
  its cycle;
* `two_spellings_of_january` : a month is submitted twice.
-/

namespace ComplianceHub.Documents

open ComplianceHub.Lib

variable {s : Services} {db db' : DocumentDb} {dto : UploadDocumentDto} {filed : Submission}

/-! ## The cycle of an upload -/

/-- What is reported on: the document type of an assignment, or a report type. -/
inductive Reported where
  | assignment (document_type : String)
  | reportType (id : Nat)
deriving DecidableEq, Repr

structure Cycle where
  reported : Reported
  suffix : String
deriving DecidableEq, Repr

/-- The canonical suffix of an assignment; a custom frequency has none. -/
def canonicalSuffix (assignment : DocumentAssignment) (period year : Option String) : Option String :=
  if assignment.submission_frequency = .custom then none
  else (assignmentSuffix assignment.submission_frequency period year).toOption

def submittedCycle (s : Services) (db : DocumentDb) (dto : UploadDocumentDto) : Option Cycle :=
  match dto.reportId with
  | none => do
    let assignment ← activeAssignment s db dto.normalized
    let suffix ← canonicalSuffix assignment dto.period dto.year
    pure ⟨.assignment assignment.document_type, suffix⟩
  | some id => do
    let type ← (reportType db id).toOption
    pure ⟨.reportType id, reportSuffix s dto type⟩

/-- The tables, and the cycles of the documents. Nothing reads the cycles. -/
structure Submissions where
  db : DocumentDb
  cycleOf : Nat → Option Cycle

/-! ## What an accepted upload writes -/

/-- The document that the duplicate check finds. -/
def lookedUp (s : Services) (db : DocumentDb) (dto : UploadDocumentDto) : Option Document :=
  match dto.reportId with
  | none => existingSubmission s db dto.normalized
  | some _ => (submission s db dto).toOption.bind fun filed => existingReportorial s db dto filed

/-- The tables without the document that an upload replaces. -/
def withoutReplaced (existing : Option Document) (db : DocumentDb) : DocumentDb :=
  match existing with
  | none => db
  | some document => db.softDelete document.id

theorem replaceReturned_eq (existing : Option Document) (h : replaceReturned existing db = .ok () db') :
    db' = withoutReplaced existing db := by
  rcases replaceReturned_eq_ok h with ⟨rfl, hsame⟩ | ⟨document, rfl, -, hdeleted⟩
  · exact hsame
  · exact hdeleted

theorem validateFocalSubmission_eq_ok (h : validateFocalSubmission s dto db = .ok () db') :
    db' = withoutReplaced (existingSubmission s db dto) db := by
  obtain ⟨assignment, -, h⟩ := reads_bind_eq_ok (f := fun db => assignmentOf s db dto) h
  obtain ⟨existing, hexisting, h⟩ := reads_bind_eq_ok (f := fun db => .ok (existingSubmission s db dto)) h
  obtain ⟨_, db₁, hreplaced, h⟩ := returned_bind h
  obtain ⟨-, hsame⟩ := reads_eq_ok h
  cases hexisting
  rw [hsame]
  exact replaceReturned_eq _ hreplaced

theorem storeDocument_eq_ok (h : storeDocument s dto filed db = .ok () db') : db' = putDocument s dto filed db := by
  obtain ⟨_, -, h⟩ := reads_bind_eq_ok (f := fun _ => assertFits s dto filed) h
  cases h
  rfl

theorem replaceReportorial_eq_ok (hfocal : s.isFocal dto.user_role = true)
    (h : replaceReportorial s dto filed db = .ok () db') :
    db' = if dto.reportId = none then db else withoutReplaced (existingReportorial s db dto filed) db := by
  unfold replaceReportorial at h
  by_cases hnone : dto.reportId = none
  · rw [if_neg fun hboth => hboth.2 hnone] at h
    rw [if_pos hnone]
    cases h
    rfl
  · rw [if_pos ⟨hfocal, hnone⟩] at h
    rw [if_neg hnone]
    obtain ⟨existing, hexisting, h⟩ := reads_bind_eq_ok (f := fun db => .ok (existingReportorial s db dto filed)) h
    cases hexisting
    exact replaceReturned_eq _ h

/-- A focal's upload replaces the document that it has looked up. -/
theorem uploadDocument_eq_ok (hfocal : s.isFocal dto.user_role = true) (h : uploadDocument s dto db = .ok () db') :
    ∃ filed, db' = putDocument s dto filed (withoutReplaced (lookedUp s db dto) db) := by
  obtain ⟨_, -, h⟩ := reads_bind_eq_ok (f := fun _ => assertValidFile dto.file) h
  obtain ⟨_, db₁, hvalidated, h⟩ := returned_bind h
  obtain ⟨filed, hfiled, h⟩ := reads_bind_eq_ok (f := fun db => submission s db dto) h
  obtain ⟨_, db₂, hreplaced, h⟩ := returned_bind h
  refine ⟨filed, ?_⟩
  rw [storeDocument_eq_ok h, replaceReportorial_eq_ok hfocal hreplaced]
  unfold validateSubmission at hvalidated
  unfold lookedUp
  cases hreport : dto.reportId with
  | none =>
    rw [if_pos ⟨hfocal, hreport⟩] at hvalidated
    rw [if_pos rfl, validateFocalSubmission_eq_ok hvalidated]
  | some id =>
    rw [if_neg fun hboth : IsFocalSubmission s dto => Option.some_ne_none id (hreport.symm.trans hboth.2)] at hvalidated
    cases hvalidated
    rw [if_neg (Option.some_ne_none id), hfiled]
    rfl

/-! ## Submissions -/

/-- What happens: an accepted upload of a focal, a deletion, or the other tables change. -/
inductive SubmissionEvent where
  | upload (s : Services) (dto : UploadDocumentDto)
  | softDelete (id : Nat)
  | tables (versions : List DocumentVersion) (reviews : List ManualReview) (assignments : List DocumentAssignment)
      (reportorialDocTypes : List ReportorialDocumentType)

inductive SubmissionStep (f : Submissions) : SubmissionEvent → Submissions → Prop
  | upload {s : Services} {dto : UploadDocumentDto} {db' : DocumentDb} : s.isFocal dto.user_role = true →
      uploadDocument s dto f.db = .ok () db' →
      SubmissionStep f (.upload s dto)
        { db := db', cycleOf := Function.update f.cycleOf f.db.nextId (submittedCycle s f.db dto) }
  | softDelete (id : Nat) : SubmissionStep f (.softDelete id) { f with db := f.db.softDelete id }
  | tables (versions : List DocumentVersion) (reviews : List ManualReview) (assignments : List DocumentAssignment)
      (reportorialDocTypes : List ReportorialDocumentType) :
      SubmissionStep f (.tables versions reviews assignments reportorialDocTypes)
        { f with db := { f.db with versions, reviews, assignments, reportorialDocTypes } }

/-- Nothing is submitted yet. -/
def submissions : System Submissions SubmissionEvent where
  init f := f.db.documents = []
  step := SubmissionStep

/-- A live document of an uploader and a unit, submitted for a cycle. -/
structure Covers (f : Submissions) (uploaded_by unit_id : Nat) (cycle : Cycle) (document : Document) : Prop where
  mem : document ∈ f.db.documents
  live : document.is_deleted = false
  uploader : document.uploaded_by = uploaded_by
  unit : document.unit_id = unit_id
  cycle : f.cycleOf document.id = some cycle

/-- No two live documents cover one cycle. -/
def OneLive (f : Submissions) : Prop :=
  ∀ uploaded_by unit_id cycle a b, Covers f uploaded_by unit_id cycle a → Covers f uploaded_by unit_id cycle b → a = b

/-- An upload finds every live document of its cycle. -/
def FindsItsCycle (f : Submissions) : SubmissionEvent → Prop
  | .upload s dto => ∀ cycle document, submittedCycle s f.db dto = some cycle →
      Covers f dto.uploaded_by dto.unit_id cycle document → lookedUp s f.db dto = some document
  | _ => True

/-- Identifiers tell the documents apart, and are given once. -/
structure Numbered (db : DocumentDb) : Prop where
  ids : (db.documents.map Document.id).Nodup
  below : ∀ document ∈ db.documents, document.id < db.nextId

theorem ids_softDelete (db : DocumentDb) (id : Nat) :
    (db.softDelete id).documents.map Document.id = db.documents.map Document.id := by
  unfold DocumentDb.softDelete
  exact map_column_of_change fun _ _ _ => rfl

theorem Numbered.softDelete (h : Numbered db) (id : Nat) : Numbered (db.softDelete id) := by
  refine ⟨?_, fun document hmem => ?_⟩
  · rw [ids_softDelete]
    exact h.ids
  · have hid := List.mem_map_of_mem (f := Document.id) hmem
    rw [ids_softDelete] at hid
    obtain ⟨old, hold, hsame⟩ := List.mem_map.mp hid
    rw [← hsame]
    exact h.below old hold

theorem Numbered.withoutReplaced (h : Numbered db) (existing : Option Document) :
    Numbered (withoutReplaced existing db) := by
  cases existing with
  | none => exact h
  | some document => exact h.softDelete document.id

theorem Numbered.putDocument (h : Numbered db) (s : Services) (dto : UploadDocumentDto) (filed : Submission) :
    Numbered (putDocument s dto filed db) := by
  refine ⟨?_, fun document hmem => ?_⟩
  · exact nodup_ids_concat h.ids h.below
  · show document.id < db.nextId + 2
    rcases List.mem_append.mp hmem with hmem | hmem
    · have hbelow := h.below document hmem
      omega
    · rw [List.mem_singleton.mp hmem]
      show db.nextId < db.nextId + 2
      omega

theorem nextId_withoutReplaced (existing : Option Document) : (withoutReplaced existing db).nextId = db.nextId := by
  cases existing <;> rfl

/-- What is live after a deletion was live, and is not the row that was deleted. -/
theorem mem_softDelete_live {id : Nat} {document : Document} :
    (document ∈ (db.softDelete id).documents ∧ document.is_deleted = false) ↔
      (document ∈ db.documents ∧ document.is_deleted = false) ∧ document.id ≠ id := by
  constructor
  · rintro ⟨hmem, hlive⟩
    obtain ⟨old, hold, rfl⟩ := List.mem_map.mp hmem
    split_ifs at hlive ⊢ with hid
    exact ⟨⟨hold, hlive⟩, hid⟩
  · rintro ⟨⟨hmem, hlive⟩, hid⟩
    have hmapped := List.mem_map_of_mem
      (f := fun row : Document => if row.id = id then { row with is_deleted := true } else row) hmem
    rw [if_neg hid] at hmapped
    exact ⟨hmapped, hlive⟩

theorem mem_withoutReplaced_live (hdb : Numbered db) {existing : Option Document} (hexisting : ∀ row ∈ existing, row ∈ db.documents)
    {document : Document} :
    (document ∈ (withoutReplaced existing db).documents ∧ document.is_deleted = false) ↔
      (document ∈ db.documents ∧ document.is_deleted = false) ∧ existing ≠ some document := by
  cases existing with
  | none => exact ⟨fun h => ⟨h, Option.some_ne_none _ ∘ Eq.symm⟩, fun h => h.1⟩
  | some row =>
    rw [withoutReplaced, mem_softDelete_live]
    refine and_congr_right fun hlive => not_congr ⟨fun hid => ?_, fun hsame => ?_⟩
    · rw [List.inj_on_of_nodup_map hdb.ids hlive.1 (hexisting row rfl) hid]
    · rw [Option.some.inj hsame]

theorem mem_of_lookedUp {document : Document} (h : lookedUp s db dto = some document) : document ∈ db.documents := by
  unfold lookedUp at h
  split at h
  · exact List.mem_of_find?_eq_some h
  · obtain ⟨filed, -, h⟩ := Option.bind_eq_some_iff.mp h
    exact List.mem_of_find?_eq_some h

variable {f f' : Submissions} {uploaded_by unit_id : Nat} {cycle : Cycle} {document : Document}

theorem SubmissionStep.numbered {e : SubmissionEvent} (h : SubmissionStep f e f') (hdb : Numbered f.db) : Numbered f'.db := by
  cases h with
  | upload hfocal haccepted =>
    obtain ⟨filed, rfl⟩ := uploadDocument_eq_ok hfocal haccepted
    exact (hdb.withoutReplaced _).putDocument _ _ filed
  | softDelete id => exact hdb.softDelete id
  | tables _ _ _ _ => exact ⟨hdb.ids, hdb.below⟩

/-- The submissions after an upload. -/
def uploadedTo (f : Submissions) (s : Services) (dto : UploadDocumentDto) (filed : Submission) : Submissions where
  db := putDocument s dto filed (withoutReplaced (lookedUp s f.db dto) f.db)
  cycleOf := Function.update f.cycleOf f.db.nextId (submittedCycle s f.db dto)

/-- After an upload a cycle is covered by the new document, and by those before it that were not replaced. -/
theorem covers_upload (hdb : Numbered f.db) (filed : Submission) :
    Covers (uploadedTo f s dto filed) uploaded_by unit_id cycle document ↔
      (Covers f uploaded_by unit_id cycle document ∧ lookedUp s f.db dto ≠ some document) ∨
        (document = uploaded s dto filed f.db.nextId ∧ dto.uploaded_by = uploaded_by ∧ dto.unit_id = unit_id ∧
          submittedCycle s f.db dto = some cycle) := by
  have hreplaced := fun row (h : row ∈ lookedUp s f.db dto) => mem_of_lookedUp h
  have hold : ∀ row ∈ f.db.documents, Function.update f.cycleOf f.db.nextId (submittedCycle s f.db dto) row.id =
      f.cycleOf row.id := fun row hrow => Function.update_of_ne (hdb.below row hrow).ne _ _
  constructor
  · rintro ⟨hmem, hlive, huploader, hunit, hcycle⟩
    rcases List.mem_append.mp hmem with hmem | hmem
    · obtain ⟨⟨hbefore, -⟩, hother⟩ := (mem_withoutReplaced_live hdb hreplaced).mp ⟨hmem, hlive⟩
      exact .inl ⟨⟨hbefore, hlive, huploader, hunit, (hold document hbefore).symm.trans hcycle⟩, hother⟩
    · have hnew := List.mem_singleton.mp hmem
      rw [nextId_withoutReplaced] at hnew
      subst hnew
      refine .inr ⟨rfl, huploader, hunit, ?_⟩
      rw [← hcycle]
      exact (Function.update_self f.db.nextId (submittedCycle s f.db dto) f.cycleOf).symm
  · rintro (⟨⟨hmem, hlive, huploader, hunit, hcycle⟩, hother⟩ | ⟨rfl, huploader, hunit, hcycle⟩)
    · have hstays := ((mem_withoutReplaced_live hdb hreplaced).mpr ⟨⟨hmem, hlive⟩, hother⟩).1
      exact ⟨List.mem_append_left _ hstays, hlive, huploader, hunit, (hold document hmem).trans hcycle⟩
    · refine ⟨List.mem_append_right _ ?_, rfl, huploader, hunit, ?_⟩
      · rw [nextId_withoutReplaced]
        exact List.mem_singleton_self _
      · rw [← hcycle]
        exact Function.update_self f.db.nextId (submittedCycle s f.db dto) f.cycleOf

theorem finds_of_oneLive (hdb : Numbered f.db) (h : OneLive (uploadedTo f s dto filed)) : FindsItsCycle f (.upload s dto) := by
  intro cycle row hcycle hcovers
  by_contra hother
  have hboth := h _ _ cycle row (uploaded s dto filed f.db.nextId)
    ((covers_upload hdb filed).mpr (.inl ⟨hcovers, hother⟩))
    ((covers_upload hdb filed).mpr (.inr ⟨rfl, rfl, rfl, hcycle⟩))
  have hbelow := hdb.below row hcovers.mem
  rw [hboth] at hbelow
  exact lt_irrefl f.db.nextId hbelow

theorem OneLive.upload (hdb : Numbered f.db) (h : OneLive f) (hfinds : FindsItsCycle f (.upload s dto)) :
    OneLive (uploadedTo f s dto filed) := by
  intro uploaded_by unit_id cycle a b ha hb
  rcases (covers_upload hdb filed).mp ha with ⟨hcovers, hother⟩ | ⟨hnew, rfl, rfl, hcycle⟩
  · rcases (covers_upload hdb filed).mp hb with ⟨hcovers', -⟩ | ⟨-, rfl, rfl, hcycle⟩
    · exact h _ _ _ a b hcovers hcovers'
    · exact absurd (hfinds cycle a hcycle hcovers) hother
  · rcases (covers_upload hdb filed).mp hb with ⟨hcovers, hother⟩ | ⟨hnew', -, -, -⟩
    · exact absurd (hfinds cycle b hcycle hcovers) hother
    · exact hnew.trans hnew'.symm

theorem OneLive.softDelete (h : OneLive f) (id : Nat) : OneLive { f with db := f.db.softDelete id } := by
  intro uploaded_by unit_id cycle a b ha hb
  have hbefore : ∀ row, Covers { f with db := f.db.softDelete id } uploaded_by unit_id cycle row →
      Covers f uploaded_by unit_id cycle row := by
    rintro row ⟨hmem, hlive, huploader, hunit, hcycle⟩
    exact ⟨(mem_softDelete_live.mp ⟨hmem, hlive⟩).1.1, hlive, huploader, hunit, hcycle⟩
  exact h _ _ _ a b (hbefore a ha) (hbefore b hb)

theorem SubmissionStep.oneLive {e : SubmissionEvent} (hstep : SubmissionStep f e f') (hdb : Numbered f.db) (h : OneLive f)
    (hfinds : FindsItsCycle f e) : OneLive f' := by
  cases hstep with
  | upload hfocal haccepted =>
    obtain ⟨filed, rfl⟩ := uploadDocument_eq_ok hfocal haccepted
    exact h.upload hdb hfinds
  | softDelete id => exact h.softDelete id
  | tables _ _ _ _ =>
    intro uploaded_by unit_id cycle a b ha hb
    refine h uploaded_by unit_id cycle a b ?_ ?_
    · exact ⟨ha.mem, ha.live, ha.uploader, ha.unit, ha.cycle⟩
    · exact ⟨hb.mem, hb.live, hb.uploader, hb.unit, hb.cycle⟩

theorem SubmissionStep.finds {e : SubmissionEvent} (hstep : SubmissionStep f e f') (hdb : Numbered f.db) (h : OneLive f') :
    FindsItsCycle f e := by
  cases hstep with
  | upload hfocal haccepted =>
    obtain ⟨filed, rfl⟩ := uploadDocument_eq_ok hfocal haccepted
    exact finds_of_oneLive hdb h
  | softDelete _ => trivial
  | tables _ _ _ _ => trivial

/-! ## Runs -/

theorem numbered_of_run {history : List (Transition Submissions SubmissionEvent)} (h : Run submissions history f) :
    Numbered f.db := by
  refine Run.always (I := fun f => Numbered f.db) (P := fun _ => True) ?_ ?_ h fun _ _ => trivial
  · intro f hnone
    refine ⟨?_, ?_⟩ <;> simp [show f.db.documents = [] from hnone]
  · intro a e b ha hstep _
    exact SubmissionStep.numbered hstep ha

theorem oneLive_of_run {history : List (Transition Submissions SubmissionEvent)} (h : Run submissions history f)
    (hmeets : ∀ e ∈ history, FindsItsCycle e.before e.label) : OneLive f := by
  refine (Run.always (I := fun f => Numbered f.db ∧ OneLive f) ?_ ?_ h hmeets).2
  · intro f hnone
    refine ⟨numbered_of_run (.init hnone), fun _ _ _ a _ ha _ => ?_⟩
    have hmem := ha.mem
    rw [show f.db.documents = [] from hnone] at hmem
    cases hmem
  · intro a e b ha hstep hfinds
    exact ⟨SubmissionStep.numbered hstep ha.1, SubmissionStep.oneLive hstep ha.1 ha.2 hfinds⟩

/-- **One live submission for each reporting cycle** in every state of a run exactly where every upload finds the live
documents of its cycle. -/
theorem one_live_submission_per_cycle {history : List (Transition Submissions SubmissionEvent)}
    (h : Run submissions history f) :
    (∀ e ∈ history, OneLive e.after) ↔ ∀ e ∈ history, FindsItsCycle e.before e.label := by
  constructor
  · intro hall e he
    obtain ⟨hstep, earlier, hrun, -⟩ := h.reached e he
    exact SubmissionStep.finds hstep (numbered_of_run hrun) (hall e he)
  · intro hfinds e he
    obtain ⟨hstep, earlier, hrun, hpast⟩ := h.reached e he
    have hbefore := oneLive_of_run hrun fun other hother => hfinds other (hpast.subset hother)
    exact SubmissionStep.oneLive hstep (numbered_of_run hrun) hbefore (hfinds e he)

/-! ## Two spellings of a month -/

/-- The submissions after an upload that has returned. -/
def Submissions.after (f : Submissions) (s : Services) (dto : UploadDocumentDto) : Submissions where
  db := leaves (uploadDocument s dto) f.db
  cycleOf := Function.update f.cycleOf f.db.nextId (submittedCycle s f.db dto)

theorem run_upload {history : List (Transition Submissions SubmissionEvent)} (h : Run submissions history f) (s : Services)
    (dto : UploadDocumentDto) (hfocal : s.isFocal dto.user_role = true) (hraises : raises (uploadDocument s dto) f.db = none) :
    Run submissions (history ++ [⟨f, .upload s dto, f.after s dto⟩]) (f.after s dto) := by
  obtain ⟨_, haccepted⟩ := returned_of_raises hraises
  exact h.step (.upload hfocal haccepted)

def noSubmissions : Submissions := ⟨assigned, fun _ => none⟩

/-- The report of a month of 2026, with the period as it is sent. -/
def monthlyReport (originalname period : String) : UploadDocumentDto :=
  { februaryReport originalname with period := some period }

def januarySubmitted : Submissions := noSubmissions.after march2026 (monthlyReport "IR202601.pdf" "01")

/-- The transitions of January's report and another one. -/
def twoReports (report : UploadDocumentDto) : List (Transition Submissions SubmissionEvent) :=
  [⟨noSubmissions, .upload march2026 (monthlyReport "IR202601.pdf" "01"), januarySubmitted⟩,
    ⟨januarySubmitted, .upload march2026 report, januarySubmitted.after march2026 report⟩]

theorem run_twoReports (report : UploadDocumentDto) (hfocal : march2026.isFocal report.user_role = true)
    (hraises : raises (uploadDocument march2026 report) januarySubmitted.db = none) :
    Run submissions (twoReports report) (januarySubmitted.after march2026 report) := by
  have hinit : Run submissions [] noSubmissions := .init rfl
  have hfirst := run_upload hinit march2026 (monthlyReport "IR202601.pdf" "01") (by decide +kernel) (by decide +kernel)
  exact run_upload hfirst march2026 report hfocal hraises

theorem january_and_february : OneLive (januarySubmitted.after march2026 (monthlyReport "IR202602.pdf" "02")) := by
  have hrun := run_twoReports (monthlyReport "IR202602.pdf" "02") (by decide +kernel) (by decide +kernel)
  have hlast : ⟨januarySubmitted, .upload march2026 (monthlyReport "IR202602.pdf" "02"),
      januarySubmitted.after march2026 (monthlyReport "IR202602.pdf" "02")⟩ ∈
        twoReports (monthlyReport "IR202602.pdf" "02") := List.mem_cons_of_mem _ List.mem_cons_self
  refine (one_live_submission_per_cycle hrun).mpr (fun e he => ?_) _ hlast
  rcases List.mem_cons.mp he with rfl | he
  · intro cycle document _ hcovers
    cases hcovers.mem
  · rw [List.mem_singleton.mp he]
    intro cycle document hcycle hcovers
    have hother : ∀ row ∈ januarySubmitted.db.documents, januarySubmitted.cycleOf row.id ≠
        submittedCycle march2026 januarySubmitted.db (monthlyReport "IR202602.pdf" "02") := by
      decide +kernel
    exact absurd (hcovers.cycle.trans hcycle.symm) (hother document hcovers.mem)

def januaryTwice : Submissions := januarySubmitted.after march2026 (monthlyReport "IR202601.pdf" "1")

/-- January is submitted as `01` and as `1`. -/
theorem two_spellings_of_january : ¬ ∀ (history : List (Transition Submissions SubmissionEvent)) (f : Submissions),
    Run submissions history f → OneLive f := by
  intro hall
  have htwo : ∃ a ∈ januaryTwice.db.documents, ∃ b ∈ januaryTwice.db.documents, a ≠ b ∧ a.is_deleted = false ∧
      b.is_deleted = false ∧ a.uploaded_by = b.uploaded_by ∧ a.unit_id = b.unit_id ∧
        januaryTwice.cycleOf a.id = some ⟨.assignment "Incident Report", "202601"⟩ ∧
          januaryTwice.cycleOf b.id = some ⟨.assignment "Incident Report", "202601"⟩ := by
    decide +kernel
  obtain ⟨a, ha, b, hb, hne, hlive, hlive', huploader, hunit, hcycle, hcycle'⟩ := htwo
  have hone : OneLive januaryTwice := hall _ _ (run_twoReports _ (by decide +kernel) (by decide +kernel))
  exact hne (hone _ _ _ a b ⟨ha, hlive, huploader, hunit, hcycle⟩ ⟨hb, hlive', rfl, rfl, hcycle'⟩)

end ComplianceHub.Documents
