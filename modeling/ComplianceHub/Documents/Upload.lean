import ComplianceHub.Documents.Periods

/-!
# Uploads

* `uploadDocument` : the checks of an upload, and what it writes;
* `validateFocalSubmission` : the checks of a submission of an assignment, in the order of the code;
* `FindsReturned` : the submission has found a returned document of its cycle;
* `rejected_upload_changes_no_document` : an upload that the service rejects leaves the documents alone exactly where it
  has found none;
* `rejected_for_its_name` : a returned document is deleted by an upload with a wrong file name.
-/

namespace ComplianceHub.Documents

open ComplianceHub.Lib
open ComplianceHub.Tickets (Role)

structure UploadDocumentDto where
  title : String
  document_type : String
  period : Option String := none
  year : Option String := none
  unit_id : Nat
  uploaded_by : Nat
  user_role : Role
  file : File
  /-- Optional: a reportorial document type; zero counts as none. -/
  reportorial_doc_type_id : Option Nat := none

def UploadDocumentDto.reportId (dto : UploadDocumentDto) : Option Nat := dto.reportorial_doc_type_id.filter (· ≠ 0)

/-- An upload with its document type trimmed and its blanks collapsed. -/
def UploadDocumentDto.normalized (dto : UploadDocumentDto) : UploadDocumentDto :=
  { dto with document_type := normalizeDocumentType dto.document_type }

/-- `value || fallback` -/
def orText (value : Option String) (fallback : String) : String := ((value.filter (· ≠ "")).getD fallback)

/-- A text that is there and not empty. -/
def isText (value : Option String) : Bool := value.any (· ≠ "")

/-! ## A submission of an assignment -/

def activeAssignment (s : Services) (db : DocumentDb) (dto : UploadDocumentDto) : Option DocumentAssignment :=
  db.assignments.find? fun row => row.user_id = dto.uploaded_by && row.unit_id = dto.unit_id &&
    s.collates row.document_type (normalizeDocumentType dto.document_type) && row.is_active

def assignmentOf (s : Services) (db : DocumentDb) (dto : UploadDocumentDto) : Except HttpException DocumentAssignment :=
  match activeAssignment s db dto with
  | some assignment => .ok assignment
  | none => .error (.badRequest "No active assignment found for this focal user and document type.")

/-- The live document of the uploader with the same type, period and year. -/
def existingSubmission (s : Services) (db : DocumentDb) (dto : UploadDocumentDto) : Option Document :=
  db.documents.find? fun row => row.unit_id = dto.unit_id &&
    s.collates row.document_type (normalizeDocumentType dto.document_type) && s.finds dto.period row.period &&
    s.finds dto.year row.year && row.uploaded_by = dto.uploaded_by && !row.is_deleted

/-- A returned document makes room for its successor; another one is in the way. -/
def replaceReturned (existing : Option Document) : DocumentM Unit :=
  match existing with
  | none => pure ()
  | some existing => do
    reads fun db => check (isReturned db existing.id = true)
      (.conflict "This report type was already submitted for the selected cycle.")
    modify fun db => db.softDelete existing.id

/-- The file of an assignment with a prefix has its name. -/
def assertFileName (assignment : DocumentAssignment) (dto : UploadDocumentDto) : Except HttpException Unit := do
  let expectedBase ← buildExpectedFileBase assignment dto.period dto.year
  check (expectedBase = "" ∨ (withoutExtension (safeName dto.file.originalname)).toUpper = expectedBase)
    (.badRequest ("Invalid file name. Expected " ++ expectedBase ++ ".docx or " ++ expectedBase ++ ".pdf"))

def validateFocalSubmission (s : Services) (dto : UploadDocumentDto) : DocumentM Unit := do
  let assignment ← reads fun db => assignmentOf s db dto
  let existing ← reads fun db => .ok (existingSubmission s db dto)
  replaceReturned existing
  reads fun _ => assertFileName assignment dto

/-! ## A reportorial document -/

/-- What an upload is filed as. -/
structure Submission where
  title : String
  document_type : String
  period : Option String
  year : Option String

/-- The suffix of a reportorial document: of the parts that were sent, or of the current period. -/
def reportSuffix (s : Services) (dto : UploadDocumentDto) (type : ReportorialDocumentType) : String :=
  if isText dto.year && (isText dto.period || type.submission_frequency = .annual) then
    computePeriodSuffixFromParts s type.submission_frequency (dto.year.getD "") (dto.period.getD "")
  else computePeriodSuffix s type.submission_frequency

def reportType (db : DocumentDb) (id : Nat) : Except HttpException ReportorialDocumentType :=
  match db.reportorialDocTypes.find? fun row => decide (row.id = id) with
  | some type => .ok type
  | none => .error (.badRequest "Invalid reportorial document type ID")

/-- `computeExpectedFilename`, with the suffix of its period. -/
def expectedFilename (s : Services) (dto : UploadDocumentDto) (type : ReportorialDocumentType) : String :=
  type.base_name ++ "_" ++ reportSuffix s dto type

def submission (s : Services) (db : DocumentDb) (dto : UploadDocumentDto) : Except HttpException Submission :=
  match dto.reportId with
  | none => .ok {
      title := dto.title
      document_type := normalizeDocumentType dto.document_type
      period := dto.period
      year := some (orText dto.year (toString s.year)) }
  | some id => do
    let type ← reportType db id
    check (withoutExtension (safeName dto.file.originalname) = expectedFilename s dto type)
      (.badRequest ("Invalid filename. Expected \"" ++ expectedFilename s dto type ++ ".docx\" or \"" ++
        expectedFilename s dto type ++ ".pdf\" based on the document type and selected period."))
    pure {
      title := type.display_name
      document_type := type.display_name
      period := some (orText (some (reportSuffix s dto type)) (dto.period.getD ""))
      year := some (orText dto.year (toString s.year)) }

/-- The live document of the uploader with the same report type, period and year. -/
def existingReportorial (s : Services) (db : DocumentDb) (dto : UploadDocumentDto) (filed : Submission) : Option Document :=
  db.documents.find? fun row => row.unit_id = dto.unit_id && row.reportorial_doc_type_id = dto.reportId &&
    s.finds filed.period row.period && s.finds filed.year row.year && row.uploaded_by = dto.uploaded_by && !row.is_deleted

/-! ## An upload -/

/-- The columns hold the texts. -/
def fits (s : Services) (dto : UploadDocumentDto) (filed : Submission) : Bool :=
  filed.title.length ≤ 255 && filed.document_type.length ≤ 100 && filed.period.all (·.length ≤ 20) &&
    filed.year.all (·.length ≤ 4) && (extractInitialText s dto.file).utf8ByteSize ≤ 65535

def uploaded (s : Services) (dto : UploadDocumentDto) (filed : Submission) (id : Nat) : Document where
  id := id
  title := filed.title
  document_type := filed.document_type
  period := filed.period
  year := filed.year
  reportorial_doc_type_id := dto.reportId
  status := if trim (extractInitialText s dto.file) = "" then .pending else .ready
  extracted_text := extractInitialText s dto.file
  unit_id := dto.unit_id
  uploaded_by := dto.uploaded_by

def firstVersion (s : Services) (dto : UploadDocumentDto) (document_id id : Nat) : DocumentVersion where
  id := id
  document_id := document_id
  version_number := 1
  file_name := safeName dto.file.originalname
  checksum := s.calculateChecksum dto.file.buffer
  extracted_text := extractInitialText s dto.file
  uploaded_by := dto.uploaded_by

/-- A new document with its first version. -/
def putDocument (s : Services) (dto : UploadDocumentDto) (filed : Submission) (db : DocumentDb) : DocumentDb :=
  { db with
    documents := db.documents ++ [uploaded s dto filed db.nextId]
    versions := db.versions ++ [firstVersion s dto db.nextId (db.nextId + 1)]
    nextId := db.nextId + 2 }

def assertFits (s : Services) (dto : UploadDocumentDto) (filed : Submission) : Except HttpException Unit :=
  check (fits s dto filed = true) internalError

def storeDocument (s : Services) (dto : UploadDocumentDto) (filed : Submission) : DocumentM Unit := do
  reads fun _ => assertFits s dto filed
  modify (putDocument s dto filed)

/-- The reportorial document of a focal takes the place of a returned one. -/
def replaceReportorial (s : Services) (dto : UploadDocumentDto) (filed : Submission) : DocumentM Unit :=
  if s.isFocal dto.user_role = true ∧ dto.reportId ≠ none then do
    let existing ← reads fun db => .ok (existingReportorial s db dto filed)
    replaceReturned existing
  else pure ()

def fileDocument (s : Services) (dto : UploadDocumentDto) : DocumentM Unit := do
  let filed ← reads fun db => submission s db dto
  replaceReportorial s dto filed
  storeDocument s dto filed

/-- A focal's submission of an assignment. -/
def IsFocalSubmission (s : Services) (dto : UploadDocumentDto) : Prop :=
  s.isFocal dto.user_role = true ∧ dto.reportId = none

instance (s : Services) (dto : UploadDocumentDto) : Decidable (IsFocalSubmission s dto) := by
  unfold IsFocalSubmission
  infer_instance

def validateSubmission (s : Services) (dto : UploadDocumentDto) : DocumentM Unit :=
  if IsFocalSubmission s dto then validateFocalSubmission s dto.normalized else pure ()

def uploadDocument (s : Services) (dto : UploadDocumentDto) : DocumentM Unit := do
  reads fun _ => assertValidFile dto.file
  validateSubmission s dto
  fileDocument s dto

/-! ## A rejected upload -/

/-- A valid file is submitted for an active assignment, and its cycle has a returned document. -/
structure FindsReturned (s : Services) (db : DocumentDb) (dto : UploadDocumentDto) : Prop where
  file : isValidFile dto.file = true
  submission : IsFocalSubmission s dto
  assigned : (activeAssignment s db dto.normalized).isSome = true
  returned : ∃ document, existingSubmission s db dto.normalized = some document ∧ isReturned db document.id = true

variable {s : Services} {db : DocumentDb} {dto : UploadDocumentDto} {filed : Submission} {e : HttpException}

theorem documents_softDelete {document : Document} (hmem : document ∈ db.documents) (hlive : document.is_deleted = false) :
    (db.softDelete document.id).documents ≠ db.documents := by
  intro hsame
  have hrow := List.map_inj_left.mp (hsame.trans (List.map_id _).symm) document hmem
  rw [if_pos rfl] at hrow
  have hdeleted : true = document.is_deleted := congrArg Document.is_deleted hrow
  rw [hlive] at hdeleted
  cases hdeleted

theorem existingSubmission_live {document : Document} (h : existingSubmission s db dto = some document) :
    document ∈ db.documents ∧ document.is_deleted = false := by
  refine ⟨List.mem_of_find?_eq_some h, ?_⟩
  have hfound := List.find?_some h
  simp only [Bool.and_eq_true, Bool.not_eq_true'] at hfound
  exact hfound.2

theorem raised_storeDocument (h : raises (storeDocument s dto filed) db = some e) : e = internalError := by
  rcases raised_reads_bind (f := fun _ => assertFits s dto filed) h with ⟨herror, -⟩ | ⟨_, -, h, -⟩
  · unfold assertFits check at herror
    split_ifs at herror
    exact (Except.error.inj herror).symm
  · cases h

/-- A document that is in the way stays, and one that is returned is deleted. -/
theorem raised_replaceReturned {existing : Option Document} (h : raises (replaceReturned existing) db = some e) :
    (∃ document, existing = some document ∧ isReturned db document.id = false) ∧
      leaves (replaceReturned existing) db = db := by
  cases existing with
  | none => cases h
  | some document =>
    rcases raised_reads_bind (f := fun db => check (isReturned db document.id = true) _) h with ⟨herror, hleaves⟩ | ⟨_, -, h, -⟩
    · refine ⟨⟨document, rfl, ?_⟩, hleaves⟩
      unfold check at herror
      split_ifs at herror with hreturned
      exact Bool.not_eq_true _ ▸ hreturned
    · cases h

theorem replaceReturned_eq_ok {existing : Option Document} {db' : DocumentDb}
    (h : replaceReturned existing db = .ok () db') :
    (existing = none ∧ db' = db) ∨
      ∃ document, existing = some document ∧ isReturned db document.id = true ∧ db' = db.softDelete document.id := by
  cases existing with
  | none =>
    cases h
    exact .inl ⟨rfl, rfl⟩
  | some document =>
    obtain ⟨_, hcheck, hwrite⟩ := reads_bind_eq_ok (f := fun db => check (isReturned db document.id = true) _) h
    cases hwrite
    exact .inr ⟨document, rfl, check_eq_ok.mp hcheck, rfl⟩

/-- A submission that finds a returned document deletes it, and the file name is looked at afterwards. -/
theorem raised_validateFocalSubmission (h : raises (validateFocalSubmission s dto) db = some e) :
    ((activeAssignment s db dto = none ∨
        ∀ document, existingSubmission s db dto = some document → isReturned db document.id = false) ∧
      leaves (validateFocalSubmission s dto) db = db) ∨
      ∃ document, existingSubmission s db dto = some document ∧ isReturned db document.id = true ∧
        (activeAssignment s db dto).isSome = true ∧
          leaves (validateFocalSubmission s dto) db = db.softDelete document.id := by
  rcases raised_reads_bind (f := fun db => assignmentOf s db dto) h with ⟨herror, hleaves⟩ | ⟨assignment, hassigned, h, hleaves⟩
  · left
    refine ⟨.inl ?_, hleaves⟩
    unfold assignmentOf at herror
    split at herror
    · cases herror
    · assumption
  · have hsome : (activeAssignment s db dto).isSome = true := by
      unfold assignmentOf at hassigned
      split at hassigned
      · rw [‹activeAssignment s db dto = _›]
        rfl
      · cases hassigned
    rcases raised_reads_bind (f := fun db => .ok (existingSubmission s db dto)) h with ⟨herror, -⟩ | ⟨existing, hexisting, h, hnext⟩
    · cases herror
    cases hexisting
    rw [hnext] at hleaves
    rcases raised_bind h with ⟨h, hnext⟩ | ⟨_, db', hreplaced, h, hnext⟩
    · left
      obtain ⟨⟨document, hexisting, hreturned⟩, hsame⟩ := raised_replaceReturned h
      refine ⟨.inr fun other hother => ?_, hleaves.trans (hnext.trans hsame)⟩
      cases hexisting.symm.trans hother
      exact hreturned
    · have hend : leaves (reads fun _ => assertFileName assignment dto) db' = db' := leaves_only_reads _ _
      rw [hnext, hend] at hleaves
      rcases replaceReturned_eq_ok hreplaced with ⟨hnone, rfl⟩ | ⟨document, hexisting, hreturned, rfl⟩
      · left
        refine ⟨.inr fun other hother => ?_, hleaves⟩
        rw [hnone] at hother
        cases hother
      · exact .inr ⟨document, hexisting, hreturned, hsome, hleaves⟩

theorem raised_replaceReportorial (h : raises (replaceReportorial s dto filed) db = some e) :
    leaves (replaceReportorial s dto filed) db = db ∧ dto.reportId ≠ none := by
  unfold replaceReportorial at h ⊢
  split_ifs at h ⊢ with hreport
  · rcases raised_reads_bind (f := fun db => .ok (existingReportorial s db dto filed)) h with ⟨herror, -⟩ | ⟨_, -, h, hend⟩
    · cases herror
    · exact ⟨hend.trans (raised_replaceReturned h).2, hreport.2⟩
  · cases h

/-- What comes after the checks of an assignment raises before it writes, or in the database. -/
theorem raised_fileDocument (h : raises (fileDocument s dto) db = some e) (hvalidation : e ≠ internalError) :
    leaves (fileDocument s dto) db = db ∧ ¬ IsFocalSubmission s dto := by
  rcases raised_reads_bind (f := fun db => submission s db dto) h with ⟨herror, hleaves⟩ | ⟨filed, -, h, hleaves⟩
  · refine ⟨hleaves, fun hfocal => ?_⟩
    unfold submission at herror
    rw [hfocal.2] at herror
    cases herror
  · rcases raised_bind h with ⟨h, hnext⟩ | ⟨_, _, -, h, -⟩
    · obtain ⟨hsame, hreport⟩ := raised_replaceReportorial h
      exact ⟨hleaves.trans (hnext.trans hsame), fun hfocal => hreport hfocal.2⟩
    · exact absurd (raised_storeDocument h) hvalidation

/-- **A rejected upload changes no document** exactly where it has not found a returned document for an assignment. -/
theorem rejected_upload_changes_no_document (hraises : raises (uploadDocument s dto) db = some e)
    (hvalidation : e ≠ internalError) :
    (leaves (uploadDocument s dto) db).documents = db.documents ↔ ¬ FindsReturned s db dto := by
  rcases raised_reads_bind (f := fun _ => assertValidFile dto.file) hraises with
    ⟨herror, hleaves⟩ | ⟨_, hvalid, h, hleaves⟩
  · change leaves (uploadDocument s dto) db = db at hleaves
    rw [hleaves]
    refine ⟨fun _ hfinds => ?_, fun _ => rfl⟩
    unfold assertValidFile check at herror
    rw [if_pos hfinds.file] at herror
    cases herror
  · change leaves (uploadDocument s dto) db = _ at hleaves
    rw [hleaves]
    rcases raised_bind h with ⟨h, hnext⟩ | ⟨_, db', hfirst, h, hnext⟩
    · rw [hnext]
      unfold validateSubmission at h ⊢
      split_ifs at h ⊢ with hfocal
      · rcases raised_validateFocalSubmission h with ⟨hnone, hsame⟩ | ⟨document, hexisting, hreturned, hsome, hdeleted⟩
        · rw [hsame]
          refine ⟨fun _ hfinds => ?_, fun _ => rfl⟩
          obtain ⟨document, hexisting, hreturned⟩ := hfinds.returned
          rcases hnone with hnone | hnone
          · have hassigned := hfinds.assigned
            rw [hnone] at hassigned
            cases hassigned
          · rw [hnone document hexisting] at hreturned
            cases hreturned
        · rw [hdeleted]
          obtain ⟨hmem, hlive⟩ := existingSubmission_live hexisting
          refine ⟨fun hsame => absurd hsame (documents_softDelete hmem hlive), fun hnot => absurd ?_ hnot⟩
          exact ⟨check_eq_ok.mp hvalid, hfocal, hsome, document, hexisting, hreturned⟩
      · cases h
    · obtain ⟨hsame, hfocal⟩ := raised_fileDocument h hvalidation
      unfold validateSubmission at hfirst
      rw [if_neg hfocal] at hfirst
      cases hfirst
      rw [hnext, hsame]
      exact ⟨fun _ hfinds => hfocal hfinds.submission, fun _ => rfl⟩

/-! ## A file with a wrong name -/

def march2026 : Services where
  now := 0
  year := 2026
  month := 3
  isFocal role := role = .other "focal"
  collates a b := a = b
  calculateChecksum buffer := toString buffer.length
  extractRawText _ := none

def pdf (originalname : String) : File := ⟨originalname, asciiBytes "%PDF-1.7"⟩

def februaryReport (originalname : String) : UploadDocumentDto where
  title := "Incidents in February"
  document_type := "Incident Report"
  period := some "02"
  year := some "2026"
  unit_id := 5
  uploaded_by := 1
  user_role := .other "focal"
  file := pdf originalname

/-- The focal of a unit with a monthly report. -/
def assigned : DocumentDb where
  assignments := [{ id := 0, user_id := 1, unit_id := 5, document_type := "Incident Report", filename_prefix := some "IR" }]
  nextId := 1

/-- The report has been submitted. -/
def submitted : DocumentDb := leaves (uploadDocument march2026 (februaryReport "IR202602.pdf")) assigned

/-- The report has been returned. -/
def returnedReport : DocumentDb :=
  { submitted with reviews := [{ id := 3, document_id := 1, version_id := 2, decision := .needs_revision, reviewed_at := 0 }] }

theorem rejected_duplicate :
    (leaves (uploadDocument march2026 (februaryReport "IR202602.pdf")) submitted).documents = submitted.documents := by
  have hraises : raises (uploadDocument march2026 (februaryReport "IR202602.pdf")) submitted =
      some (.conflict "This report type was already submitted for the selected cycle.") := by
    decide +kernel
  refine (rejected_upload_changes_no_document hraises (by decide)).mpr fun hfinds => ?_
  obtain ⟨document, hexisting, hreturned⟩ := hfinds.returned
  have hreviews : submitted.reviews = [] := by decide +kernel
  unfold isReturned DocumentDb.latestReview DocumentDb.reviewsOf at hreturned
  rw [hreviews] at hreturned
  cases hreturned

/-- The returned report is deleted, and the file name is wrong. -/
theorem rejected_for_its_name : ¬ ∀ (s : Services) (db : DocumentDb) (dto : UploadDocumentDto) (e : HttpException),
    raises (uploadDocument s dto) db = some e → e ≠ internalError →
      (leaves (uploadDocument s dto) db).documents = db.documents := by
  intro hall
  have hsame := hall march2026 returnedReport (februaryReport "IR2026-02.pdf")
    (.badRequest "Invalid file name. Expected IR202602.docx or IR202602.pdf") (by decide +kernel) (by decide)
  have hdeleted : (leaves (uploadDocument march2026 (februaryReport "IR2026-02.pdf")) returnedReport).documents ≠
      returnedReport.documents := by
    decide +kernel
  exact hdeleted hsame

end ComplianceHub.Documents
