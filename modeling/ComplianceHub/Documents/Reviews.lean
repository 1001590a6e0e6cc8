import ComplianceHub.Documents.Upload
import ComplianceHub.Lib.Run

/-!
# Versions and reviews

* `createVersion`, `submitReview`, `returnDocumentForRevision`, `computeMetricsAndAutoReview`, `updateStatus`,
  `archiveDocument` : the operations on a stored document;
* `getLatestReviewMap`, `getRepository` : what is shown of the verdicts;
* `Operation`, `documents` : any of the operations, and the system of their runs.
-/

namespace ComplianceHub.Documents

open ComplianceHub.Lib
open ComplianceHub.Tickets (Role)

def orNotFound {α : Type} (row : Option α) (message : String) : Except HttpException α :=
  match row with
  | some row => .ok row
  | none => .error (.notFound message)

namespace DocumentDb

variable (db : DocumentDb)

/-- The version of a document that comes first by `version_number DESC`. -/
def latestVersion (document_id : Nat) : Option DocumentVersion :=
  (db.versions.filter fun row => decide (row.document_id = document_id)).argmax DocumentVersion.version_number

def version? (document_id version_number : Nat) : Option DocumentVersion :=
  db.versions.find? fun row => decide (row.document_id = document_id ∧ row.version_number = version_number)

/-- A change of one document. -/
def updateDocument (id : Nat) (f : Document → Document) : DocumentDb :=
  { db with documents := db.documents.map fun row => if row.id = id then f row else row }

end DocumentDb

/-! ## Versions -/

structure CreateVersionDto where
  document_id : Nat
  uploaded_by : Nat
  change_notes : Option String := none
  file : File

/-- The number of the version that is created. -/
def nextVersionNumber (s : Services) (db : DocumentDb) (dto : CreateVersionDto) : Except HttpException Nat := do
  let document ← orNotFound (db.document? dto.document_id) ("Document with ID " ++ toString dto.document_id ++ " not found")
  assertValidFile dto.file
  let latestVersion := db.latestVersion document.id
  check ((latestVersion.any fun version => version.checksum = s.calculateChecksum dto.file.buffer) = false)
    (.badRequest "File content is identical to the latest version")
  pure ((latestVersion.map fun version => version.version_number + 1).getD 1)

def newVersion (s : Services) (dto : CreateVersionDto) (version_number id : Nat) : DocumentVersion where
  id := id
  document_id := dto.document_id
  version_number := version_number
  file_name := safeName dto.file.originalname
  checksum := s.calculateChecksum dto.file.buffer
  extracted_text := extractInitialText s dto.file
  change_notes := dto.change_notes
  uploaded_by := dto.uploaded_by

/-- A new version becomes the current one, and the document is ready again. -/
def putVersion (s : Services) (dto : CreateVersionDto) (version_number : Nat) (db : DocumentDb) : DocumentDb :=
  { db.updateDocument dto.document_id fun document =>
      { document with
        current_version := version_number
        status := .ready
        extracted_text := extractInitialText s dto.file } with
    versions := db.versions ++ [newVersion s dto version_number db.nextId]
    nextId := db.nextId + 1 }

def createVersion (s : Services) (dto : CreateVersionDto) : DocumentM Unit := do
  let version_number ← reads fun db => nextVersionNumber s db dto
  modify (putVersion s dto version_number)

/-! ## Reviews -/

structure SubmitReviewDto where
  decision : ReviewDecision
  remarks : Option String := none
  reviewer_id : Nat

/-- The decision sends the document back. -/
def returns (decision : ReviewDecision) : Bool := decision = .needs_revision || decision = .non_compliant

/-- The current version, which a review is made for. -/
def reviewedVersion (db : DocumentDb) (documentId : Nat) (dto : SubmitReviewDto) : Except HttpException DocumentVersion := do
  let document ← orNotFound (db.document? documentId) "Document not found"
  check (¬ (returns dto.decision = true ∧ trim (dto.remarks.getD "") = ""))
    (.badRequest "Remarks are required when returning or marking a document as non-compliant.")
  check (¬ (returns dto.decision = true ∧ document.status ≠ .pending ∧ document.status ≠ .ready))
    (.badRequest "Only processed documents that are ready or pending review can be returned for revision.")
  orNotFound (db.version? documentId document.current_version) "Current version not found"

def newReview (db : DocumentDb) (s : Services) (version : DocumentVersion) (decision : ReviewDecision)
    (remarks : Option String) (reviewer_id : Option Nat) : ManualReview where
  id := db.nextId
  document_id := version.document_id
  version_id := version.id
  decision := decision
  remarks := remarks
  reviewer_id := reviewer_id
  reviewed_at := s.now

def addReview (s : Services) (version : DocumentVersion) (decision : ReviewDecision) (remarks : Option String)
    (reviewer_id : Option Nat) (db : DocumentDb) : DocumentDb :=
  { db with reviews := db.reviews ++ [newReview db s version decision remarks reviewer_id], nextId := db.nextId + 1 }

def setStatus (status : DocumentStatus) (document : Document) : Document := { document with status := status }

def updateStatus (id : Nat) (status : DocumentStatus) : DocumentM Unit := modify fun db => db.updateDocument id (setStatus status)

def submitReview (s : Services) (documentId : Nat) (dto : SubmitReviewDto) : DocumentM Unit := do
  let version ← reads fun db => reviewedVersion db documentId dto
  modify (addReview s version dto.decision dto.remarks (some dto.reviewer_id))
  updateStatus documentId (if dto.decision = .compliant then .ready else .pending)

structure ReturnPayload where
  document_id : Nat
  remarks : Option String
  returned_by : Nat

/-- The current version, which is returned. The role of the uploader is not loaded and never stands in the way. -/
def returnedVersion (db : DocumentDb) (payload : ReturnPayload) : Except HttpException DocumentVersion := do
  check (trim (payload.remarks.getD "") ≠ "") (.badRequest "Return remarks are required.")
  let document ← orNotFound (db.document? payload.document_id) "Document not found"
  check (document.status ≠ .processing ∧ document.status ≠ .failed)
    (.badRequest ("Documents currently being processed or in failed state cannot be returned. " ++
      "Please wait for processing to complete."))
  orNotFound (db.version? payload.document_id document.current_version) "Current version not found"

def returnDocumentForRevision (s : Services) (payload : ReturnPayload) : DocumentM Unit := do
  let version ← reads fun db => returnedVersion db payload
  modify (addReview s version .needs_revision (payload.remarks.map trim) (some payload.returned_by))
  updateStatus payload.document_id .pending

/-- The version of a metric run with its document. -/
def versionWithDocument (db : DocumentDb) (versionId : Nat) : Option DocumentVersion :=
  (db.versions.find? fun row => decide (row.id = versionId)).filter fun version =>
    db.documents.any fun document => document.id = version.document_id

def isAutoReview (version : DocumentVersion) (review : ManualReview) : Bool :=
  review.document_id = version.document_id && review.version_id = version.id && review.reviewer_id.isNone

def existingAutoReview (db : DocumentDb) (version : DocumentVersion) : Option ManualReview :=
  db.reviews.find? (isAutoReview version)

def autoRemarks (remarks : String) : String := "Automated checks flagged this submission for revision:\n" ++ remarks

/-- An automatic review that is made again, at its old time. -/
def flagAgain (remarks : String) (review : ManualReview) : ManualReview :=
  { review with decision := .needs_revision, remarks := some (autoRemarks remarks) }

def updateReview (id : Nat) (f : ManualReview → ManualReview) (db : DocumentDb) : DocumentDb :=
  { db with reviews := db.reviews.map fun row => if row.id = id then f row else row }

/-- What a metric run writes. -/
def autoReview (s : Services) (versionId : Nat) (remarks : String) (db : DocumentDb) : DocumentDb :=
  match versionWithDocument db versionId with
  | none => db
  | some version =>
    match existingAutoReview db version with
    | some review => updateReview review.id (flagAgain remarks) db
    | none => addReview s version .needs_revision (some (autoRemarks remarks)) none db

/-- A metric run with the lines of its failed checks, none where no check has failed. -/
def computeMetricsAndAutoReview (s : Services) (versionId : Nat) (failed : Option String) : DocumentM Unit :=
  match failed with
  | some remarks => modify (autoReview s versionId remarks)
  | none => pure ()

def archivable (db : DocumentDb) (documentId actorId : Nat) : Except HttpException Unit := do
  let document ← orNotFound (db.document? documentId) "Document not found"
  check (document.uploaded_by = actorId) (.badRequest "You can only archive your own documents.")
  check (isReturned db documentId = true)
    (.badRequest "Only returned (needs revision / non-compliant) documents can be archived.")

def archiveDocument (documentId actorId : Nat) : DocumentM Unit := do
  reads fun db => archivable db documentId actorId
  modify fun db => db.softDelete documentId

/-! ## What is shown -/

/-- The verdict on a document: none is pending. -/
structure LatestReview where
  decision : Option ReviewDecision := none
  remarks : Option String := none
deriving DecidableEq, Repr

def latestReviewOf (db : DocumentDb) (id : Nat) : LatestReview :=
  match db.latestReview id with
  | some review => ⟨some review.decision, review.remarks⟩
  | none => {}

def getLatestReviewMap (db : DocumentDb) (documentIds : List Nat) : List (Nat × LatestReview) :=
  documentIds.map fun id => (id, latestReviewOf db id)

structure WorkflowDocument extends Document where
  compliance_status : Option ReviewDecision
  latest_review_remarks : Option String

/-- `Map.get`: the last entry of a key. -/
def lookup (map : List (Nat × LatestReview)) (id : Nat) : LatestReview :=
  ((map.reverse.find? fun entry => decide (entry.1 = id)).map Prod.snd).getD {}

def enrichDocumentsForWorkflow (db : DocumentDb) (documents : List Document) : List WorkflowDocument :=
  let reviewMap := getLatestReviewMap db (documents.map Document.id)
  documents.map fun document =>
    { document with
      compliance_status := (lookup reviewMap document.id).decision
      latest_review_remarks := (lookup reviewMap document.id).remarks }

/-- The documents of the repository; a focal sees its own uploads. -/
def getRepository (s : Services) (db : DocumentDb) (actorRole : Role) (actorId : Nat) : List WorkflowDocument :=
  let docs := db.documents.filter fun row => !row.is_deleted && row.status = .ready &&
    (!(s.isFocal actorRole && actorId ≠ 0) || row.uploaded_by = actorId)
  (enrichDocumentsForWorkflow db docs).filter fun row => row.compliance_status = some .compliant

/-! ## Runs -/

inductive Operation where
  | uploadDocument (dto : UploadDocumentDto)
  | createVersion (dto : CreateVersionDto)
  | submitReview (documentId : Nat) (dto : SubmitReviewDto)
  | returnDocumentForRevision (payload : ReturnPayload)
  | computeMetricsAndAutoReview (versionId : Nat) (failed : Option String)
  | updateStatus (id : Nat) (status : DocumentStatus)
  | archiveDocument (documentId actorId : Nat)

def Operation.run (s : Services) : Operation → DocumentM Unit
  | uploadDocument dto => Documents.uploadDocument s dto
  | createVersion dto => Documents.createVersion s dto
  | submitReview documentId dto => Documents.submitReview s documentId dto
  | returnDocumentForRevision payload => Documents.returnDocumentForRevision s payload
  | computeMetricsAndAutoReview versionId failed => Documents.computeMetricsAndAutoReview s versionId failed
  | updateStatus id status => Documents.updateStatus id status
  | archiveDocument documentId actorId => Documents.archiveDocument documentId actorId

/-- What happens to the tables: an operation, or the assignments and the report types are set. -/
inductive Event where
  | operation (s : Services) (op : Operation)
  | settings (assignments : List DocumentAssignment) (reportorialDocTypes : List ReportorialDocumentType)

def DocumentDb.apply (db : DocumentDb) : Event → DocumentDb
  | .operation s op => leaves (op.run s) db
  | .settings assignments reportorialDocTypes => { db with assignments, reportorialDocTypes }

/-- There are no documents yet. -/
def documents : System DocumentDb Event where
  init db := db.documents = [] ∧ db.versions = [] ∧ db.reviews = []
  step db e db' := db' = db.apply e

end ComplianceHub.Documents
