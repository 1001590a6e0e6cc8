import ComplianceHub.Lib.Carries
import ComplianceHub.Tickets.Types
import Mathlib.Data.List.MinMax

/-!
# The tables of the documents service

* `Document`, `DocumentVersion`, `ManualReview`, `DocumentAssignment`, `ReportorialDocumentType` : the rows;
  `DocumentDb` : the tables;
* `Services` : the roles, the clock, the libraries and the collation, while one operation runs;
* `safeName`, `assertValidFile` : what is checked of a file;
* `DocumentDb.latestReview`, `isReturned` : the verdict on a document.
-/

namespace ComplianceHub.Documents

open ComplianceHub.Lib (reads)
open ComplianceHub.Tickets (Role)

/-! ## Rows -/

inductive DocumentStatus where
  | pending
  | processing
  | ready
  | failed
deriving DecidableEq, Repr

inductive ReviewDecision where
  | compliant
  | non_compliant
  | needs_revision
deriving DecidableEq, Repr

/-- How often an assignment is due. -/
inductive SubmissionFrequency where
  | monthly
  | quarterly
  | annual
  | custom
deriving DecidableEq, Repr

/-- How often a reportorial document is due. -/
inductive ReportorialFrequency where
  | monthly
  | quarterly
  | annual
deriving DecidableEq, Repr

structure Document where
  id : Nat
  title : String
  document_type : String
  period : Option String := none
  year : Option String := none
  reportorial_doc_type_id : Option Nat := none
  status : DocumentStatus := .pending
  current_version : Nat := 1
  extracted_text : String := ""
  unit_id : Nat
  uploaded_by : Nat
  is_deleted : Bool := false
deriving DecidableEq, Repr

structure DocumentVersion where
  id : Nat
  document_id : Nat
  version_number : Nat
  file_name : String
  checksum : String
  extracted_text : String := ""
  change_notes : Option String := none
  uploaded_by : Nat
deriving DecidableEq, Repr

structure ManualReview where
  id : Nat
  document_id : Nat
  version_id : Nat
  decision : ReviewDecision
  remarks : Option String := none
  /-- None for an automatic review. -/
  reviewer_id : Option Nat := none
  reviewed_at : Int
deriving DecidableEq, Repr

structure DocumentAssignment where
  id : Nat
  user_id : Nat
  unit_id : Nat
  document_type : String
  filename_prefix : Option String := none
  submission_frequency : SubmissionFrequency := .monthly
  is_active : Bool := true
deriving DecidableEq, Repr

structure ReportorialDocumentType where
  id : Nat
  unit_id : Nat
  /-- The base filename prefix; the period suffix is appended to it. -/
  base_name : String
  display_name : String
  submission_frequency : ReportorialFrequency := .monthly
  active : Bool := true
deriving DecidableEq, Repr

structure DocumentDb where
  documents : List Document := []
  versions : List DocumentVersion := []
  reviews : List ManualReview := []
  assignments : List DocumentAssignment := []
  reportorialDocTypes : List ReportorialDocumentType := []
  /-- Every identifier given so far is below it. -/
  nextId : Nat := 0
deriving DecidableEq, Repr

/-- A computation on the tables. What it has written stays where it raises. -/
abbrev DocumentM := EStateM HttpException DocumentDb

/-- What the database or the language raises. -/
def internalError : HttpException := .internalServerError "Internal server error"

/-- What is read outside the tables while one operation runs. -/
structure Services where
  now : Int
  /-- The year and the month of the local date. -/
  year : Nat
  month : Nat
  isFocal : Role → Bool
  /-- The equality of texts in the database. -/
  collates : String → String → Bool
  calculateChecksum : List UInt8 → String
  /-- The text of a DOCX, none where it cannot be extracted. -/
  extractRawText : List UInt8 → Option String

/-! ## Files -/

structure File where
  originalname : String
  buffer : List UInt8
deriving DecidableEq, Repr

/-- `path.basename` -/
def basename (name : String) : String :=
  String.ofList (((name.toList.reverse.dropWhile (· = '/')).takeWhile (· ≠ '/')).reverse)

/-- `[\r\n"\\/]` -/
def isUnsafeChar (c : Char) : Bool := ['\r', '\n', '\x22', '\x5c', '/'].contains c

def safeName (originalname : String) : String :=
  String.ofList (((basename originalname).toList.map fun c => if isUnsafeChar c then '_' else c).take 180)

/-- A name ends with an extension, in letters of either case. -/
def hasExtension (extension name : String) : Bool := extension.toList.isSuffixOf (name.toList.map Char.toLower)

def asciiBytes (text : String) : List UInt8 := text.toList.map fun c => c.toNat.toUInt8

/-- `toString('ascii')` drops the highest bit of each byte. -/
def isPdfSignature (buffer : List UInt8) : Bool := (buffer.take 5).map (· % 128) = asciiBytes "%PDF-"

def includesBytes (buffer needle : List UInt8) : Bool := buffer.tails.any fun rest => needle.isPrefixOf rest

def isDocxSignature (buffer : List UInt8) : Bool :=
  buffer.take 4 = [0x50, 0x4b, 0x03, 0x04] && includesBytes buffer (asciiBytes "[Content_Types].xml") &&
    includesBytes buffer (asciiBytes "word/")

@[irreducible] def isValidFile (file : File) : Bool :=
  let isDocx := hasExtension ".docx" (safeName file.originalname)
  let isPdf := hasExtension ".pdf" (safeName file.originalname)
  !((!isPdf && !isDocx) || (isPdf && !isPdfSignature file.buffer) || (isDocx && !isDocxSignature file.buffer))

def assertValidFile (file : File) : Except HttpException Unit :=
  check (isValidFile file = true) (.badRequest "Only valid DOCX and PDF files are allowed")

/-- `name.replace(/\.(docx|pdf)$/i, '')` -/
def withoutExtension (name : String) : String :=
  if hasExtension ".docx" name then String.ofList (name.toList.take (name.length - 5))
  else if hasExtension ".pdf" name then String.ofList (name.toList.take (name.length - 4))
  else name

def extractInitialText (s : Services) (file : File) : String :=
  if hasExtension ".docx" file.originalname then (s.extractRawText file.buffer).getD "" else ""

/-! ## Reads -/

namespace DocumentDb

variable (db : DocumentDb)

/-- The document that is not deleted. -/
def document? (id : Nat) : Option Document := db.documents.find? fun row => decide (row.id = id ∧ row.is_deleted = false)

def reviewsOf (id : Nat) : List ManualReview := db.reviews.filter fun row => decide (row.document_id = id)

/-- The review of a document that comes first by `reviewed_at DESC`. -/
def latestReview (id : Nat) : Option ManualReview := (db.reviewsOf id).argmax ManualReview.reviewed_at

def softDelete (id : Nat) : DocumentDb :=
  { db with documents := db.documents.map fun row => if row.id = id then { row with is_deleted := true } else row }

end DocumentDb

/-- The latest review of a document has returned it to its uploader. -/
def isReturned (db : DocumentDb) (id : Nat) : Bool :=
  (db.latestReview id).any fun review => review.decision = .needs_revision || review.decision = .non_compliant

/-- A column is as it is looked up; an absent value is not looked up. -/
def Services.finds (s : Services) (value column : Option String) : Bool :=
  value.all fun value => column.any fun column => s.collates column value

end ComplianceHub.Documents
