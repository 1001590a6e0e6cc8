import ComplianceHub.Json
import ComplianceHub.Lib.Triple

/-!
# The register of issuances

The catalogue service over its tables. A field of a body is absent or any JSON value; a call that raises keeps what it
has written.

* `Register` : the tables; `Issuance`, `IssuanceSource`, `ComplianceDomain` : their rows, with the columns that the
  service reads;
* `Catalog` : the values of an issuance in memory, which hold what a body has assigned (`Catalog.columns` : the row);
* `validateArchitectureFields`, `resolveDomains`, `assertAmendmentTarget` : the checks that the operations share;
* `syncLegacyAmendmentRelationship`, `syncPrimaryUrlSource` : what follows every write of an issuance;
* `createIssuance`, `updateIssuance`, `deleteIssuance`, `decideRegisterInclusion`, `uploadAttachment`,
  `deleteAttachment`, `addSource`, `createDomain`, `updateDomain` : the operations.
-/

namespace ComplianceHub.References

open ComplianceHub.Lib (reads)

structure Attachment where
  fileName : String
  mimeType : String
  blob : List UInt8
deriving DecidableEq, Repr

structure Issuance where
  id : Nat
  issuance_number : String
  lifecycle_status : String
  applicability_status : String
  register_decision : String
  status_reason : Option String := none
  is_active : Bool
  is_amendment : Bool := false
  amended_issuance_number : Option String := none
  source_url : Option String := none
  attachment : Option Attachment := none
  /-- The rows of `issuance_domains`. -/
  domainIds : List Nat := []
deriving DecidableEq, Repr

structure ComplianceDomain where
  id : Nat
  code : String
  name : String
  description : Option String := none
  isActive : Bool
deriving DecidableEq, Repr

structure IssuanceSource where
  id : Nat
  issuanceId : Nat
  sourceType : String
  url : Option String := none
  sha256 : Option String := none
  isPrimary : Bool := false
  createdAt : Int
  updatedAt : Int
deriving DecidableEq, Repr

structure IssuanceRelationship where
  sourceIssuanceId : Nat
  targetIssuanceId : Nat
  relationshipType : String
deriving DecidableEq, Repr

structure Register where
  issuances : List Issuance := []
  domains : List ComplianceDomain := []
  sources : List IssuanceSource := []
  relationships : List IssuanceRelationship := []
  /-- The issuance of each assessment. -/
  assessments : List Nat := []

structure Services where
  now : Int
  sha256 : List UInt8 → String
  /-- The text that the database keeps of an array or an object, none where it refuses the write. -/
  compoundText : Json → Option String

abbrev RegisterM := EStateM HttpException Register

/-- An error that the service does not catch: of a call on a value that lacks the method, or of the database. -/
def internalError : HttpException := .internalServerError "Internal server error"

/-! ## Tables -/

namespace Register

variable (db : Register)

def issuance? (id : Nat) : Option Issuance := db.issuances.find? fun issuance => issuance.id = id

def findIssuance (id : Nat) : Except HttpException Issuance :=
  match db.issuance? id with
  | some issuance => .ok issuance
  | none => .error (.notFound "Issuance not found")

def numbered (issuance_number : String) : Option Issuance :=
  db.issuances.find? fun issuance => issuance.issuance_number = issuance_number

/-- The domains of an issuance. -/
def domainsOf (issuance : Issuance) : List ComplianceDomain :=
  db.domains.filter fun domain => domain.id ∈ issuance.domainIds

def sourcesOf (id : Nat) : List IssuanceSource := db.sources.filter fun source => source.issuanceId = id

def saveIssuance (issuance : Issuance) : Register :=
  { db with issuances := db.issuances.map fun row => if row.id = issuance.id then issuance else row }

def mapSources (f : IssuanceSource → IssuanceSource) : Register := { db with sources := db.sources.map f }

end Register

/-- A write of the row of a source, whose time changes with it. -/
def IssuanceSource.saved (row source : IssuanceSource) (now : Int) : IssuanceSource :=
  if { source with updatedAt := row.updatedAt } = row then row else { source with updatedAt := now }

def nextId (ids : List Nat) : Nat := ids.foldr max 0 + 1

/-- The first of the sources with the latest time. -/
def latest (time : IssuanceSource → Int) (sources : List IssuanceSource) : Option IssuanceSource :=
  sources.find? fun source => sources.all fun other => decide (time other ≤ time source)

/-! ## Values of a body -/

/-- `!!value` -/
def isTruthy (value : Option Json) : Bool := value.any Json.truthy

/-- `value || fallback`, where a truthy value has passed `assertAllowed`. -/
def orElse (value : Option Json) (fallback : String) : String :=
  match value with
  | some (.string text) => if text = "" then fallback else text
  | _ => fallback

/-- `value?.trim()`, and none where that is empty. -/
def trimmed : Option Json → Except HttpException (Option String)
  | none | some .null => .ok none
  | some (.string text) => .ok (if trim text = "" then none else some (trim text))
  | some _ => .error internalError

/-- The text that a column holds after a write. -/
def columnText (s : Services) : Json → Except HttpException (Option String)
  | .null => .ok none
  | .bool value => .ok (some (if value then "1" else "0"))
  | .number value => .ok (some (numberText value))
  | .string text => .ok (some text)
  | value =>
    match s.compoundText value with
    | some text => .ok (some text)
    | none => .error internalError

def requiredText (s : Services) (value : Json) : Except HttpException String :=
  match columnText s value with
  | .ok (some text) => .ok text
  | _ => .error internalError

/-- A boolean column holds whether the value is `true`. -/
def columnBool : Json → Except HttpException Bool
  | .null => .error internalError
  | .bool value => .ok value
  | _ => .ok false

/-- A nullable text column as a value in memory. -/
def nullable : Option String → Json
  | none => .null
  | some text => .string text

/-! ## Checks -/

def PRIMARY_REGISTERS : List String :=
  ["legal_regulatory", "standards", "internal_issuances", "internal_operational"]

def LIFECYCLE_STATUSES : List String :=
  ["draft", "under_review", "active", "amended", "superseded", "repealed", "revoked", "expired", "retired"]

def APPLICABILITY_STATUSES : List String := ["pending_review", "applicable", "partially_applicable", "not_applicable"]

def REGISTER_DECISIONS : List String := ["pending", "included", "excluded"]

def SCOPE_PROFILES : List String := ["core", "extended"]

def SOURCE_TYPES : List String :=
  ["official_external", "official_internal", "uploaded_copy", "google_drive", "reference_link"]

structure IssuanceDto where
  primary_register : Option Json := none
  lifecycle_status : Option Json := none
  applicability_status : Option Json := none
  register_decision : Option Json := none
  scope_profile : Option Json := none
  status_reason : Option Json := none
  domain_ids : Option Json := none
  is_amendment : Option Json := none
  amended_issuance_number : Option Json := none
  source_url : Option Json := none

structure CreateIssuanceDto extends IssuanceDto where
  issuance_number : Option Json := none

def isText (text : String) (value : Option Json) : Bool := value.any (Json.isText text)

def assertAllowed (value : Option Json) (allowed : List String) (label : String) : Except HttpException Unit :=
  check (isTruthy value = true → (allowed.any fun text => isText text value) = true) (.badRequest (label ++ " is invalid"))

/-- Some checks, where they are called for. -/
def givenThat (needed : Bool) (checks : Except HttpException Unit) : Except HttpException Unit :=
  if needed then checks else .ok ()

/-- `if (!value?.trim()) throw …` -/
def assertText (value : Option Json) (e : HttpException) : Except HttpException Unit := do
  let text ← trimmed value
  check (text.isSome = true) e

def validateArchitectureFields (dto : IssuanceDto) : Except HttpException Unit := do
  assertAllowed dto.primary_register PRIMARY_REGISTERS "Primary Register"
  assertAllowed dto.lifecycle_status LIFECYCLE_STATUSES "Lifecycle Status"
  assertAllowed dto.applicability_status APPLICABILITY_STATUSES "Applicability Status"
  assertAllowed dto.register_decision REGISTER_DECISIONS "Register Decision"
  assertAllowed dto.scope_profile SCOPE_PROFILES "Scope Profile"
  check (¬ (isText "included" dto.register_decision = true ∧ isText "not_applicable" dto.applicability_status = true))
    (.badRequest "A Not Applicable issuance cannot be included in an official register")
  let isHistorical := isTruthy dto.lifecycle_status &&
    !(["draft", "under_review", "active"].any fun text => isText text dto.lifecycle_status)
  givenThat isHistorical
    (assertText dto.status_reason (.badRequest "Status Reason is required for historical lifecycle states"))

def resolveDomains (db : Register) (domainIds : Option Json) (allowedInactiveIds : List Nat) :
    Except HttpException (List ComplianceDomain) :=
  match domainIds with
  | none => .ok []
  | some (.array items) => do
    let ids := integers items
    let domains := db.domains.filter fun domain => (domain.id : Int) ∈ ids
    check (domains.length = ids.length ∧ ∀ domain ∈ domains, domain.isActive = true ∨ domain.id ∈ allowedInactiveIds)
      (.badRequest "One or more compliance domains are invalid, inactive, or not already assigned")
    pure domains
  | some value => if value.truthy then .error internalError else .ok []

def assertAmendmentTarget (db : Register) (issuanceId : Option Nat) (is_amendment amended_issuance_number : Json) :
    Except HttpException Unit :=
  if is_amendment.truthy then do
    match ← trimmed (some amended_issuance_number) with
    | none => .error (.badRequest "Amended Issuance Number is required")
    | some number =>
      match db.numbered number with
      | none => .error (.badRequest "The amended issuance could not be found")
      | some target => check (some target.id ≠ issuanceId) (.badRequest "An issuance cannot amend itself")
  else .ok ()

/-- Whether an applicability allows inclusion. -/
def isApplicable (applicability_status : String) : Bool :=
  applicability_status = "applicable" || applicability_status = "partially_applicable"

def onlyActive : HttpException := .badRequest "Only an Active issuance can be included in an official register"

def onlyApplicable : HttpException :=
  .badRequest "Only Applicable or Partially Applicable records can be included"

def domainRequired : HttpException := .badRequest "At least one active compliance domain is required for inclusion"

def sourceRequired : HttpException := .badRequest "An identifiable source is required for inclusion"

/-! ## Issuances in memory -/

/-- An issuance in memory: a body assigns any values. -/
structure Catalog where
  lifecycle_status : Json
  applicability_status : Json
  register_decision : Json
  status_reason : Json
  is_amendment : Json
  amended_issuance_number : Json
  source_url : Json
  is_active : Bool
  domains : List ComplianceDomain

/-- A stored issuance, with its domains. -/
def Register.catalog (db : Register) (issuance : Issuance) : Catalog where
  lifecycle_status := .string issuance.lifecycle_status
  applicability_status := .string issuance.applicability_status
  register_decision := .string issuance.register_decision
  status_reason := nullable issuance.status_reason
  is_amendment := .bool issuance.is_amendment
  amended_issuance_number := nullable issuance.amended_issuance_number
  source_url := nullable issuance.source_url
  is_active := issuance.is_active
  domains := db.domainsOf issuance

/-- The row that a save leaves. -/
def Catalog.columns (s : Services) (catalog : Catalog) (row : Issuance) : Except HttpException Issuance := do
  let lifecycle_status ← requiredText s catalog.lifecycle_status
  let applicability_status ← requiredText s catalog.applicability_status
  let register_decision ← requiredText s catalog.register_decision
  let status_reason ← columnText s catalog.status_reason
  let is_amendment ← columnBool catalog.is_amendment
  let amended_issuance_number ← columnText s catalog.amended_issuance_number
  let source_url ← columnText s catalog.source_url
  pure { row with
    lifecycle_status, applicability_status, register_decision, status_reason, is_amendment, amended_issuance_number
    source_url, is_active := catalog.is_active, domainIds := catalog.domains.map ComplianceDomain.id }

/-! ## What follows a write -/

/-- The amendments of an issuance become the one to its target, if it has one. -/
def syncedRelationships (db : Register) (id : Nat) (amended : Option String) : List IssuanceRelationship :=
  let isAmendment := fun item : IssuanceRelationship => decide (item.sourceIssuanceId = id ∧ item.relationshipType = "amends")
  match amended with
  | none => db.relationships.filter fun item => !isAmendment item
  | some number =>
    match db.numbered number with
    | none => db.relationships
    | some target =>
      if target.id = id then db.relationships
      else
        let kept := db.relationships.filter fun item => !(isAmendment item && decide (item.targetIssuanceId ≠ target.id))
        if kept.any fun item => isAmendment item then kept else kept ++ [⟨id, target.id, "amends"⟩]

/-- The number that an amendment names. -/
def amendedNumber (catalog : Catalog) : Except HttpException (Option String) :=
  if catalog.is_amendment.truthy then trimmed (some catalog.amended_issuance_number) else .ok none

def syncLegacyAmendmentRelationship (id : Nat) (catalog : Catalog) : RegisterM Unit := do
  let amended ← reads fun _ => amendedNumber catalog
  modify fun db => { db with relationships := syncedRelationships db id amended }

/-- `url.replace(/\/$/, '')` -/
def withoutSlash (url : String) : String := if url.toList.getLast? = some '/' then String.ofList url.toList.dropLast else url

/-- `LOWER(TRIM(TRAILING '/' FROM url))` -/
def comparableUrl (url : String) : String := (String.ofList (url.toList.reverse.dropWhile (· = '/')).reverse).toLower

/-- `text.includes(part)` -/
def includes (text part : String) : Bool := text.toList.tails.any fun rest => part.toList.isPrefixOf rest

/-- The primary flags of an issuance's sources are cleared. -/
def clearPrimary (id : Nat) (now : Int) (source : IssuanceSource) : IssuanceSource :=
  if source.issuanceId = id then { source with isPrimary := false, updatedAt := now } else source

def clearUrlPrimary (id : Nat) (now : Int) (source : IssuanceSource) : IssuanceSource :=
  if source.sourceType = "official_external" ∨ source.sourceType = "google_drive" then clearPrimary id now source
  else source

/-- The row of a source is written. -/
def Register.saveSource (db : Register) (source : IssuanceSource) (now : Int) : Register :=
  db.mapSources fun row => if row.id = source.id then row.saved source now else row

def Register.insertSource (db : Register) (source : IssuanceSource) : Register :=
  { db with sources := db.sources ++ [{ source with id := nextId (db.sources.map IssuanceSource.id) }] }

/-- The source of an issuance with a URL. -/
def Register.sourceWithUrl (db : Register) (id : Nat) (url : String) : Option IssuanceSource :=
  (db.sourcesOf id).find? fun source => source.url.any fun own => comparableUrl own = url.toLower

def urlSourceType (url : String) : String :=
  if includes url "drive.google.com" then "google_drive" else "official_external"

/-- The tables after `syncPrimaryUrlSource`, with the trimmed URL. -/
def syncedSources (s : Services) (id : Nat) (url : Option String) (db : Register) : Register :=
  match url with
  | none =>
    let cleared := db.mapSources (clearUrlPrimary id s.now)
    match latest IssuanceSource.createdAt ((cleared.sourcesOf id).filter fun source => source.sourceType = "uploaded_copy") with
    | none => cleared
    | some uploaded => (cleared.mapSources (clearPrimary id s.now)).saveSource { uploaded with isPrimary := true } s.now
  | some url =>
    let normalizedUrl := withoutSlash url
    let sourceType := urlSourceType normalizedUrl
    let cleared := db.mapSources (clearPrimary id s.now)
    match db.sourceWithUrl id normalizedUrl with
    | some source =>
      cleared.saveSource { source with sourceType, url := some normalizedUrl, isPrimary := true } s.now
    | none =>
      cleared.insertSource
        { id := 0, issuanceId := id, sourceType, url := some normalizedUrl, isPrimary := true, createdAt := s.now,
          updatedAt := s.now }

def syncPrimaryUrlSource (s : Services) (id : Nat) (catalog : Catalog) : RegisterM Unit := do
  let url ← reads fun _ => trimmed (some catalog.source_url)
  modify (syncedSources s id url)

/-! ## Issuances -/

/-- The checks of an inclusion on creation. -/
def assertCreatable (lifecycleStatus applicabilityStatus : String) (domains : List ComplianceDomain)
    (source_url : Option Json) : Except HttpException Unit := do
  check (lifecycleStatus = "active") onlyActive
  check (isApplicable applicabilityStatus = true) onlyApplicable
  check (domains ≠ []) domainRequired
  assertText source_url sourceRequired

/-- The issuance that `createIssuance` builds. -/
def createdCatalog (db : Register) (dto : CreateIssuanceDto) : Except HttpException Catalog := do
  validateArchitectureFields dto.toIssuanceDto
  let lifecycleStatus := orElse dto.lifecycle_status "under_review"
  let registerDecision := orElse dto.register_decision "pending"
  let applicabilityStatus := orElse dto.applicability_status "pending_review"
  let is_amendment := dto.is_amendment.getD (.bool false)
  let amended_issuance_number := dto.amended_issuance_number.getD .null
  let domains ← resolveDomains db dto.domain_ids []
  assertAmendmentTarget db none is_amendment amended_issuance_number
  givenThat (registerDecision = "included")
    (assertCreatable lifecycleStatus applicabilityStatus domains dto.source_url)
  pure {
    lifecycle_status := .string lifecycleStatus
    applicability_status := .string applicabilityStatus
    register_decision := .string registerDecision
    status_reason := dto.status_reason.getD .null
    is_amendment, amended_issuance_number
    source_url := dto.source_url.getD .null
    is_active := lifecycleStatus = "active"
    domains }

/-- The issuance with the number of a new one; a number that is not given matches any issuance. -/
def existingIssuance (s : Services) (db : Register) (issuance_number : Json) : Except HttpException (Option Issuance) := do
  match ← columnText s issuance_number with
  | none => pure db.issuances.head?
  | some number => pure (db.numbered number)

/-- Its row. -/
def createdRow (s : Services) (db : Register) (dto : CreateIssuanceDto) : Except HttpException (Issuance × Catalog) := do
  let catalog ← createdCatalog db dto
  let existing ← existingIssuance s db (dto.issuance_number.getD .null)
  check (existing.isNone = true) (.conflict "Issuance number already exists")
  let issuance_number ← requiredText s (dto.issuance_number.getD .null)
  let row ← catalog.columns s
    { id := nextId (db.issuances.map Issuance.id), issuance_number, lifecycle_status := "", applicability_status := ""
      register_decision := "", is_active := false }
  pure (row, catalog)

def createIssuance (s : Services) (dto : CreateIssuanceDto) : RegisterM Unit := do
  let (row, catalog) ← reads fun db => createdRow s db dto
  modify fun db => { db with issuances := db.issuances ++ [row] }
  syncLegacyAmendmentRelationship row.id catalog
  syncPrimaryUrlSource s row.id catalog
  -- the reason of the first entry of the lifecycle history
  let _ ← reads fun _ => trimmed dto.status_reason

/-- `Object.assign(issuance, dto)` -/
def Catalog.assign (catalog : Catalog) (dto : IssuanceDto) : Catalog :=
  { catalog with
    lifecycle_status := dto.lifecycle_status.getD catalog.lifecycle_status
    applicability_status := dto.applicability_status.getD catalog.applicability_status
    register_decision := dto.register_decision.getD catalog.register_decision
    status_reason := dto.status_reason.getD catalog.status_reason
    is_amendment := dto.is_amendment.getD catalog.is_amendment
    amended_issuance_number := dto.amended_issuance_number.getD catalog.amended_issuance_number
    source_url := dto.source_url.getD catalog.source_url }

/-- The decision that a change of lifecycle leaves. -/
def decisionAfter (previousLifecycle nextLifecycle : String) (register_decision : Json) : Json :=
  if nextLifecycle ≠ "active" ∧ register_decision.isText "included" = true then .string "excluded"
  else if nextLifecycle = "active" ∧ previousLifecycle ≠ "active" ∧ register_decision.isText "excluded" = true then
    .string "pending"
  else register_decision

/-- `['applicable', 'partially_applicable'].includes(value)` -/
def Catalog.isApplicable (catalog : Catalog) : Bool :=
  catalog.applicability_status.isText "applicable" || catalog.applicability_status.isText "partially_applicable"

/-- The checks of an issuance that stays in or enters the register through an update. -/
def assertIncluded (db : Register) (id : Nat) (catalog : Catalog) : Except HttpException Unit := do
  check (catalog.lifecycle_status.isText "active" = true) onlyActive
  check (catalog.isApplicable = true) onlyApplicable
  check (catalog.domains.any ComplianceDomain.isActive = true) domainRequired
  givenThat (db.sourcesOf id = []) (assertText (some catalog.source_url) sourceRequired)

/-- The domains that a request gives to an issuance. -/
def reassignedDomains (db : Register) (domainIds : Option Json) (domains : List ComplianceDomain) :
    Except HttpException (List ComplianceDomain) :=
  match domainIds with
  | none => .ok domains
  | some domainIds => resolveDomains db (some domainIds) (domains.map ComplianceDomain.id)

/-- The issuance that `updateIssuance` saves. -/
def updatedCatalog (db : Register) (issuance : Issuance) (dto : IssuanceDto) : Except HttpException Catalog := do
  let previousLifecycle := issuance.lifecycle_status
  let nextLifecycle := orElse dto.lifecycle_status previousLifecycle
  givenThat (isTruthy dto.lifecycle_status && decide (nextLifecycle ≠ previousLifecycle))
    (assertText dto.status_reason (.badRequest "Status Reason is required when changing Lifecycle Status"))
  let assigned := (db.catalog issuance).assign dto
  let domains ← reassignedDomains db dto.domain_ids assigned.domains
  let catalog := { assigned with
    domains, is_active := decide (nextLifecycle = "active")
    register_decision := decisionAfter previousLifecycle nextLifecycle assigned.register_decision }
  assertAmendmentTarget db (some issuance.id) catalog.is_amendment catalog.amended_issuance_number
  givenThat (catalog.register_decision.isText "included") (assertIncluded db issuance.id catalog)
  pure catalog

def updatedRow (s : Services) (db : Register) (id : Nat) (dto : IssuanceDto) :
    Except HttpException (Issuance × Catalog) := do
  validateArchitectureFields dto
  let issuance ← db.findIssuance id
  let catalog ← updatedCatalog db issuance dto
  let row ← catalog.columns s issuance
  pure (row, catalog)

def updateIssuance (s : Services) (id : Nat) (dto : IssuanceDto) : RegisterM Unit := do
  let (row, catalog) ← reads fun db => updatedRow s db id dto
  modify fun db => db.saveIssuance row
  syncLegacyAmendmentRelationship id catalog
  syncPrimaryUrlSource s id catalog

/-- The tables without an issuance, its sources and its relationships. -/
def Register.removeIssuance (db : Register) (id : Nat) : Register :=
  { db with
    issuances := db.issuances.filter fun row => row.id ≠ id
    sources := db.sources.filter fun source => source.issuanceId ≠ id }

/-- A draft without relationships and assessments. -/
def Register.isUnusedDraft (db : Register) (issuance : Issuance) : Bool :=
  issuance.lifecycle_status = "draft" &&
    db.relationships.all (fun item => item.sourceIssuanceId ≠ issuance.id && item.targetIssuanceId ≠ issuance.id) &&
    !db.assessments.contains issuance.id

def retired (issuance : Issuance) : Issuance :=
  { issuance with
    lifecycle_status := "retired", register_decision := "excluded"
    status_reason := some "Retired through the Issuances management workflow", is_active := false }

def deleteIssuance (id : Nat) : RegisterM Unit := do
  let issuance ← reads fun db => db.findIssuance id
  modify fun db =>
    if db.isUnusedDraft issuance then db.removeIssuance id
    else if issuance.lifecycle_status = "retired" then db
    else db.saveIssuance (retired issuance)

/-! ## Inclusion -/

inductive RegisterDecision where
  | included | excluded
deriving DecidableEq, Repr

def RegisterDecision.text : RegisterDecision → String
  | .included => "included"
  | .excluded => "excluded"

structure DecisionDto where
  reason : Option Json := none
  applicabilityStatus : Option Json := none
  domainIds : Option Json := none

/-- The checks of an inclusion by decision. -/
def assertIncludable (db : Register) (issuance : Issuance) (domains : List ComplianceDomain) : Except HttpException Unit := do
  check (issuance.lifecycle_status = "active") onlyActive
  check (isApplicable issuance.applicability_status = true) onlyApplicable
  check (domains.any ComplianceDomain.isActive = true) domainRequired
  check (db.sourcesOf issuance.id ≠ [] ∨ issuance.source_url.any (fun url => decide (url ≠ "")) = true) sourceRequired

/-- The row that `decideRegisterInclusion` saves. -/
def decidedRow (db : Register) (issuanceId : Nat) (decision : RegisterDecision) (dto : DecisionDto) :
    Except HttpException Issuance := do
  let stored ← db.findIssuance issuanceId
  let reason ← trimmed dto.reason
  check (reason.isSome = true) (.badRequest "A decision reason is required")
  assertAllowed dto.applicabilityStatus APPLICABILITY_STATUSES "Applicability Status"
  let issuance := { stored with applicability_status := orElse dto.applicabilityStatus stored.applicability_status }
  let domains ← reassignedDomains db dto.domainIds (db.domainsOf stored)
  givenThat (decision = .included) (assertIncludable db issuance domains)
  pure { issuance with
    register_decision := decision.text, status_reason := reason, domainIds := domains.map ComplianceDomain.id }

def decideRegisterInclusion (issuanceId : Nat) (decision : RegisterDecision) (dto : DecisionDto) : RegisterM Unit := do
  let row ← reads fun db => decidedRow db issuanceId decision dto
  modify fun db => db.saveIssuance row

/-! ## Attachments and sources -/

structure File where
  originalname : String
  buffer : List UInt8

/-- The type of a file whose content matches its extension. -/
def ensureAllowedAttachment (file : Option File) : Except HttpException (File × String) :=
  match file with
  | none => .error (.badRequest "Attachment file is required")
  | some file => do
    let fileName := file.originalname.toLower
    check ([".pdf", ".doc", ".docx"].any (fileName.endsWith ·) = true)
      (.badRequest "Only PDF, DOC, and DOCX attachments are allowed")
    let isPdf := fileName.endsWith ".pdf" && file.buffer.take 5 = [0x25, 0x50, 0x44, 0x46, 0x2d]
    let isDocx := fileName.endsWith ".docx" && decide (4 ≤ file.buffer.length) && file.buffer.take 2 = [0x50, 0x4b]
    let isDoc := fileName.endsWith ".doc" &&
      file.buffer.take 8 = [0xd0, 0xcf, 0x11, 0xe0, 0xa1, 0xb1, 0x1a, 0xe1]
    check ((isPdf || isDocx || isDoc) = true)
      (.badRequest "The attachment content does not match its PDF, DOC, or DOCX extension")
    pure (file,
      if isPdf then "application/pdf"
      else if isDocx then "application/vnd.openxmlformats-officedocument.wordprocessingml.document"
      else "application/msword")

/-- The file, the issuance and the source that already holds the file. -/
def attachable (s : Services) (db : Register) (id : Nat) (file : Option File) :
    Except HttpException (Issuance × Attachment × Option IssuanceSource) := do
  let (file, mimeType) ← ensureAllowedAttachment file
  let issuance ← db.findIssuance id
  let duplicate := db.sources.find? fun source => source.sha256 = some (s.sha256 file.buffer)
  check (duplicate.all (fun source => decide (source.issuanceId = id)) = true)
    (.conflict ("This file already exists as a source of issuance " ++
      toString ((duplicate.map IssuanceSource.issuanceId).getD id)))
  pure (issuance, ⟨file.originalname, mimeType, file.buffer⟩, duplicate)

/-- `!!text` -/
def isSet (text : Option String) : Bool := text.any fun text => decide (text ≠ "")

def attached (s : Services) (issuance : Issuance) (attachment : Attachment) (duplicate : Option IssuanceSource)
    (db : Register) : Register :=
  let isPrimary := !isSet issuance.source_url
  let saved := db.saveIssuance { issuance with attachment := some attachment }
  let cleared := if isPrimary then saved.mapSources (clearPrimary issuance.id s.now) else saved
  match duplicate with
  | some source => cleared.saveSource { source with sha256 := some (s.sha256 attachment.blob), isPrimary } s.now
  | none =>
    cleared.insertSource
      { id := 0, issuanceId := issuance.id, sourceType := "uploaded_copy", sha256 := some (s.sha256 attachment.blob)
        isPrimary, createdAt := s.now, updatedAt := s.now }

def uploadAttachment (s : Services) (id : Nat) (file : Option File) : RegisterM Unit := do
  let (issuance, attachment, duplicate) ← reads fun db => attachable s db id file
  modify (attached s issuance attachment duplicate)

/-- The issuance, and the source that holds its attachment. -/
def detachable (s : Services) (db : Register) (id : Nat) : Except HttpException (Issuance × Option IssuanceSource) := do
  let issuance ← db.findIssuance id
  match issuance.attachment with
  | none => .error (.notFound "Attachment not found for this issuance")
  | some attachment => do
    let source := (db.sourcesOf id).find? fun source =>
      source.sourceType = "uploaded_copy" && source.sha256 = some (s.sha256 attachment.blob)
    let others := (db.sourcesOf id).filter fun other => some other.id ≠ source.map IssuanceSource.id
    check (¬ (issuance.register_decision = "included" ∧ others = []))
      (.badRequest "Add another identifiable source before removing the attachment from an included issuance")
    pure (issuance, source)

/-- The tables without a source. -/
def Register.removeSource (db : Register) (source : Option IssuanceSource) : Register :=
  { db with sources := db.sources.filter fun row => some row.id ≠ source.map IssuanceSource.id }

/-- The URL of an issuance is written. -/
def Register.writeUrl (db : Register) (id : Nat) (url : String) : Register :=
  { db with issuances := db.issuances.map fun row => if row.id = id then { row with source_url := some url } else row }

/-- Where no source of an issuance is primary, the one written last becomes it. -/
def promoteFallback (s : Services) (id : Nat) (db : Register) : Register :=
  if (db.sourcesOf id).any IssuanceSource.isPrimary then db
  else
    match latest IssuanceSource.updatedAt (db.sourcesOf id) with
    | none => db
    | some fallback =>
      let saved := db.saveSource { fallback with isPrimary := true } s.now
      match fallback.url with
      | some url => if url = "" then saved else saved.writeUrl id url
      | none => saved

def deleteAttachment (s : Services) (id : Nat) : RegisterM Unit := do
  let (issuance, source) ← reads fun db => detachable s db id
  modify fun db =>
    promoteFallback s id ((db.saveIssuance { issuance with attachment := none }).removeSource source)

structure AddSourceDto where
  sourceType : Option Json := none
  url : Option Json := none
  sourceOrganization : Option Json := none
  externalDocumentId : Option Json := none
  isPrimary : Option Json := none

/-- The URL of a new source, and whether it becomes the primary one. -/
def addable (db : Register) (issuanceId : Nat) (dto : AddSourceDto) : Except HttpException (String × Bool) := do
  let _ ← db.findIssuance issuanceId
  assertAllowed dto.sourceType SOURCE_TYPES "Source Type"
  match ← trimmed dto.url with
  | none => .error (.badRequest "Source URL is required")
  | some url => do
    check ((db.sourceWithUrl issuanceId (withoutSlash url)).isNone = true)
      (.conflict "This source URL is already linked to this issuance")
    pure (withoutSlash url, isTruthy dto.isPrimary || !(db.sourcesOf issuanceId).any IssuanceSource.isPrimary)

/-- The row of a new source. -/
def addedSource (s : Services) (issuanceId : Nat) (url : String) (isPrimary : Bool) (dto : AddSourceDto) :
    Except HttpException IssuanceSource := do
  let _ ← trimmed dto.sourceOrganization
  let _ ← trimmed dto.externalDocumentId
  let sourceType ← requiredText s (dto.sourceType.getD .null)
  pure { id := 0, issuanceId, sourceType, url := some url, isPrimary, createdAt := s.now, updatedAt := s.now }

def addSource (s : Services) (issuanceId : Nat) (dto : AddSourceDto) : RegisterM Unit := do
  let (url, isPrimary) ← reads fun db => addable db issuanceId dto
  modify fun db => if isPrimary then db.mapSources (clearPrimary issuanceId s.now) else db
  let source ← reads fun _ => addedSource s issuanceId url isPrimary dto
  modify fun db =>
    let saved := db.insertSource source
    if isPrimary then saved.writeUrl issuanceId url else saved

/-! ## Domains -/

/-- `value.trim()` -/
def trimText : Option Json → Except HttpException String
  | some (.string text) => .ok (trim text)
  | _ => .error internalError

/-- Every run of other characters becomes one underscore. -/
def underscored : List Char → List Char
  | [] => []
  | c :: rest =>
    if c.isLower || c.isDigit then c :: underscored rest
    else
      match underscored rest with
      | '_' :: rest => '_' :: rest
      | rest => '_' :: rest

/-- The code of a domain: lower-case letters and figures, joined by underscores. -/
def domainCode (code : String) : String :=
  let joined := underscored code.toLower.toList
  String.ofList ((joined.dropWhile (· = '_')).reverse.dropWhile (· = '_')).reverse

structure DomainDto where
  code : Option Json := none
  name : Option Json := none
  description : Option Json := none
  isActive : Option Json := none

def createdDomain (db : Register) (dto : DomainDto) : Except HttpException ComplianceDomain := do
  let code ← trimText dto.code
  let code := domainCode code
  check (code ≠ "") (.badRequest "Domain code and name are required")
  match ← trimmed dto.name with
  | none => .error (.badRequest "Domain code and name are required")
  | some name => do
    check ((db.domains.any fun domain => decide (domain.code = code ∨ domain.name = name)) = false)
      (.conflict "Compliance domain already exists")
    let description ← trimmed dto.description
    pure { id := nextId (db.domains.map ComplianceDomain.id), code, name, description, isActive := true }

def createDomain (dto : DomainDto) : RegisterM Unit := do
  let domain ← reads fun db => createdDomain db dto
  modify fun db => { db with domains := db.domains ++ [domain] }

/-- The included issuances with a domain and no other that is active. -/
def Register.affected (db : Register) (id : Nat) : List Issuance :=
  db.issuances.filter fun issuance =>
    decide (issuance.register_decision = "included") && decide (id ∈ issuance.domainIds) &&
      !db.domains.any fun other => decide (other.id ∈ issuance.domainIds) && decide (other.id ≠ id) && other.isActive

/-- The text a request gives to a column that it may leave. -/
def updatedText (value : Option Json) (current : Option String) : Except HttpException (Option String) :=
  match value with
  | none => .ok current
  | some value => do
    let text ← trimText (some value)
    pure (some text)

/-- The row that `updateDomain` saves. -/
def updatedDomain (db : Register) (id : Nat) (dto : DomainDto) : Except HttpException ComplianceDomain :=
  match db.domains.find? fun domain => domain.id = id with
  | none => .error (.notFound "Compliance domain not found")
  | some domain => do
    check (¬ (dto.isActive.any (fun value => value matches .bool false) = true ∧ domain.isActive = true ∧
        db.affected id ≠ []))
      (.badRequest "Reassign affected included issuances to another active domain before deactivating this domain")
    let name ← updatedText dto.name (some domain.name)
    let description ← updatedText dto.description domain.description
    pure { domain with
      name := name.getD ""
      description := description.filter fun text => text ≠ ""
      isActive := (dto.isActive.map Json.truthy).getD domain.isActive }

def updateDomain (id : Nat) (dto : DomainDto) : RegisterM Unit := do
  let domain ← reads fun db => updatedDomain db id dto
  modify fun db => { db with domains := db.domains.map fun row => if row.id = id then domain else row }

end ComplianceHub.References
