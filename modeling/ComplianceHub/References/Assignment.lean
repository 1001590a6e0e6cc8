import ComplianceHub.Lib.Rows
import ComplianceHub.References.Register

/-!
# The row that an update of an issuance writes

`updateIssuance` over the whole row: every key of a body is assigned to the issuance in memory, except those that the
controller and the service take out, and the row of the id in memory is written.

* `StoredIssuance` : a row, with the columns of `issuanceColumns`; `Entity` : an issuance in memory;
* `save` : the write of an entity, to the row with its id, or to a new one;
* `IssuanceService.updateIssuance`, `IssuanceController.updateIssuance` : the rows that they leave. The writes to the
  other tables are not followed, only the exceptions on the way;
* `Confined` : the frame of an update, which is kept exactly if the body does not name another issuance, and the stored
  decision is not one that the lifecycle forbade before (`updateIssuance_confined_iff`).
-/

namespace ComplianceHub.References.Assignment

/-- An object of a body. -/
abbrev Fields := List (String × Json)

/-! ## Rows -/

inductive ColumnType where
  | requiredText | text | bool
  /-- A date, a number or a content. -/
  | other
deriving DecidableEq, Repr

/-- The columns of the table, without the id. -/
def issuanceColumns : List (String × ColumnType) :=
  [("issuance_number", .requiredText), ("title", .requiredText), ("description", .text), ("issuance_type", .text),
    ("primary_register", .requiredText), ("lifecycle_status", .requiredText),
    ("applicability_status", .requiredText), ("register_decision", .requiredText), ("scope_profile", .requiredText),
    ("status_reason", .text), ("applicability_scope", .text), ("relevance_notes", .text), ("binding_nature", .text),
    ("adoption_basis", .text), ("applicable_provisions", .text), ("compliance_obligations", .text),
    ("required_evidence", .text), ("evidence_location", .text), ("process_owner", .text),
    ("accountable_user_id", .other), ("frequency_cadence", .text), ("compliance_status", .text),
    ("gap_summary", .text), ("action_required", .text), ("target_date", .other), ("last_review_date", .other),
    ("quarterly_readiness", .text), ("q1_compliance_status", .text), ("q2_compliance_status", .text),
    ("q3_compliance_status", .text), ("q4_compliance_status", .text), ("register_added_at", .other),
    ("is_amendment", .bool), ("amended_issuance_number", .text), ("ict_amendment_notes", .text),
    ("issuing_authority", .requiredText), ("issue_date", .other), ("issue_date_precision", .requiredText),
    ("approval_date", .other), ("effectivity_date", .other), ("effectivity_date_precision", .requiredText),
    ("end_date", .other), ("source_url", .text), ("attachment_file_name", .text), ("attachment_mime_type", .text),
    ("attachment_blob", .other), ("attachment_uploaded_at", .other), ("is_active", .bool), ("created_at", .other),
    ("updated_at", .other)]

structure StoredIssuance where
  id : String
  value : String → Json

/-- The text of a column. -/
def StoredIssuance.text (row : StoredIssuance) (name : String) : String :=
  match row.value name with
  | .string text => text
  | _ => ""

/-- The tables that an update reads. -/
structure Catalogue where
  issuances : List StoredIssuance
  distinct : (issuances.map StoredIssuance.id).Nodup
  domains : List ComplianceDomain := []
  /-- The rows of `issuance_domains`. -/
  issuanceDomains : List (String × Nat) := []
  /-- The issuance of each source. -/
  sources : List String := []

structure Services extends References.Services where
  /-- What a date, a number or a content becomes in its column, none where the database refuses it. -/
  otherValue : String → Json → Option Json
  /-- The id of a row that is inserted under a value, none where the database refuses it. -/
  insertedId : Json → Option String
  /-- Whether the values of the relations that a body assigns can be saved. -/
  savesRelations : Fields → Bool
  writtenAt : Json

namespace Catalogue

variable (db : Catalogue)

def issuance? (id : String) : Option StoredIssuance := db.issuances.find? fun issuance => issuance.id = id

def findIssuance (id : String) : Except HttpException StoredIssuance :=
  match db.issuance? id with
  | some issuance => .ok issuance
  | none => .error (.notFound "Issuance not found")

def numbered (issuance_number : String) : Option StoredIssuance :=
  db.issuances.find? fun issuance => issuance.value "issuance_number" = .string issuance_number

def domainsOf (id : String) : List ComplianceDomain :=
  db.domains.filter fun domain => (id, domain.id) ∈ db.issuanceDomains

end Catalogue

/-! ## Values in memory -/

structure Entity where
  id : Json
  value : String → Json
  domains : Json

/-- `domain.name` -/
def property (name : String) : Json → Except HttpException (Option Json)
  | .null => .error internalError
  | .object fields => .ok (fields.lookup name)
  | _ => .ok none

def domainJson (domain : ComplianceDomain) : Json :=
  .object [("id", .number domain.id), ("isActive", .bool domain.isActive)]

def domainsJson (domains : List ComplianceDomain) : Json := .array (domains.map domainJson)

/-- The ids of the domains in memory, where they are numbers. -/
def domainIds : Json → Except HttpException (List Nat)
  | .array items => do
    let ids ← items.mapM (property "id")
    pure (ids.filterMap fun id =>
      match id with
      | some (.number value) => if value.den = 1 ∧ 0 ≤ value then some value.num.toNat else none
      | _ => none)
  | _ => .error internalError

def someItemActive : List Json → Except HttpException Bool
  | [] => .ok false
  | item :: rest => do
    let isActive ← property "isActive" item
    if isTruthy isActive then pure true else someItemActive rest

/-- `domains?.some((domain) => domain.isActive)` -/
def someActive : Json → Except HttpException Bool
  | .null => .ok false
  | .array items => someItemActive items
  | _ => .error internalError

/-! ## Requests -/

/-- The fields that belong to the assessments of an issuance. -/
def assessmentFields : List String :=
  ["compliance_status", "evidence_location", "gap_summary", "action_required", "target_date", "last_review_date",
    "quarterly_readiness", "q1_compliance_status", "q2_compliance_status", "q3_compliance_status",
    "q4_compliance_status"]

def without (names : List String) (fields : Fields) : Fields := fields.filter fun field => field.1 ∉ names

/-- What the service assigns of a request. -/
def catalogData (dto : Fields) : Fields := without ("domain_ids" :: assessmentFields) dto

/-- The fields of a request that the checks read. -/
def checkedFields (dto : Fields) : IssuanceDto where
  primary_register := dto.lookup "primary_register"
  lifecycle_status := dto.lookup "lifecycle_status"
  applicability_status := dto.lookup "applicability_status"
  register_decision := dto.lookup "register_decision"
  scope_profile := dto.lookup "scope_profile"
  status_reason := dto.lookup "status_reason"

/-- What the controller passes on. -/
def payload (canReview : Bool) (body : Fields) : Fields :=
  without (if canReview then ["register_decision"] else ["register_decision", "applicability_status"]) body

/-! ## Checks -/

def nextLifecycle (issuance : StoredIssuance) (dto : Fields) : String :=
  orElse (dto.lookup "lifecycle_status") (issuance.text "lifecycle_status")

/-- The value of a column after `Object.assign`. -/
def assignedValue (issuance : StoredIssuance) (dto : Fields) (name : String) : Json :=
  ((catalogData dto).lookup name).getD (issuance.value name)

/-- The value of a column that is to be saved. -/
def entityValue (issuance : StoredIssuance) (dto : Fields) (name : String) : Json :=
  if name = "is_active" then .bool (nextLifecycle issuance dto = "active")
  else if name = "register_decision" then
    decisionAfter (issuance.text "lifecycle_status") (nextLifecycle issuance dto) (assignedValue issuance dto name)
  else assignedValue issuance dto name

/-- The domains of the issuance in memory. -/
def entityDomains (db : Catalogue) (issuance : StoredIssuance) (dto : Fields) : Except HttpException Json :=
  let assigned := ((catalogData dto).lookup "domains").getD (domainsJson (db.domainsOf issuance.id))
  match dto.lookup "domain_ids" with
  | none => .ok assigned
  | some ids => do
    let allowedInactiveIds ← domainIds assigned
    let domains ← resolveDomains { domains := db.domains } (some ids) allowedInactiveIds
    pure (domainsJson domains)

/-- The issuance after the assignments of the service. -/
def assignedEntity (db : Catalogue) (issuance : StoredIssuance) (dto : Fields) : Except HttpException Entity := do
  let domains ← entityDomains db issuance dto
  pure {
    id := ((catalogData dto).lookup "id").getD (.string issuance.id)
    value := entityValue issuance dto
    domains }

def assertAmendmentTarget (db : Catalogue) (issuanceId : String) (is_amendment amended_issuance_number : Json) :
    Except HttpException Unit :=
  if is_amendment.truthy then do
    match ← trimmed (some amended_issuance_number) with
    | none => .error (.badRequest "Amended Issuance Number is required")
    | some number =>
      match db.numbered number with
      | none => .error (.badRequest "The amended issuance could not be found")
      | some target => check (target.id ≠ issuanceId) (.badRequest "An issuance cannot amend itself")
  else .ok ()

def assertIncluded (db : Catalogue) (id : String) (entity : Entity) : Except HttpException Unit := do
  check ((entity.value "lifecycle_status").isText "active" = true) onlyActive
  check (((entity.value "applicability_status").isText "applicable" ||
    (entity.value "applicability_status").isText "partially_applicable") = true) onlyApplicable
  let active ← someActive entity.domains
  check (active = true) domainRequired
  givenThat (decide (id ∉ db.sources)) (assertText (some (entity.value "source_url")) sourceRequired)

/-! ## The write -/

/-- What a column holds after the write of a value. -/
def ColumnType.write (s : Services) (type : ColumnType) (name : String) (value : Json) : Except HttpException Json :=
  match type with
  | requiredText => (References.requiredText s.toServices value).map Json.string
  | text => (columnText s.toServices value).map nullable
  | bool => (columnBool value).map Json.bool
  | other => (s.otherValue name value).elim (.error internalError) .ok

/-- What a column holds after a row is updated: only values that differ are written. -/
def StoredIssuance.columnAfter (s : Services) (row : StoredIssuance) (value : String → Json) (name : String) :
    Except HttpException Json :=
  match issuanceColumns.lookup name with
  | none => .ok (row.value name)
  | some type =>
    if value name = row.value name then .ok (if name = "updated_at" then s.writtenAt else row.value name)
    else type.write s name (value name)

/-- The row after an update. -/
def StoredIssuance.updated (s : Services) (row : StoredIssuance) (value : String → Json) :
    Except HttpException StoredIssuance :=
  if ∀ column ∈ issuanceColumns, value column.1 = row.value column.1 then .ok row
  else do
    check (∀ column ∈ issuanceColumns, (row.columnAfter s value column.1).isOk = true) internalError
    pure { row with value := fun name => (row.columnAfter s value name).toOption.getD .null }

/-- A new row. -/
def insertedIssuance (s : Services) (id : String) (value : String → Json) : Except HttpException StoredIssuance := do
  check (∀ column ∈ issuanceColumns, (column.2.write s column.1 (value column.1)).isOk = true) internalError
  pure { id, value := fun name =>
    match issuanceColumns.lookup name with
    | none => .null
    | some type => (type.write s name (value name)).toOption.getD .null }

/-- No other row has the number of a row. -/
def NumberFree (rows : List StoredIssuance) (row : StoredIssuance) : Prop :=
  ∀ other ∈ rows, other.id ≠ row.id → other.value "issuance_number" ≠ row.value "issuance_number"

instance (rows : List StoredIssuance) (row : StoredIssuance) : Decidable (NumberFree rows row) :=
  inferInstanceAs (Decidable (∀ _ ∈ _, _))

/-- `issuanceRepo.save` -/
def save (s : Services) (rows : List StoredIssuance) (entity : Entity) : Except HttpException (List StoredIssuance) :=
  match rows.find? fun row => Json.string row.id = entity.id with
  | some row => do
    let saved ← row.updated s entity.value
    check (NumberFree rows saved) internalError
    pure (rows.map fun other => if other.id = row.id then saved else other)
  | none => do
    let id ← (s.insertedId entity.id).elim (.error internalError) .ok
    let saved ← insertedIssuance s id entity.value
    check (saved.id ∉ rows.map StoredIssuance.id ∧ NumberFree rows saved) internalError
    pure (rows ++ [saved])

/-! ## The update -/

/-- What `syncLegacyAmendmentRelationship` and `syncPrimaryUrlSource` raise. -/
def assertSynced (entity : Entity) : Except HttpException Unit := do
  let _ ← if (entity.value "is_amendment").truthy then trimmed (some (entity.value "amended_issuance_number")) else .ok none
  let _ ← trimmed (some (entity.value "source_url"))

namespace IssuanceService

/-- The rows after a successful update. -/
def updateIssuance (s : Services) (db : Catalogue) (id : String) (dto : Fields) :
    Except HttpException (List StoredIssuance) := do
  validateArchitectureFields (checkedFields dto)
  let issuance ← db.findIssuance id
  givenThat (isTruthy (dto.lookup "lifecycle_status") &&
      decide (nextLifecycle issuance dto ≠ issuance.text "lifecycle_status"))
    (assertText (dto.lookup "status_reason") (.badRequest "Status Reason is required when changing Lifecycle Status"))
  let entity ← assignedEntity db issuance dto
  assertAmendmentTarget db id (entity.value "is_amendment") (entity.value "amended_issuance_number")
  givenThat ((entity.value "register_decision").isText "included") (assertIncluded db id entity)
  check (s.savesRelations (catalogData dto) = true) internalError
  let rows ← save s db.issuances entity
  assertSynced entity
  pure rows

end IssuanceService

def IssuanceController.updateIssuance (s : Services) (db : Catalogue) (canReview : Bool) (id : String) (body : Fields) :
    Except HttpException (List StoredIssuance) :=
  IssuanceService.updateIssuance s db id (payload canReview body)

/-! ## The frame of an update -/

/-- The rules that an update forces on the decision of a row. -/
def DecisionForced (before after : StoredIssuance) : Prop :=
  after.value "register_decision" = before.value "register_decision" ∨
    (before.value "register_decision" = .string "included" ∧ after.value "register_decision" = .string "excluded" ∧
      before.text "lifecycle_status" = "active" ∧ after.text "lifecycle_status" ≠ "active") ∨
    (before.value "register_decision" = .string "excluded" ∧ after.value "register_decision" = .string "pending" ∧
      before.text "lifecycle_status" ≠ "active" ∧ after.text "lifecycle_status" = "active")

/-- The rows after an update of an issuance differ from those before as the update may change them. -/
structure Confined (id : String) (before after : List StoredIssuance) : Prop where
  ids : after.map StoredIssuance.id = before.map StoredIssuance.id
  others : ∀ row ∈ before, row.id ≠ id → row ∈ after
  own : ∀ row ∈ before, row.id = id → ∃ row' ∈ after, row'.id = id ∧
    (∀ name ∈ assessmentFields, row'.value name = row.value name) ∧ DecisionForced row row'

/-- The body has no id but that of the issuance addressed. -/
def NamesOwn (id : String) (body : Fields) : Prop := ∀ value, body.lookup "id" = some value → value = .string id

/-- The issuance is in the register although it is not active, and does not become so. -/
def IncludedInactive (db : Catalogue) (id : String) (body : Fields) : Prop :=
  ∃ row, db.issuance? id = some row ∧ row.value "register_decision" = .string "included" ∧
    row.text "lifecycle_status" ≠ "active" ∧ nextLifecycle row body ≠ "active"

/-- The row that the body names is another one, which already is what the update makes of it. -/
def NamesCopy (s : Services) (db : Catalogue) (canReview : Bool) (id : String) (body : Fields) : Prop :=
  ∃ row other, db.issuance? id = some row ∧ other ∈ db.issuances ∧ other.id ≠ id ∧
    body.lookup "id" = some (.string other.id) ∧ other.updated s (entityValue row (payload canReview body)) = .ok other

theorem lookup_without (names : List String) (name : String) : ∀ fields : Fields,
    (without names fields).lookup name = if name ∈ names then none else fields.lookup name
  | [] => by simp [without]
  | (key, value) :: rest => by
    have ih := lookup_without names name rest
    unfold without at ih ⊢
    by_cases hkey : key ∈ names
    · rw [List.filter_cons_of_neg (by simpa using hkey), ih]
      split_ifs with hname
      · rfl
      · have hne : name ≠ key := fun h => hname (h ▸ hkey)
        rw [List.lookup_cons, beq_false_of_ne hne]
    · rw [List.filter_cons_of_pos (by simpa using hkey), List.lookup_cons, List.lookup_cons, ih]
      by_cases hname : name = key
      · subst hname
        simp [hkey]
      · rw [beq_false_of_ne hname]

theorem lookup_payload {canReview : Bool} {body : Fields} {name : String} (h : name ≠ "applicability_status")
    (h' : name ≠ "register_decision") : (payload canReview body).lookup name = body.lookup name := by
  unfold payload
  rw [lookup_without, if_neg]
  cases canReview <;> simp [h, h']

theorem lookup_payload_decision {canReview : Bool} {body : Fields} :
    (payload canReview body).lookup "register_decision" = none := by
  unfold payload
  rw [lookup_without, if_pos]
  cases canReview <;> simp

theorem lookup_catalogData {dto : Fields} {name : String} (h : name ≠ "domain_ids") (h' : name ∉ assessmentFields) :
    (catalogData dto).lookup name = dto.lookup name := by
  unfold catalogData
  rw [lookup_without, if_neg]
  simp [h, h']

theorem lookup_catalogData_assessment {dto : Fields} {name : String} (h : name ∈ assessmentFields) :
    (catalogData dto).lookup name = none := by
  unfold catalogData
  rw [lookup_without, if_pos (List.mem_cons_of_mem _ h)]

/-! ## A successful update -/

section
variable {s : Services} {db : Catalogue} {id : String} {dto : Fields} {rows : List StoredIssuance}

theorem issuance?_spec {row : StoredIssuance} (h : db.issuance? id = some row) : row ∈ db.issuances ∧ row.id = id := by
  unfold Catalogue.issuance? at h
  exact ⟨List.mem_of_find?_eq_some h, by simpa using List.find?_some h⟩

theorem eq_of_id_eq {row other : StoredIssuance} (hrow : row ∈ db.issuances) (hother : other ∈ db.issuances)
    (h : row.id = other.id) : row = other := List.inj_on_of_nodup_map db.distinct hrow hother h

theorem find?_id {row : StoredIssuance} (hrow : row ∈ db.issuances) :
    db.issuances.find? (fun other => Json.string other.id = .string row.id) = some row := by
  obtain ⟨found, hfound⟩ : ∃ found, db.issuances.find? (fun other => Json.string other.id = .string row.id) = some found :=
    Option.isSome_iff_exists.mp (List.find?_isSome.mpr ⟨row, hrow, by simp⟩)
  have hid := List.find?_some hfound
  simp only [Json.string.injEq, decide_eq_true_eq] at hid
  rw [hfound, eq_of_id_eq (List.mem_of_find?_eq_some hfound) hrow hid]

/-- What a successful update has saved. -/
theorem updateIssuance_spec (h : IssuanceService.updateIssuance s db id dto = .ok rows) :
    ∃ row entity, db.issuance? id = some row ∧ entity.value = entityValue row dto ∧
      entity.id = ((catalogData dto).lookup "id").getD (.string id) ∧ save s db.issuances entity = .ok rows := by
  unfold IssuanceService.updateIssuance at h
  obtain ⟨_, -, h⟩ := bind_eq_ok.mp h
  obtain ⟨row, hrow, h⟩ := bind_eq_ok.mp h
  obtain ⟨_, -, h⟩ := bind_eq_ok.mp h
  obtain ⟨entity, hentity, h⟩ := bind_eq_ok.mp h
  obtain ⟨_, -, h⟩ := bind_eq_ok.mp h
  obtain ⟨_, -, h⟩ := bind_eq_ok.mp h
  obtain ⟨_, -, h⟩ := bind_eq_ok.mp h
  obtain ⟨saved, hsaved, h⟩ := bind_eq_ok.mp h
  obtain ⟨_, -, h⟩ := bind_eq_ok.mp h
  obtain rfl : saved = rows := Except.ok.inj h
  have hfound : db.issuance? id = some row := by
    unfold Catalogue.findIssuance at hrow
    cases hissuance : db.issuance? id with
    | none => rw [hissuance] at hrow; exact absurd hrow (by simp)
    | some issuance => rw [hissuance] at hrow; rw [Except.ok.inj hrow]
  unfold assignedEntity at hentity
  obtain ⟨domains, -, hentity⟩ := bind_eq_ok.mp hentity
  obtain rfl := Except.ok.inj hentity
  refine ⟨row, _, hfound, rfl, ?_, hsaved⟩
  rw [(issuance?_spec hfound).2]

theorem updated_id {row saved : StoredIssuance} {value : String → Json} (h : row.updated s value = .ok saved) :
    saved.id = row.id := by
  unfold StoredIssuance.updated at h
  split_ifs at h with hsame
  · rw [← Except.ok.inj h]
  · obtain ⟨_, -, h⟩ := bind_eq_ok.mp h
    rw [← Except.ok.inj h]

/-- What an update leaves of a row. -/
theorem updated_cases {row saved : StoredIssuance} {value : String → Json} (h : row.updated s value = .ok saved) :
    (∀ column ∈ issuanceColumns, value column.1 = row.value column.1) ∧ saved = row ∨
      ∀ name, saved.value name = (row.columnAfter s value name).toOption.getD .null := by
  unfold StoredIssuance.updated at h
  split_ifs at h with hsame
  · exact .inl ⟨hsame, (Except.ok.inj h).symm⟩
  · obtain ⟨_, -, h⟩ := bind_eq_ok.mp h
    rw [← Except.ok.inj h]
    exact .inr fun _ => rfl

theorem columnAfter_same {row : StoredIssuance} {value : String → Json} {name : String} (hname : name ≠ "updated_at")
    (hvalue : value name = row.value name) : row.columnAfter s value name = .ok (row.value name) := by
  unfold StoredIssuance.columnAfter
  cases issuanceColumns.lookup name with
  | none => rfl
  | some type => simp [hvalue, hname]

/-- A column that no value differs from is left alone. -/
theorem updated_value_eq {row saved : StoredIssuance} {value : String → Json} (h : row.updated s value = .ok saved)
    {name : String} (hname : name ≠ "updated_at") (hvalue : value name = row.value name) :
    saved.value name = row.value name := by
  rcases updated_cases h with ⟨-, hsaved⟩ | hsaved
  · rw [hsaved]
  · rw [hsaved, columnAfter_same hname hvalue]
    rfl

/-- A text that a required column is given is what it holds. -/
theorem updated_value_text {row saved : StoredIssuance} {value : String → Json} (h : row.updated s value = .ok saved)
    {name text : String} (hname : name ≠ "updated_at") (htype : issuanceColumns.lookup name = some .requiredText)
    (hvalue : value name = .string text) : saved.value name = .string text := by
  by_cases hcurrent : value name = row.value name
  · rw [updated_value_eq h hname hcurrent, ← hcurrent, hvalue]
  · rcases updated_cases h with ⟨hsame, -⟩ | hsaved
    · obtain ⟨before, after, hcolumns, -⟩ := List.lookup_eq_some_iff.mp htype
      exact absurd (hsame (name, .requiredText) (by rw [hcolumns]; simp)) hcurrent
    · rw [hsaved]
      unfold StoredIssuance.columnAfter
      rw [htype]
      dsimp only
      rw [if_neg hcurrent, hvalue]
      rfl

/-- A save under the id of a row. -/
theorem save_of_mem {entity : Entity} {row : StoredIssuance} (hrow : row ∈ db.issuances)
    (hid : entity.id = .string row.id) (h : save s db.issuances entity = .ok rows) :
    ∃ saved, row.updated s entity.value = .ok saved ∧
      rows = db.issuances.map fun other => if other.id = row.id then saved else other := by
  unfold save at h
  rw [hid, find?_id hrow] at h
  obtain ⟨saved, hsaved, h⟩ := bind_eq_ok.mp h
  obtain ⟨_, -, h⟩ := bind_eq_ok.mp h
  exact ⟨saved, hsaved, (Except.ok.inj h).symm⟩

/-- A save under no row's id. -/
theorem save_of_not_mem {entity : Entity} (hid : ∀ row ∈ db.issuances, entity.id ≠ .string row.id)
    (h : save s db.issuances entity = .ok rows) : ∃ saved, rows = db.issuances ++ [saved] := by
  have hnone : db.issuances.find? (fun row => Json.string row.id = entity.id) = none :=
    List.find?_eq_none.mpr fun row hrow hrow' => hid row hrow (of_decide_eq_true hrow').symm
  unfold save at h
  rw [hnone] at h
  obtain ⟨_, -, h⟩ := bind_eq_ok.mp h
  obtain ⟨saved, -, h⟩ := bind_eq_ok.mp h
  obtain ⟨_, -, h⟩ := bind_eq_ok.mp h
  exact ⟨saved, (Except.ok.inj h).symm⟩

end

/-! ## The decision -/

section
variable {s : Services} {row saved : StoredIssuance} {dto : Fields}

theorem text_eq_iff {name text : String} (h : text ≠ "") : row.text name = text ↔ row.value name = .string text := by
  unfold StoredIssuance.text
  cases hvalue : row.value name with
  | string own => simp
  | _ => simp [h.symm]

/-- A lifecycle that changes is the one given. -/
theorem entityValue_lifecycle (h : nextLifecycle row dto ≠ row.text "lifecycle_status") :
    entityValue row dto "lifecycle_status" = .string (nextLifecycle row dto) := by
  have hassigned : entityValue row dto "lifecycle_status" =
      (dto.lookup "lifecycle_status").getD (row.value "lifecycle_status") := by
    unfold entityValue assignedValue
    rw [if_neg (by decide), if_neg (by decide), lookup_catalogData (by decide) (by decide)]
  rw [hassigned]
  unfold nextLifecycle orElse at h ⊢
  split at h
  · rename_i text hgiven
    rw [hgiven]
    split_ifs at h ⊢ with hblank
    · exact absurd rfl h
    · rfl
  · exact absurd rfl h

theorem entityValue_decision (h : dto.lookup "register_decision" = none) : entityValue row dto "register_decision" =
    decisionAfter (row.text "lifecycle_status") (nextLifecycle row dto) (row.value "register_decision") := by
  have hassigned : assignedValue row dto "register_decision" = row.value "register_decision" := by
    unfold assignedValue
    rw [lookup_catalogData (by decide) (by decide), h, Option.getD_none]
  unfold entityValue
  rw [if_neg (by decide), if_pos rfl, hassigned]

/-- The lifecycle that is saved, where it changes. -/
theorem text_lifecycle_saved (hsaved : row.updated s (entityValue row dto) = .ok saved)
    (h : nextLifecycle row dto ≠ row.text "lifecycle_status") :
    saved.value "lifecycle_status" = .string (nextLifecycle row dto) :=
  updated_value_text hsaved (by decide) (by decide) (entityValue_lifecycle h)

/-- The decision follows the rules exactly if the issuance was not in the register while not active, to remain so. -/
theorem decisionForced_iff (hdecision : dto.lookup "register_decision" = none)
    (hsaved : row.updated s (entityValue row dto) = .ok saved) : DecisionForced row saved ↔
      ¬ (row.value "register_decision" = .string "included" ∧ row.text "lifecycle_status" ≠ "active" ∧
        nextLifecycle row dto ≠ "active") := by
  have hentity : entityValue row dto _ = _ := entityValue_decision hdecision
  have htext (text : String) (h : entityValue row dto "register_decision" = .string text) :
      saved.value "register_decision" = .string text := updated_value_text hsaved (by decide) (by decide) h
  unfold decisionAfter at hentity
  split_ifs at hentity with hleaves henters
  · have hstored := Json.eq_of_isText hleaves.2
    have hexcluded := htext "excluded" hentity
    constructor
    · rintro (hsame | ⟨-, -, hactive, -⟩ | ⟨hother, -⟩) ⟨-, hinactive, -⟩
      · rw [hexcluded, hstored] at hsame
        exact absurd hsame (by decide)
      · exact hinactive hactive
      · rw [hstored] at hother
        exact absurd hother (by decide)
    · intro hstale
      have hactive : row.text "lifecycle_status" = "active" := by
        by_contra hinactive
        exact hstale ⟨hstored, hinactive, hleaves.1⟩
      have hchanges : nextLifecycle row dto ≠ row.text "lifecycle_status" := by
        rw [hactive]
        exact hleaves.1
      refine .inr (.inl ⟨hstored, hexcluded, hactive, fun hsame => ?_⟩)
      rw [text_eq_iff (by decide), text_lifecycle_saved hsaved hchanges, Json.string.injEq] at hsame
      exact hleaves.1 hsame
  · have hchanges : nextLifecycle row dto ≠ row.text "lifecycle_status" := by
      rw [henters.1]
      exact Ne.symm henters.2.1
    refine iff_of_true (.inr (.inr ⟨Json.eq_of_isText henters.2.2, htext "pending" hentity, henters.2.1, ?_⟩))
      fun hstale => hstale.2.2 henters.1
    rw [text_eq_iff (by decide), text_lifecycle_saved hsaved hchanges, henters.1]
  · refine iff_of_true (.inl (updated_value_eq hsaved (by decide) hentity)) fun hstale => hleaves ⟨hstale.2.2, ?_⟩
    rw [hstale.1]
    decide

end

/-! ## The frame -/

section
variable {s : Services} {db : Catalogue} {canReview : Bool} {id : String} {body : Fields} {rows : List StoredIssuance}

/-- The id under which the update saves. -/
theorem lookup_id : ((catalogData (payload canReview body)).lookup "id").getD (.string id) =
    (body.lookup "id").getD (.string id) := by
  rw [lookup_catalogData (by decide) (by decide), lookup_payload (by decide) (by decide)]

theorem nextLifecycle_payload (row : StoredIssuance) :
    nextLifecycle row (payload canReview body) = nextLifecycle row body := by
  unfold nextLifecycle
  rw [lookup_payload (by decide) (by decide)]

/-- The assessment fields of the row that is saved are those it had. -/
theorem assessmentFields_saved {row saved : StoredIssuance} {dto : Fields}
    (hsaved : row.updated s (entityValue row dto) = .ok saved) :
    ∀ name ∈ assessmentFields, saved.value name = row.value name := by
  intro name hname
  have hother : name ≠ "updated_at" ∧ name ≠ "is_active" ∧ name ≠ "register_decision" := by
    revert name
    decide
  refine updated_value_eq hsaved hother.1 ?_
  unfold entityValue assignedValue
  rw [if_neg hother.2.1, if_neg hother.2.2, lookup_catalogData_assessment hname, Option.getD_none]

/-- A write to a row with its id leaves the list of the ids. -/
theorem map_id_write {row saved : StoredIssuance} (h : saved.id = row.id) (rows : List StoredIssuance) :
    (rows.map fun other => if other.id = row.id then saved else other).map StoredIssuance.id =
      rows.map StoredIssuance.id := by
  rw [List.map_map]
  refine List.map_congr_left fun other _ => ?_
  show (if other.id = row.id then saved else other).id = other.id
  split_ifs with hid
  · rw [h, hid]
  · rfl

/-- An update of the row addressed is confined exactly if its decision follows the rules. -/
theorem confined_write_own {row saved : StoredIssuance} (hrow : row ∈ db.issuances) (hid : row.id = id)
    (hsaved : row.updated s (entityValue row (payload canReview body)) = .ok saved) :
    Confined id db.issuances (db.issuances.map fun other => if other.id = row.id then saved else other) ↔
      DecisionForced row saved := by
  have hsavedId := updated_id hsaved
  constructor
  · intro hconfined
    obtain ⟨row', hrow', hid', -, hforced⟩ := hconfined.own row hrow hid
    obtain ⟨other, -, rfl⟩ := List.mem_map.mp hrow'
    split_ifs at hid' hforced with hother
    · exact hforced
    · exact absurd (hid'.trans hid.symm) hother
  · intro hforced
    refine ⟨map_id_write hsavedId _, fun other hother hne => ?_, fun other hother hsame => ?_⟩
    · exact List.mem_map.mpr ⟨other, hother, if_neg fun h => hne (h.trans hid)⟩
    · obtain rfl := eq_of_id_eq hother hrow (hsame.trans hid.symm)
      exact ⟨saved, List.mem_map.mpr ⟨other, hother, if_pos rfl⟩, hsavedId.trans hid,
        assessmentFields_saved hsaved, hforced⟩

/-- An update of another row is confined exactly if it changes nothing. -/
theorem confined_write_other {other saved : StoredIssuance} (hother : other ∈ db.issuances) (hne : other.id ≠ id)
    (hid : saved.id = other.id) :
    Confined id db.issuances (db.issuances.map fun row => if row.id = other.id then saved else row) ↔ saved = other := by
  constructor
  · intro hconfined
    obtain ⟨row, -, hrow⟩ := List.mem_map.mp (hconfined.others other hother hne)
    split_ifs at hrow with hsame
    · exact hrow
    · exact absurd (congrArg StoredIssuance.id hrow) hsame
  · rintro rfl
    have hunchanged : (db.issuances.map fun row => if row.id = saved.id then saved else row) = db.issuances := by
      conv_rhs => rw [← List.map_id db.issuances]
      refine List.map_congr_left fun row hrow => ?_
      split_ifs with hsame
      · exact (eq_of_id_eq hrow hother hsame).symm
      · rfl
    rw [hunchanged]
    exact ⟨rfl, fun _ hrow _ => hrow, fun row hrow hsame => ⟨row, hrow, hsame, fun _ _ => rfl, .inl rfl⟩⟩

theorem namesOwn_iff : NamesOwn id body ↔ (body.lookup "id").getD (.string id) = .string id := by
  unfold NamesOwn
  cases body.lookup "id" <;> simp

theorem includedInactive_iff {row : StoredIssuance} (h : db.issuance? id = some row) :
    IncludedInactive db id body ↔ row.value "register_decision" = .string "included" ∧
      row.text "lifecycle_status" ≠ "active" ∧ nextLifecycle row body ≠ "active" := by
  unfold IncludedInactive
  rw [h]
  simp

/-- A body that names another row has its id. -/
theorem lookup_of_other {other : String} (h : (body.lookup "id").getD (.string id) = .string other) (hne : other ≠ id) :
    body.lookup "id" = some (.string other) := by
  cases hlookup : body.lookup "id" with
  | none =>
    rw [hlookup] at h
    exact absurd (Json.string.inj h).symm hne
  | some value =>
    rw [hlookup] at h
    exact congrArg some h

/-- A successful update is confined exactly if the body has no other id than that of the issuance, which is not in the
register while not active, to remain so; or if the body names a copy of what it makes. -/
theorem updateIssuance_confined_iff (h : IssuanceController.updateIssuance s db canReview id body = .ok rows) :
    Confined id db.issuances rows ↔
      NamesOwn id body ∧ ¬ IncludedInactive db id body ∨ NamesCopy s db canReview id body := by
  obtain ⟨row, entity, hfound, hvalue, hid, hsave⟩ := updateIssuance_spec h
  obtain ⟨hrow, hrowId⟩ := issuance?_spec hfound
  rw [lookup_id] at hid
  by_cases hown : entity.id = .string id
  · -- the row addressed is written
    have hnames : NamesOwn id body := namesOwn_iff.mpr (hid ▸ hown)
    have hcopy : ¬ NamesCopy s db canReview id body := by
      rintro ⟨_, other, -, -, hne, hlookup, -⟩
      exact hne (Json.string.inj (hnames _ hlookup))
    obtain ⟨saved, hsaved, rfl⟩ := save_of_mem hrow (hrowId.symm ▸ hown) hsave
    rw [hvalue] at hsaved
    rw [confined_write_own hrow hrowId hsaved, decisionForced_iff lookup_payload_decision hsaved,
      nextLifecycle_payload, includedInactive_iff hfound]
    simp only [hnames, hcopy, true_and, or_false]
  · have hnames : ¬ NamesOwn id body := fun hnames => hown (hid.trans (namesOwn_iff.mp hnames))
    simp only [hnames, false_and, false_or]
    by_cases hother : ∃ other ∈ db.issuances, entity.id = .string other.id
    · -- another row is written
      obtain ⟨other, hother, hotherId⟩ := hother
      have hne : other.id ≠ id := fun h => hown (h ▸ hotherId)
      obtain ⟨saved, hsaved, rfl⟩ := save_of_mem hother hotherId hsave
      rw [hvalue] at hsaved
      rw [confined_write_other hother hne (updated_id hsaved)]
      constructor
      · rintro rfl
        exact ⟨row, saved, hfound, hother, hne, lookup_of_other (hid ▸ hotherId) hne, hsaved⟩
      · rintro ⟨row', other', hfound', hother', -, hlookup, hsame⟩
        obtain rfl : row = row' := Option.some.inj (hfound.symm.trans hfound')
        rw [hid, hlookup, Option.getD_some, Json.string.injEq] at hotherId
        obtain rfl := eq_of_id_eq hother' hother hotherId
        exact Except.ok.inj (hsaved.symm.trans hsame)
    · -- a row is inserted
      push Not at hother
      obtain ⟨saved, rfl⟩ := save_of_not_mem hother hsave
      refine iff_of_false (fun hconfined => ?_) fun ⟨_, other, _, hmem, _, hlookup, _⟩ => ?_
      · have hlength := congrArg List.length hconfined.ids
        simp at hlength
      · refine hother other hmem ?_
        rw [hid, hlookup, Option.getD_some]

end

/-! ## Two memoranda -/

/-- A database that keeps dates and numbers as they are given, and takes any text as an id. -/
def officeServices : Services where
  now := 0
  sha256 := fun _ => ""
  compoundText := fun _ => none
  otherValue := fun _ value => some value
  insertedId := fun value =>
    match value with
    | .string text => some text
    | _ => none
  savesRelations := fun fields => fields.all fun field => field.1 ≠ "domains"
  writtenAt := .string "2026-03-02T01:00:00.000Z"

def memorandum (id issuance_number title : String) : StoredIssuance where
  id
  value := fun name => ([("issuance_number", .string issuance_number), ("title", .string title),
    ("primary_register", .string "internal_issuances"), ("lifecycle_status", .string "active"),
    ("applicability_status", .string "applicable"), ("register_decision", .string "pending"),
    ("scope_profile", .string "core"), ("issuing_authority", .string "DSWD"),
    ("issue_date_precision", .string "day"), ("effectivity_date_precision", .string "day"),
    ("is_amendment", .bool false), ("is_active", .bool true),
    ("compliance_status", .string "compliant")] : Fields).lookup name |>.getD .null

def memoranda : Catalogue where
  issuances := [memorandum "a1" "MC-1" "Leave of absence", memorandum "b2" "MC-2" "Flexible work"]
  distinct := by decide

def titled (title : String) : Fields := [("title", .string title), ("register_decision", .string "included")]

theorem memorandum_retitled : ∃ rows,
    IssuanceController.updateIssuance officeServices memoranda false "a1" (titled "Leaves") = .ok rows ∧
      Confined "a1" memoranda.issuances rows := by
  have hsuccess : ((IssuanceController.updateIssuance officeServices memoranda false "a1" (titled "Leaves")).map
      fun _ => ()) = .ok () := by decide +kernel
  obtain ⟨rows, hrows, -⟩ := map_eq_ok.mp hsuccess
  refine ⟨rows, hrows, (updateIssuance_confined_iff hrows).mpr (.inl ⟨?_, ?_⟩)⟩
  · exact namesOwn_iff.mpr (by decide)
  · intro hinactive
    obtain ⟨hincluded, -⟩ := (includedInactive_iff rfl).mp hinactive
    exact absurd hincluded (by decide)

/-- A request for one memorandum with the id of the other. -/
def misdirected : Fields := [("id", .string "b2"), ("issuance_number", .string "MC-3")]

/-- The other memorandum is overwritten. -/
theorem other_memorandum_overwritten : ∃ rows,
    IssuanceController.updateIssuance officeServices memoranda false "a1" misdirected = .ok rows ∧
      ¬ Confined "a1" memoranda.issuances rows := by
  have htitles : ((IssuanceController.updateIssuance officeServices memoranda false "a1" misdirected).map
      (List.map fun row => row.value "title")) =
        .ok [.string "Leave of absence", .string "Leave of absence"] := by decide +kernel
  obtain ⟨rows, hrows, htitles⟩ := map_eq_ok.mp htitles
  refine ⟨rows, hrows, fun hconfined => ?_⟩
  have hkept := hconfined.others (memorandum "b2" "MC-2" "Flexible work") (by simp [memoranda]) (by decide)
  have htitle : (memorandum "b2" "MC-2" "Flexible work").value "title" ∈ rows.map fun row => row.value "title" :=
    List.mem_map_of_mem hkept
  rw [htitles] at htitle
  exact absurd htitle (by decide)

end ComplianceHub.References.Assignment
