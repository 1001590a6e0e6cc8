import ComplianceHub.Audit.Redaction

/-!
# The audit subscriber

`logAudit` : the row that an insert, update or removal leaves in the audit log.
-/

namespace ComplianceHub.Audit

inductive Action where
  | INSERT | UPDATE | DELETE
deriving DecidableEq, Repr

def Action.text : Action → String
  | .INSERT => "INSERT"
  | .UPDATE => "UPDATE"
  | .DELETE => "DELETE"

structure AuditContext where
  email : Option String := none
  ipAddress : Option String := none
  sessionId : Option String := none
deriving DecidableEq, Repr

structure Event where
  tableName : String
  database : Option String := none
  entityId : Value := .undefined
  entity : Option Fields
  databaseEntity : Option Fields := none
  /-- The property names of the columns that an update has written. -/
  updatedColumns : List String := []
  updatedColumns_nodup : updatedColumns.Nodup := by decide

structure AuditRow where
  user_email : String
  action : String
  database_name : String
  table_name : String
  operation_type : String
  row_id : Option String
  description : String
  old_values : Option Json
  new_values : Option Json
  ip_address : String
  session_id : String
deriving DecidableEq

/-- `text || fallback` -/
def textOr (text : Option String) (fallback : String) : String :=
  match text with
  | some text => if text = "" then fallback else text
  | none => fallback

def relationKeys : List String :=
  ["createdBy", "requester", "assignedTo", "category", "issueTypeConfig", "escalatedBy", "escalatedTo", "ticket", "user",
    "unit", "focal", "events", "comments"]

def get (fields : Fields) (name : String) : Value := (Value.object fields).get name

variable (rt : Runtime)

/-- `keepProps[name] = value` -/
def setField (fields : Fields) (name : String) (value : Value) : Fields :=
  if name ∈ fields.map Prod.fst then fields.map fun field => if field.1 = name then (name, value) else field
  else fields ++ [(name, value)]

def isDefined : Value → Bool
  | .undefined => false
  | _ => true

/-- The identifiable properties of a related entity. -/
def keepProps (related : Value) : Fields :=
  let kept := (["id", "email", "name", "username"].map fun name => (name, related.get name)).filter fun field =>
    isDefined field.2
  if ["firstName", "middleName", "lastName", "suffix"].any fun name => isDefined (related.get name) then
    setField kept "name" (.string (formatPersonName rt related))
  else kept

/-- What a property shows: a related entity is cut down to what identifies it. -/
def shown (key : String) (value : Value) : Value :=
  if key ∈ relationKeys ∧ value.isObject = true then
    match keepProps rt value with
    | [] => .string "{Object}"
    | kept => .object kept
  else value

def sanitizeEntity (entity : Fields) : Fields :=
  redactFields rt
    ((entity.map fun field => (field.1, shown rt field.1 field.2)).filter fun field => !field.2.isNullish)

/-- The properties that differ, where an update names no column. -/
def changedKeys (entity : Fields) (databaseEntity : Option Fields) : List String :=
  match databaseEntity with
  | none => []
  | some databaseEntity =>
    (entity.map Prod.fst).filter fun key =>
      stringify rt (get entity key) ≠ stringify rt (get databaseEntity key)

/-- The columns that an update is about. -/
def updatedKeys (event : Event) (entity : Fields) : List String :=
  if event.updatedColumns = [] then changedKeys rt entity event.databaseEntity else event.updatedColumns

def select (entity : Fields) (keys : List String) : Fields := keys.map fun key => (key, get entity key)

/-- The old and the new properties that an event logs. -/
def logged (event : Event) (entity : Fields) : Action → Fields × Fields
  | .INSERT => ([], entity)
  | .DELETE => (event.databaseEntity.getD entity, [])
  | .UPDATE =>
    let keys := updatedKeys rt event entity
    (match event.databaseEntity with
      | some databaseEntity => select databaseEntity keys
      | none => keys.map fun key => (key, .null),
      select entity keys)

/-- The text of a sanitized entity; an update has none for an empty one. -/
def valuesText (fields : Fields) (action : Action) : Option Json :=
  if action = .UPDATE ∧ fields = [] then none else stringify rt (.object fields)

def isTruthy : Value → Bool
  | .undefined | .null => false
  | .bool value => value
  | .number value => value ≠ 0
  | .string text => text ≠ ""
  | _ => true

def rowId (event : Event) (entity : Fields) : Option String :=
  if isTruthy event.entityId then some (asText rt event.entityId)
  else if isTruthy (get entity "id") then some (asText rt (get entity "id"))
  else none

/-- The row of an event, with the sanitized old and new properties. -/
def auditRow (ctx : AuditContext) (event : Event) (entity : Fields) (action : Action) (old new : Fields) : AuditRow where
  user_email := textOr ctx.email "system_fallback@domain.local"
  action := action.text
  database_name := textOr event.database "unknown_db"
  table_name := event.tableName
  operation_type := "APP_" ++ action.text
  row_id := rowId rt event entity
  description := "Application layer " ++ action.text ++ " on " ++ event.tableName
  old_values := if action = .INSERT then none else valuesText rt old action
  new_values := if action = .DELETE then none else valuesText rt new action
  ip_address := textOr ctx.ipAddress "127.0.0.1"
  session_id := textOr ctx.sessionId "system-session"

/-- An update with nothing to log. -/
def isEmptyUpdate (action : Action) (old new : Fields) : Bool := action = .UPDATE && old.isEmpty && new.isEmpty

def logAudit (ctx : AuditContext) (event : Event) (action : Action) : Option AuditRow :=
  match event.entity with
  | none => none
  | some entity =>
    let old := sanitizeEntity rt (logged rt event entity action).1
    let new := sanitizeEntity rt (logged rt event entity action).2
    if event.tableName ∈ ["ticket_events", "audit_log"] then none
    else if isEmptyUpdate action old new then none
    else some (auditRow rt ctx event entity action old new)

end ComplianceHub.Audit
