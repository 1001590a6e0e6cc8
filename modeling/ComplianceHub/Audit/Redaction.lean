import ComplianceHub.Json

/-!
# Redaction of audit data

* `Value` : a value in memory. The text of `JSON.stringify` is the `Json` that it spells;
* `redactAuditValue` : secrets are redacted by the name of their property, at any depth;
* `stringify` : `JSON.stringify`, none for `undefined`;
* `asText` : `String(value)`.
-/

namespace ComplianceHub.Audit

inductive Value where
  | undefined
  | null
  | bool (value : Bool)
  | number (value : Rat)
  | string (text : String)
  | date (time : Int)
  | array (items : List Value)
  | object (fields : List (String × Value))

/-- The own properties of an object. -/
abbrev Fields := List (String × Value)

/-- The texts of dates. -/
structure Runtime where
  toISOString : Int → String
  dateText : Int → String

def SENSITIVE_FIELD_NAMES : List String :=
  ["password", "passwordHash", "password_hash", "defaultPassword", "default_password", "mfaCode", "mfa_code",
    "mfaExpiresAt", "mfa_expires_at", "mfaLastVerifiedAt", "mfa_last_verified_at", "mfaAttempts", "mfa_attempts",
    "mfaChallengeAttempts", "mfa_challenge_attempts", "mfaLockedUntil", "mfa_locked_until", "token", "tokenHash",
    "token_hash", "otpHash", "otp_hash", "sessionHash", "session_hash", "refreshToken", "refresh_token", "accessToken",
    "access_token", "secret", "smtpPassword", "smtp_password", "googleSub", "google_sub"]

namespace Value

/-- `value === null || value === undefined` -/
def isNullish : Value → Bool
  | undefined | null => true
  | _ => false

/-- `value && typeof value === 'object'` -/
def isObject : Value → Bool
  | date _ | array _ | object _ => true
  | _ => false

/-- `value[name]` -/
def get (value : Value) (name : String) : Value :=
  match value with
  | object fields => (fields.lookup name).getD undefined
  | _ => undefined

end Value

variable (rt : Runtime)

mutual

/-- Recursively redact secrets from audit data. -/
def redactAuditValue : Value → Value
  | .array items => .array (redactItems items)
  | .date time => .string (rt.toISOString time)
  | .object fields => .object (redactFields fields)
  | value => value

def redactItems : List Value → List Value
  | [] => []
  | item :: rest => redactAuditValue item :: redactItems rest

def redactFields : List (String × Value) → List (String × Value)
  | [] => []
  | (key, child) :: rest =>
    (key, if key ∈ SENSITIVE_FIELD_NAMES then .string "[REDACTED]" else redactAuditValue child) :: redactFields rest

end

mutual

/-- `JSON.stringify(value)` -/
def stringify : Value → Option Json
  | .undefined => none
  | .null => some .null
  | .bool value => some (.bool value)
  | .number value => some (.number value)
  | .string text => some (.string text)
  | .date time => some (.string (rt.toISOString time))
  | .array items => some (.array (stringifyItems items))
  | .object fields => some (.object (stringifyFields fields))

def stringifyItems : List Value → List Json
  | [] => []
  | item :: rest => (stringify item).getD .null :: stringifyItems rest

/-- Properties that are `undefined` are left out. -/
def stringifyFields : List (String × Value) → List (String × Json)
  | [] => []
  | (key, child) :: rest =>
    match stringify child with
    | some text => (key, text) :: stringifyFields rest
    | none => stringifyFields rest

end

mutual

/-- `String(value)` -/
def asText : Value → String
  | .undefined => "undefined"
  | .null => "null"
  | .bool value => toString value
  | .number value => numberText value
  | .string text => text
  | .date time => rt.dateText time
  | .array items => ",".intercalate (itemTexts items)
  | .object _ => "[object Object]"

def itemTexts : List Value → List String
  | [] => []
  | item :: rest => (if item.isNullish then "" else asText item) :: itemTexts rest

end

/-- `String(value ?? '').trim()` -/
def trimmedText (value : Value) : String := if value.isNullish then "" else trim (asText rt value)

/-- `a ?? b` -/
def orElse (a b : Value) : Value := if a.isNullish then b else a

def formatPersonName (person : Value) : String :=
  let parts := [orElse (person.get "firstName") (person.get "first_name"),
    orElse (person.get "middleName") (person.get "middle_name"),
    orElse (person.get "lastName") (person.get "last_name"), person.get "suffix"]
  let name := " ".intercalate ((parts.map (trimmedText rt)).filter fun part => part ≠ "")
  if name = "" then trimmedText rt (person.get "email") else name

end ComplianceHub.Audit
