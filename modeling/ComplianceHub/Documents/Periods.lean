import ComplianceHub.Documents.Types

/-!
# The periods of submissions

* `getMonthlySuffix`, `getQuarterlySuffix`, `getAnnualSuffix` : the suffix of the file of an assignment;
* `computePeriodSuffix`, `computePeriodSuffixFromParts` : the suffix of the file of a reportorial document;
* `buildExpectedFileBase`, `computeExpectedFilename` : the names the files are expected to have.
-/

namespace ComplianceHub.Documents

/-! ## Texts -/

def fourDigits (text : List Char) : Option String :=
  if text.length = 4 ∧ text.all Char.isDigit = true then some (String.ofList text) else none

/-- `padStart(2, '0')` -/
def padStart2 (text : String) : String := String.ofList (List.replicate (2 - text.length) '0') ++ text

/-- One digit or two, padded. -/
def monthDigits (text : List Char) : Option String :=
  if 1 ≤ text.length ∧ text.length ≤ 2 ∧ text.all Char.isDigit = true then some (padStart2 (String.ofList text)) else none

def quarterDigit (c : Char) : Option Char := if ['1', '2', '3', '4'].contains c then some c else none

/-- `Q` and a quarter. -/
def quarterToken : List Char → Option Char
  | [q, n] => if q = 'Q' ∨ q = 'q' then quarterDigit n else none
  | _ => none

/-- `\s+` becomes one blank. -/
def collapseSpaces : List Char → List Char
  | [] => []
  | [c] => [if isSpace c then ' ' else c]
  | c :: d :: rest =>
    if isSpace c then if isSpace d then collapseSpaces (d :: rest) else ' ' :: collapseSpaces (d :: rest)
    else c :: collapseSpaces (d :: rest)

def normalizeDocumentType (documentType : String) : String := String.ofList (collapseSpaces (trim documentType).toList)

/-! ## Assignments -/

/-- `^(\d{4})-(\d{1,2})$` -/
def monthlyWithYear (text : List Char) : Option String := do
  let year ← fourDigits (text.take 4)
  let month ← monthDigits (text.drop 5)
  if text[4]? = some '-' then some (year ++ month) else none

def getMonthlySuffix (period year : String) : Except HttpException String :=
  match monthlyWithYear (trim period).toList <|> (monthDigits (trim period).toList).map (year ++ ·) with
  | some suffix => .ok suffix
  | none => .error (.badRequest "Monthly reports require period format MM or YYYY-MM")

/-- `^(\d{4})-?Q([1-4])$` -/
def quarterlyWithYear (text : List Char) : Option String := do
  let year ← fourDigits (text.take 4)
  let quarter ← if text[4]? = some '-' then quarterToken (text.drop 5) else quarterToken (text.drop 4)
  some (year ++ "Q" ++ String.ofList [quarter])

def getQuarterlySuffix (period year : String) : Except HttpException String :=
  match quarterlyWithYear (trim period).toList <|>
      (quarterToken (trim period).toList).map fun quarter => year ++ "Q" ++ String.ofList [quarter] with
  | some suffix => .ok suffix
  | none => .error (.badRequest "Quarterly reports require period format Q1..Q4 or YYYY-Q1..Q4")

def getAnnualSuffix (year : String) : Except HttpException String :=
  match fourDigits year.toList with
  | some year => .ok year
  | none => .error (.badRequest "Annual reports require a 4-digit year")

/-- A period that is trimmed or searched must be there. -/
def present (period : Option String) : Except HttpException String :=
  match period with
  | some period => .ok period
  | none => .error internalError

/-- What an absent year is in a text. -/
def yearText (year : Option String) : String := year.getD "undefined"

/-- The suffix of an assignment's file; a custom frequency has letters and digits of the period. -/
def assignmentSuffix (frequency : SubmissionFrequency) (period year : Option String) : Except HttpException String :=
  match frequency with
  | .monthly => present period >>= fun period => getMonthlySuffix period (yearText year)
  | .quarterly => present period >>= fun period => getQuarterlySuffix period (yearText year)
  | .annual => getAnnualSuffix (yearText year)
  | .custom => do
    let period ← present period
    pure (yearText year ++ String.ofList ((period.toList.filter Char.isAlphanum).map Char.toUpper))

def buildExpectedFileBase (assignment : DocumentAssignment) (period year : Option String) : Except HttpException String :=
  let filePrefix := (trim ((DocumentAssignment.filename_prefix assignment).getD "")).toUpper
  if filePrefix = "" then .ok "" else (assignmentSuffix assignment.submission_frequency period year).map (filePrefix ++ ·)

/-! ## Reportorial documents -/

def quarterSuffix (year : String) (quarter : Nat) : String :=
  year ++ padStart2 (toString ((quarter - 1) * 3 + 1)) ++ "-" ++ padStart2 (toString (quarter * 3))

/-- The suffix of the current period. -/
def computePeriodSuffix (s : Services) (frequency : ReportorialFrequency) : String :=
  match frequency with
  | .monthly => toString s.year ++ padStart2 (toString s.month)
  | .quarterly => quarterSuffix (toString s.year) ((s.month + 2) / 3)
  | .annual => toString s.year

/-- `/^[Qq]?([1-4])$/`, as a number. -/
def quarterOf (period : List Char) : Option Nat :=
  match period with
  | [n] => (quarterDigit n).map fun n => n.toNat - '0'.toNat
  | _ => (quarterToken period).map fun n => n.toNat - '0'.toNat

/-- The suffix of the parts that were sent. -/
def computePeriodSuffixFromParts (s : Services) (frequency : ReportorialFrequency) (yearStr periodStr : String) : String :=
  let year := if yearStr = "" then toString s.year else yearStr
  match frequency with
  | .monthly => year ++ padStart2 (if periodStr = "" then toString s.month else periodStr)
  | .quarterly => quarterSuffix year ((quarterOf periodStr.toList).getD ((s.month + 2) / 3))
  | .annual => year

end ComplianceHub.Documents
