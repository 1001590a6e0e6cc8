import ComplianceHub.Documents.Periods

/-!
# Default deadlines

`MetricsService.calculateDeadline` : the date until which a document is on time, from its stored period and year.

* `compactMonth`, `compactRange`, `quarterWithYear`, `monthWithYear` : the notations of periods;
* `inferSubmissionFrequency`, `parsePeriod` : how often a document of a period is due, and the last month of the period;
* `calculateDeadline` : the deadline, with what a rule configures.
-/

namespace ComplianceHub.Metrics

open ComplianceHub.Documents (SubmissionFrequency quarterToken)

/-! ## Notations of periods -/

/-- The number of decimal digits. -/
def digitsValue (digits : List Char) : Nat := digits.foldl (fun n c => 10 * n + (c.toNat - '0'.toNat)) 0

/-- `^(\d{4})(\d{2})$` -/
def compactMonth : List Char → Option (List Char × List Char)
  | [a, b, c, d, m, n] => if [a, b, c, d, m, n].all Char.isDigit then some ([a, b, c, d], [m, n]) else none
  | _ => none

/-- `^(\d{4})(\d{2})-(\d{2})$` -/
def compactRange : List Char → Option (List Char × List Char × List Char)
  | [a, b, c, d, m, n, dash, p, q] =>
    if [a, b, c, d, m, n, p, q].all Char.isDigit && dash = '-' then some ([a, b, c, d], [m, n], [p, q]) else none
  | _ => none

/-- `^Q([1-4])$` -/
def quarterOnly (text : List Char) : Option Nat := (quarterToken text).map fun n => n.toNat - '0'.toNat

/-- `^(\d{4})-?Q([1-4])$` -/
def quarterWithYear : List Char → Option (List Char × Nat)
  | a :: b :: c :: d :: rest =>
    if [a, b, c, d].all Char.isDigit then
      (quarterOnly (if rest.head? = some '-' then rest.tail else rest)).map ([a, b, c, d], ·)
    else none
  | _ => none

/-- `^(\d{1,2})$` -/
def monthOnly (text : List Char) : Option (List Char) :=
  if 1 ≤ text.length ∧ text.length ≤ 2 ∧ text.all Char.isDigit = true then some text else none

/-- `^(\d{4})-(\d{1,2})$` -/
def monthWithYear : List Char → Option (List Char × List Char)
  | a :: b :: c :: d :: dash :: rest =>
    if [a, b, c, d].all Char.isDigit && dash = '-' then (monthOnly rest).map ([a, b, c, d], ·) else none
  | _ => none

/-- `^(\d{4})$` -/
def yearOnly (text : List Char) : Option (List Char) :=
  if text.length = 4 ∧ text.all Char.isDigit = true then some text else none

/-- `Q[1-4]` somewhere. -/
def hasQuarter (text : List Char) : Bool := text.tails.any fun rest => (quarterToken (rest.take 2)).isSome

/-- `parseInt(text, 10)`, none where it is not a number. -/
def parseInt (text : List Char) : Option Int :=
  match text.dropWhile isSpace with
  | [] => none
  | c :: rest =>
    let digits := (if c = '-' ∨ c = '+' then rest else c :: rest).takeWhile Char.isDigit
    if digits = [] then none else some (if c = '-' then -digitsValue digits else digitsValue digits)

/-! ## Dates -/

/-- A local date; months count from zero. -/
structure LocalDate where
  year : Int
  monthIndex : Int
  day : Int
deriving DecidableEq, Repr

/-- `new Date(year, monthIndex, day)` : the years 0 to 99 are of the last century, and other months run over. -/
def newDate (year monthIndex day : Int) : LocalDate :=
  let year := if 0 ≤ year ∧ year ≤ 99 then 1900 + year else year
  { year := year + monthIndex / 12, monthIndex := monthIndex % 12, day }

/-- The months before a date. -/
def LocalDate.months (date : LocalDate) : Int := 12 * date.year + date.monthIndex

/-! ## Deadlines -/

/-- What the rule of a date check configures; a date or an expression that is none is left out. -/
structure DeadlineRule where
  deadline_date : Option LocalDate := none
  deadline_day : Option Rat := none
  deadline_month_offset : Option Rat := none
  submission_frequency : Option String := none
  submission_month : Option Rat := none
  /-- The groups that the expression for custom periods finds in a text. -/
  custom_period_regex : Option (String → Option (List (Option String))) := none
  custom_period_year_group : Option Rat := none
  custom_period_month_group : Option Rat := none
  custom_period_fallback_month : Option Rat := none

structure ParsedPeriod where
  baseYear : Int
  /-- None where the month is not a number. -/
  baseMonthIndex : Option Int
deriving DecidableEq, Repr

/-- How often a report is due; none for other texts. -/
def frequencyOf (text : String) : Option SubmissionFrequency :=
  match text with
  | "monthly" => some .monthly
  | "quarterly" => some .quarterly
  | "annual" => some .annual
  | "custom" => some .custom
  | _ => none

/-- `Math.min(Math.max(n, low), high)` -/
def clamp (low high n : Int) : Int := min (max n low) high

/-- Towards zero. -/
def truncate (x : Rat) : Int := if 0 ≤ x then x.floor else x.ceil

def inferSubmissionFrequency (period : String) : SubmissionFrequency :=
  let normalized := (trim period).toList
  if hasQuarter normalized then .quarterly
  else if (compactRange normalized).isSome then .quarterly
  else if (compactMonth normalized).isSome then .monthly
  else if (monthWithYear normalized).isSome then .monthly
  else .annual

def monthIndexOf (digits : List Char) : Int := clamp 0 11 (digitsValue digits - 1)

def parseQuarter (normalized : List Char) (fallbackYear : Int) : Option ParsedPeriod :=
  match compactRange normalized with
  | some (year, _, endMonth) => some ⟨digitsValue year, some (monthIndexOf endMonth)⟩
  | none =>
    match quarterWithYear normalized with
    | some (year, quarter) => some ⟨digitsValue year, some (quarter * 3 - 1)⟩
    | none => (quarterOnly normalized).map fun quarter => ⟨fallbackYear, some (quarter * 3 - 1)⟩

def parseMonth (normalized : List Char) (fallbackYear : Int) : Option ParsedPeriod :=
  match compactMonth normalized with
  | some (year, month) => some ⟨digitsValue year, some (monthIndexOf month)⟩
  | none =>
    match monthWithYear normalized with
    | some (year, month) => some ⟨digitsValue year, some (monthIndexOf month)⟩
    | none => (monthOnly normalized).map fun month => ⟨fallbackYear, some (monthIndexOf month)⟩

def parseYear (normalized : List Char) (fallbackYear : Int) (rule : DeadlineRule) : ParsedPeriod :=
  let configuredSubmissionMonth := (rule.submission_month.map fun month => clamp 1 12 month.floor).getD 12
  match yearOnly normalized with
  | some year => ⟨digitsValue year, some (configuredSubmissionMonth - 1)⟩
  | none => ⟨fallbackYear, some (configuredSubmissionMonth - 1)⟩

/-- A group of a match, read as a number; an absent or an empty one is the fallback. -/
def groupValue (groups : List (Option String)) (group fallback : Int) : Option Int :=
  match ((if group < 0 then none else (groups[group.toNat]?).join).filter (· ≠ "")) with
  | some text => parseInt text.toList
  | none => some fallback

def parseCustom (normalized : String) (fallbackYear : Int) (rule : DeadlineRule) : ParsedPeriod :=
  let fallbackMonthIndex := (rule.custom_period_fallback_month.map fun month => clamp 0 11 (month.floor - 1)).getD 11
  match rule.custom_period_regex.bind fun regex => regex normalized with
  | some groups =>
    let yearGroup := (rule.custom_period_year_group.map Rat.floor).getD 1
    let monthGroup := (rule.custom_period_month_group.map Rat.floor).getD 2
    ⟨(groupValue groups yearGroup fallbackYear).getD fallbackYear,
      (groupValue groups monthGroup (fallbackMonthIndex + 1)).map fun month => clamp 0 11 (month - 1)⟩
  | none => ⟨fallbackYear, some fallbackMonthIndex⟩

def parsePeriod (period : String) (fallbackYear : Int) (submissionFrequency : Option SubmissionFrequency)
    (rule : DeadlineRule) : Option ParsedPeriod :=
  let normalized := trim period
  match submissionFrequency with
  | some .quarterly => parseQuarter normalized.toList fallbackYear
  | some .monthly => parseMonth normalized.toList fallbackYear
  | some .annual => some (parseYear normalized.toList fallbackYear rule)
  | some .custom => some (parseCustom normalized fallbackYear rule)
  | none => none

/-- The deadline of a stored period. There is none where the period is absent, which raises an exception, or its month is not
a number. -/
def calculateDeadline (currentYear : Nat) (period year : Option String) (rule : DeadlineRule) : Option LocalDate :=
  let safeYear := (parseInt (year.getD "null").toList).getD currentYear
  if rule.deadline_date.isSome then rule.deadline_date
  else period.bind fun period =>
    let deadlineDay := (rule.deadline_day.map fun day => clamp 1 28 day.floor).getD 5
    let monthOffset := rule.deadline_month_offset.getD 1
    let submissionFrequency := match (rule.submission_frequency.map String.toLower).filter (· ≠ "") with
      | some text => frequencyOf text
      | none => some (inferSubmissionFrequency period)
    let normalized := (trim period).toList
    match parsePeriod period safeYear submissionFrequency rule with
    | some parsed => parsed.baseMonthIndex.map fun month => newDate parsed.baseYear (truncate (month + monthOffset)) deadlineDay
    | none => some <|
      match quarterOnly normalized with
      | some quarter => newDate safeYear (truncate (quarter * 3 - 1 + monthOffset)) deadlineDay
      | none =>
        match monthWithYear normalized with
        | some (year, month) => newDate (digitsValue year) (truncate (digitsValue month - 1 + monthOffset)) deadlineDay
        | none => newDate (safeYear + 1) 0 deadlineDay

end ComplianceHub.Metrics
