import ComplianceHub.Lib.Spans
import ComplianceHub.Metrics.Runs
import ComplianceHub.Tickets.KeywordRules

/-!
# Property checks

`PropertyCheckEngine.execute` : a check of a property of a document, or of the numbers that stand by some keywords in its text.

* `numeralLength`, `IsNumeral` : the numerals `-?\d[\d,]*(?:\.\d+)?`;
* `contextOf`, `keywordValueMatch`, `nearest` : the window around a keyword, and the number that is taken from it;
* `extract`, `execute` : the number of a keyword, and the check.

Texts are lists of UTF-16 code units. Letter case, the values of numerals and regular expressions are a `Language`.
-/

namespace ComplianceHub.Metrics

open ComplianceHub.Lib
open ComplianceHub.Tickets (Units units isSpaceUnit)

inductive Comparison where
  | gte
  | lte
  | eq
  | gt
  | lt
deriving DecidableEq, Repr

inductive CheckMode where
  | property_match
  | number_extraction
deriving DecidableEq, Repr

/-- What the language does with texts and numbers. -/
structure Language (Number : Type) where
  toLowerCase : Units → Units
  /-- How a regular expression compares a code unit where case is ignored. -/
  canonicalize : UInt16 → UInt16
  number : Units → Number
  isFinite : Number → Bool
  compares : Comparison → Number → Number → Bool
  toText : Number → Units
  /-- `new RegExp(pattern).test(text)`, or the message of its exception. -/
  test : Units → Units → Except String Bool

structure PropertyCheckConfig (Number : Type) where
  mode : Option CheckMode := none
  field : Units
  pattern : Option Units := none
  expected_value : Option Units := none
  keyword : Option Units := none
  keywords : Option (List Units) := none
  comparison : Option Comparison := none
  comparisons : Option (List Comparison) := none
  expected_number : Option Number := none
  expected_numbers : Option (List Number) := none
  window_chars : Option Rat := none

/-- The check of one keyword. -/
structure KeywordExtraction (Number : Type) where
  keyword : Units
  extracted : Option Number
  expected : Option Number
  comparison : Comparison
  isMatch : Bool

structure PropertyEvidence (Number : Type) where
  mode : CheckMode
  field : Units
  actual_value : Units
  expected_pattern : Option Units := none
  expected_value : Option Units := none
  extracted_number : Option Number := none
  expected_number : Option Number
  comparison : Comparison
  checks : Option (List (KeywordExtraction Number)) := none
  isMatch : Bool

structure PropertyCheckResult (Number : Type) where
  status : MetricStatus
  evidence : PropertyEvidence Number
  message : Units
  score : Rat

/-! ## Numerals -/

def isDigit (c : UInt16) : Bool := 48 ≤ c && c ≤ 57

def isComma (c : UInt16) : Bool := c = 44

def isMinus (c : UInt16) : Bool := c = 45

def isPoint (c : UInt16) : Bool := c = 46

/-- `(?:\.\d+)?` -/
def fractionLength : Units → Nat
  | [] => 0
  | c :: rest =>
    let digits := (rest.takeWhile isDigit).length
    if isPoint c && 0 < digits then digits + 1 else 0

/-- `\d[\d,]*(?:\.\d+)?` -/
def unsignedLength : Units → Option Nat
  | [] => none
  | c :: rest =>
    let whole := (rest.takeWhile fun c => isDigit c || isComma c).length
    if isDigit c then some (1 + whole + fractionLength (rest.drop whole)) else none

/-- `-?\d[\d,]*(?:\.\d+)?` : how much of a text the expression takes from its front. -/
def numeralLength : Units → Option Nat
  | [] => none
  | c :: rest => if isMinus c then (unsignedLength rest).map (· + 1) else unsignedLength (c :: rest)

def IsFraction (word : Units) : Prop :=
  word = [] ∨ ∃ c digits, word = c :: digits ∧ isPoint c = true ∧ digits ≠ [] ∧ ∀ d ∈ digits, isDigit d = true

def IsUnsigned (word : Units) : Prop :=
  ∃ c whole fraction, word = c :: (whole ++ fraction) ∧ isDigit c = true ∧
    (∀ d ∈ whole, (isDigit d || isComma d) = true) ∧ IsFraction fraction

/-- The words of the expression. -/
def IsNumeral (word : Units) : Prop :=
  IsUnsigned word ∨ ∃ c rest, word = c :: rest ∧ isMinus c = true ∧ IsUnsigned rest

/-- `replace(/,/g, '')` -/
def withoutCommas (word : Units) : Units := word.filter fun c => !isComma c

/-! ## The window around a keyword -/

/-- `text.trim()` -/
def trim (text : Units) : Units :=
  ((text.dropWhile isSpaceUnit).reverse.dropWhile isSpaceUnit).reverse

def indexOf (text keyword : Units) : Option Nat :=
  (List.range (text.length + 1)).find? fun i => keyword.isPrefixOf (text.drop i)

/-- An index of `slice`: a negative one counts from the end. -/
def sliceIndex (text : Units) (i : Int) : Nat :=
  if i < 0 then (text.length + i).toNat else min text.length i.toNat

/-- `window_chars || 120`, one half of it to each side. -/
def halfWindow (window_chars : Option Rat) : Int :=
  ((window_chars.filter (· ≠ 0)).getD 120 / 2).floor

def contextStart (window_chars : Option Rat) (index : Nat) : Int := max 0 (index - halfWindow window_chars)

def contextEnd (text keyword : Units) (window_chars : Option Rat) (index : Nat) : Int :=
  min text.length (index + keyword.length + halfWindow window_chars)

/-- Where the context starts in the text, and where it ends. -/
def contextBounds (text keyword : Units) (window_chars : Option Rat) (index : Nat) : Nat × Nat :=
  (sliceIndex text (contextStart window_chars index), sliceIndex text (contextEnd text keyword window_chars index))

def contextOf (text keyword : Units) (window_chars : Option Rat) (index : Nat) : Units :=
  part text (contextBounds text keyword window_chars index).1 (contextBounds text keyword window_chars index).2

section
variable {Number : Type} (language : Language Number)

def keywordIndex (text keyword : Units) : Option Nat :=
  indexOf (language.toLowerCase text) (language.toLowerCase keyword)

/-- The text starts with the keyword, ignoring case. -/
def startsWithKeyword (keyword text : Units) : Bool :=
  decide (keyword.length ≤ text.length) &&
    (text.take keyword.length).map language.canonicalize = keyword.map language.canonicalize

/-- `[^\d-]` -/
def isGap (c : UInt16) : Bool := !isDigit c && !isMinus c

/-- `keyword[^\d-]{0,24}(-?\d[\d,]*(?:\.\d+)?)` at the front of a text: where the numeral starts, and its length. -/
def keywordValueAt (keyword text : Units) : Option (Nat × Nat) :=
  if startsWithKeyword language keyword text then
    let rest := text.drop keyword.length
    let gap := min 24 (rest.takeWhile isGap).length
    ((List.range (gap + 1)).reverse).findSome? fun taken =>
      (numeralLength (rest.drop taken)).map fun n => (keyword.length + taken, n)
  else none

/-- The place of the numeral of the first match in a context. -/
def keywordValueMatch (keyword context : Units) : Option (Nat × Nat) :=
  (firstMatch (keywordValueAt language keyword) 0 context).map fun (i, start, n) => (i + start, n)

/-- A numeral that is nearer than the best so far. -/
def nearer (context : Units) (keywordPosInContext : Int) (best : Option (Nat × Number)) (numeral : Nat × Nat) :
    Option (Nat × Number) :=
  let parsed := language.number (withoutCommas (part context numeral.1 (numeral.1 + numeral.2)))
  let distance := ((numeral.1 : Int) - keywordPosInContext).natAbs
  if language.isFinite parsed && best.all (fun found => decide (distance < found.1)) then some (distance, parsed) else best

def nearest (context : Units) (keywordPosInContext : Int) : Option Number :=
  ((scan numeralLength 0 0 context).foldl (nearer language context keywordPosInContext) none).map Prod.snd

/-- The number of a keyword. -/
def extract (text : Units) (window_chars : Option Rat) (keyword : Units) : Option Number :=
  match keywordIndex language text keyword with
  | none => none
  | some index =>
    let context := contextOf text keyword window_chars index
    match keywordValueMatch language keyword context with
    | some (start, n) => some (language.number (withoutCommas (part context start (start + n))))
    | none => nearest language context (index - contextStart window_chars index)

/-! ## Checks -/

def configuredKeywords (ruleConfig : PropertyCheckConfig Number) : List Units :=
  let configured := ((ruleConfig.keywords.getD []).map trim).filter fun keyword => keyword ≠ []
  let keyword := trim (ruleConfig.keyword.getD [])
  if configured ≠ [] then configured else if keyword ≠ [] then [keyword] else []

def keywordExtraction (text : Units) (ruleConfig : PropertyCheckConfig Number) (keyword : Units) (index : Nat) :
    KeywordExtraction Number :=
  let extracted := extract language text ruleConfig.window_chars keyword
  let own := ((ruleConfig.expected_numbers.getD [])[index]?).filter language.isFinite
  let expected := own.or (ruleConfig.expected_number.filter language.isFinite)
  let comparison := ((ruleConfig.comparisons.getD [])[index]?).getD (ruleConfig.comparison.getD .gte)
  { keyword, extracted, expected, comparison
    isMatch := match extracted, expected with
      | some extracted, some expected => language.isFinite extracted && language.compares comparison extracted expected
      | _, _ => false }

def operatorSymbol : Comparison → Units
  | .gte => units ">="
  | .lte => units "<="
  | .gt => units ">"
  | .lt => units "<"
  | .eq => units "="

def comparisonText : Comparison → Units
  | .gte => units "gte"
  | .lte => units "lte"
  | .gt => units "gt"
  | .lt => units "lt"
  | .eq => units "eq"

def failedLine (item : KeywordExtraction Number) : Units :=
  item.keyword ++ units ": " ++ (item.extracted.map language.toText).getD [] ++ units " did not satisfy " ++
    operatorSymbol item.comparison ++ units " " ++ (item.expected.map language.toText).getD (units "n/a")

def extractionMessage (items : List (KeywordExtraction Number)) (isMatch : Bool) (numberComparison : Comparison) : Units :=
  let missingKeywords := (items.filter fun item => item.extracted.isNone).map KeywordExtraction.keyword
  let failedChecks := items.filter fun item => !item.isMatch && item.extracted.isSome
  let failedSummary := (units "; ").intercalate (failedChecks.map (failedLine language))
  if isMatch then units "All configured extracted numbers satisfied their comparisons."
  else if failedSummary ≠ [] then failedSummary
  else if missingKeywords ≠ [] then
    units "Missing numeric values for keyword(s): " ++ (units ", ").intercalate missingKeywords
  else
    units "One or more extracted numbers did not satisfy comparison \"" ++ comparisonText numberComparison ++ units "\"."

def propertyMessage (ruleConfig : PropertyCheckConfig Number) (actualValue : Units) (isMatch : Bool) : Units :=
  if isMatch then units "Property \"" ++ ruleConfig.field ++ units "\" matches criteria"
  else match ruleConfig.pattern.filter (· ≠ []) with
    | some pattern =>
      units "Property \"" ++ ruleConfig.field ++ units "\" does not match pattern \"" ++ pattern ++ units "\" (value: \"" ++
        actualValue ++ units "\")"
    | none =>
      units "Property \"" ++ ruleConfig.field ++ units "\" does not match expected value \"" ++
        ruleConfig.expected_value.getD (units "undefined") ++ units "\" (value: \"" ++ actualValue ++ units "\")"

/-- The check of a property, or of the numbers of some keywords; `matches_pattern` is what makes it pass. -/
def execute (documentMetadata : Units → Option Units) (extractedText : Units) (ruleConfig : PropertyCheckConfig Number)
    (matches_pattern : Bool) : Except String (PropertyCheckResult Number) := do
  let actualValue := (documentMetadata ruleConfig.field).getD []
  let expected_number := ruleConfig.expected_number.filter language.isFinite
  match ruleConfig.mode.getD .property_match with
  | .number_extraction =>
    let comparison := ruleConfig.comparison.getD .gte
    let keywords := configuredKeywords ruleConfig
    if keywords = [] then
      pure {
        status := .error
        evidence :=
          { mode := .number_extraction, field := ruleConfig.field, actual_value := actualValue, expected_number, comparison
            isMatch := false }
        message := units "Invalid number_extraction rule: at least one keyword is required"
        score := 0 }
    else
      let items := keywords.mapIdx fun index keyword => keywordExtraction language extractedText ruleConfig keyword index
      let isMatch := items.all KeywordExtraction.isMatch
      pure {
        status := if isMatch = matches_pattern then .pass else .fail
        evidence :=
          { mode := .number_extraction, field := ruleConfig.field, actual_value := actualValue
            expected_pattern := ruleConfig.pattern, expected_value := ruleConfig.expected_value
            extracted_number := items.head?.bind KeywordExtraction.extracted, expected_number, comparison
            checks := some items, isMatch }
        message := extractionMessage language items isMatch comparison
        score := if isMatch then 1 else 0 }
  | .property_match =>
    let isMatch ← match ruleConfig.pattern.filter (· ≠ []) with
      | some pattern => language.test pattern actualValue
      | none => pure (ruleConfig.expected_value.any (· = actualValue))
    pure {
      status := if isMatch = matches_pattern then .pass else .fail
      evidence :=
        { mode := .property_match, field := ruleConfig.field, actual_value := actualValue
          expected_pattern := ruleConfig.pattern, expected_value := ruleConfig.expected_value, expected_number
          comparison := .gte, isMatch }
      message := propertyMessage ruleConfig actualValue isMatch
      score := if isMatch then 1 else 0 }

end

end ComplianceHub.Metrics
