import ComplianceHub.Interruption.Reconstruction
import ComplianceHub.Lib.OrderedMap
import ComplianceHub.Tickets.Verdict

/-!
# The monthly ticket report

`ticket-report-builder.service.ts` and its contract. A configuration is one that `reportConfiguration` accepts; what the
queries, the directory and the collations answer are parameters.

* `monthlyReportPeriod`, `scopeConfiguration` : the month, and the configuration that is reported;
* `ticketFacts` : what one round of the loop reads of a ticket;
* `addTicket` : what it adds to the summary, the averages, the groups and the rows;
* `generate` : the whole report.
-/

namespace ComplianceHub.Reports

open Interruption Sla Tickets
open Lib (OrderedMap)

inductive ReportSection where
  | categories
  | issues
  | staff
  | ratings
deriving DecidableEq, Repr

inductive ReportColumn where
  | subject
  | description
  | requester
  | assignee
  | category
  | issue
  | status
  | priority
  | createdAt
  | completedAt
deriving DecidableEq, Repr

inductive ListBasis where
  | completed
  | received
  | interrupted
deriving DecidableEq, Repr

inductive SortBy where
  | ticketNumber
  | createdAt
  | completedAt
deriving DecidableEq, Repr

inductive SortOrder where
  | asc
  | desc
deriving DecidableEq, Repr

/-- A configuration that `reportConfiguration` accepts, with its title trimmed. -/
structure ReportConfiguration where
  title : String
  sections : List ReportSection
  includeTicketList : Bool
  listBasis : ListBasis
  columns : List ReportColumn
  sortBy : SortBy
  sortOrder : SortOrder
  ticketType : Option TicketType
  technicianId : Option Nat
  title_ok : 0 < title.length ∧ title.length ≤ 120
  sections_nodup : sections.Nodup
  columns_nodup : columns.Nodup
  technicianId_pos : ∀ id, technicianId = some id → 0 < id

/-- The caller, with the answers of `isTicketReportsAccess` and `isTicketReportsManage` for the role. -/
structure ReportActor where
  id : Nat
  access : Bool
  manage : Bool

/-- A value for each kind of interruption. -/
structure PerKind (α : Type) where
  pause : α
  freeze : α
deriving DecidableEq, Repr

namespace PerKind

variable {α : Type}

def get (p : PerKind α) : InterruptionKind → α
  | .pause => p.pause
  | .freeze => p.freeze

def of (f : InterruptionKind → α) : PerKind α := ⟨f .pause, f .freeze⟩

@[simp] theorem get_of (f : InterruptionKind → α) (k : InterruptionKind) : (of f).get k = f k := by cases k <;> rfl

end PerKind

/-! ## The source tickets -/

/-- A selected ticket with its joined rows. A person is the formatted name or e-mail address, empty without either. -/
structure BuilderTicket where
  ticket : Ticket
  ticketNumber : String
  description : Option String
  requester : Option String
  assignedTo : Option String
  category : Option String
  issueTypeConfig : Option TicketIssueType
  issueName : Option String

/-- What `getBuilderInterruptionEvidence` returns. -/
structure ReportEvidence where
  byTicket : Nat → List HistoricalInterruptionEvidence
  auditUnavailable : Bool

/-- What the tables, the directory and the collations answer while a report is generated. -/
structure ReportServices where
  services : Services
  config : Option TicketingConfig
  /-- The rows of the scoped query, in order, by period, assignee and support type. -/
  select : Int → Int → Option Nat → Option TicketType → List BuilderTicket
  /-- `SUM(OCTET_LENGTH(t.description))` of the same query. -/
  descriptionBytes : Int → Int → Option Nat → Option TicketType → Nat
  usersAvailable : Bool
  accountName : Nat → Option String
  evidence : List Nat → Int → Except HttpException ReportEvidence
  /-- `localeCompare`, plain and numeric. -/
  localeCompare : String → String → Ordering
  numericCompare : String → String → Ordering
  isoText : Int → String

def formatPersonName (person fallback : String) : String := if person.isEmpty then fallback else person

/-! ## The month -/

structure ReportPeriod where
  start : Int
  stop : Int
  cutoff : Int
  monthToDate : Bool
deriving DecidableEq, Repr

def isLeapYear (year : Int) : Bool := year % 4 = 0 ∧ (year % 100 ≠ 0 ∨ year % 400 = 0)

/-- The days of the year before the month, counted from 0. -/
def daysBeforeMonth (year : Int) (month : Nat) : Int :=
  [0, 31, 59, 90, 120, 151, 181, 212, 243, 273, 304, 334].getD month 365 +
    if 2 ≤ month ∧ month < 12 ∧ isLeapYear year then 1 else 0

def daysBeforeYear (year : Int) : Int :=
  365 * (year - 1970) + ((year - 1) / 4 - 492) - ((year - 1) / 100 - 19) + ((year - 1) / 400 - 4)

/-- `Date.UTC(year, month, 1)`, with the month counted from 0 and 12 for the next January. -/
def dateUTC (year : Int) (month : Nat) : Int :=
  if month = 12 then daysBeforeYear (year + 1) * 86400000
  else (daysBeforeYear year + daysBeforeMonth year month) * 86400000

def monthlyReportPeriod (year : Int) (month : Nat) (now : Int) : Except HttpException ReportPeriod := do
  check ((1900 ≤ year ∧ year ≤ 9998) ∧ 1 ≤ month ∧ month ≤ 12) (.badRequest "Choose a valid month and year.")
  let start := dateUTC year (month - 1) - 8 * 3600000
  let stop := dateUTC year month - 8 * 3600000
  check (start ≤ now) (.badRequest "Future months cannot be reported yet.")
  pure { start, stop, cutoff := min stop now, monthToDate := now < stop }

/-! ## Authority and scope -/

def authorize (actor : ReportActor) (configuration : Option ReportConfiguration) : Except HttpException Unit := do
  check (0 < actor.id ∧ actor.access) (.forbidden "Ticket report access is required.")
  match configuration with
  | none => pure ()
  | some configuration =>
    check (actor.manage ∨ ¬ ((configuration.technicianId.isSome ∧ configuration.technicianId ≠ some actor.id) ∨
        ReportSection.staff ∈ configuration.sections))
      (.forbidden "Broader staff reporting requires report-management access.")

/-- A report on one person has neither the staff section nor the assignee column. -/
def scopeConfiguration (actor : ReportActor) (configuration : ReportConfiguration) : ReportConfiguration :=
  if actor.manage ∧ configuration.technicianId = none then configuration
  else { configuration with
    sections := configuration.sections.filter fun s => s ≠ .staff
    columns := configuration.columns.filter fun column => column ≠ .assignee
    sections_nodup := configuration.sections_nodup.filter _
    columns_nodup := configuration.columns_nodup.filter _ }

section
variable (r : ReportServices)

def getBuilderScopeName (actor : ReportActor) (requestedId : Option Nat) : Except HttpException String := do
  check (0 < actor.id ∧ actor.access) (.forbidden "Ticket report access is required.")
  check (actor.manage ∨ requestedId = none ∨ requestedId = some actor.id)
    (.forbidden "You can report only your own assigned tickets.")
  match actor.manage, requestedId with
  | true, none => pure "All authorized staff"
  | manage, requestedId =>
    match r.accountName (if manage then requestedId.getD 0 else actor.id) with
    | some name => pure name
    | none => .error (.serviceUnavailable "The report staff name could not be loaded. Please retry.")

def tooManyTickets : HttpException :=
  .badRequest "This report exceeds 10,000 source tickets. Narrow the staff or support-type filter."

def getMonthlyBuilderTickets (start cutoff : Int) (actor : ReportActor) (technicianId : Option Nat)
    (ticketType : Option TicketType) (includeDescription : Bool) : Except HttpException (List BuilderTicket) := do
  check (0 < actor.id ∧ actor.access) (.forbidden "Ticket report access is required.")
  check (actor.manage ∨ technicianId = none ∨ technicianId = some actor.id)
    (.forbidden "You can report only your own assigned tickets.")
  let assignee := if actor.manage then technicianId else some actor.id
  let tickets := r.select start cutoff assignee ticketType
  if includeDescription then
    check (tickets.length ≤ 10000) tooManyTickets
    check (r.descriptionBytes start cutoff assignee ticketType ≤ 5 * 1024 * 1024)
      (.badRequest "Selected ticket descriptions exceed the 5 MB report limit. Narrow the staff or support-type filter, or deselect Description.")
  check (tickets.length ≤ 10000) tooManyTickets
  pure (if includeDescription then tickets else tickets.map fun t => { t with description := none })

def enrichBuilderTickets (source : List BuilderTicket) : Except HttpException Unit :=
  check (source = [] ∨ r.usersAvailable) (.serviceUnavailable "Staff directory is unavailable. Please retry.")

end

/-! ## One ticket -/

inductive SlaVerdict where
  | met
  | missed
  | unavailable
deriving DecidableEq, Repr

/-- What one round of the loop reads of a ticket that is not skipped. -/
structure TicketFacts where
  validEffective : Option Int
  receivedInMonth : Bool
  completedInMonth : Bool
  missingCompletion : Bool
  known : Bool
  reconstructed : Bool
  counts : PerKind Nat
  /-- The occurrences with a measured interval. -/
  paired : PerKind Nat
  minutes : PerKind Rat
  sla : Option SlaVerdict
  estimatedTiming : Bool
  rating : Option Rat

def completedStatus (s : TicketStatus) : Bool := s = .resolved || s = .closed

def reportTicket (t : Ticket) : ReportTicket where
  status := t.status
  createdAt := t.createdAt
  resolvedAt := t.resolvedAt
  interruptionHistory := t.interruptionHistory
  slaPausedAt := t.slaPausedAt
  isSlaWaiting := t.isSlaWaiting

def inMonth (period : ReportPeriod) (d : Int) : Bool := period.start ≤ d && d < period.cutoff

/-- The effective completion of a completed ticket, or the cutoff. -/
def lifetimeEnd (period : ReportPeriod) (t : Ticket) : Int :=
  if completedStatus t.status then (getEffectiveResolvedAt t.toTicketOutcome).getD period.cutoff else period.cutoff

def completedInMonth (period : ReportPeriod) (t : Ticket) : Bool :=
  completedStatus t.status && (getEffectiveResolvedAt t.toTicketOutcome).any (inMonth period)

section
variable (r : ReportServices) (config : TicketingConfig) (period : ReportPeriod) (now : Int)

/-- Clip an interval to the month, the cutoff and the completion; count it and measure its business time. -/
def measureInterval (t : Ticket) (lifetimeEnd : Int) (measured : PerKind (Nat × Rat))
    (interval : ReportInterruptionInterval) : Except HttpException (PerKind (Nat × Rat)) :=
  match interval.startAt, interval.endAt.getD (some period.cutoff) with
  | some startAt, some endAt =>
    let start := max startAt period.start
    let stop := min (min endAt period.cutoff) lifetimeEnd
    if stop ≤ start then .ok measured
    else do
      let seconds ← calculateBusinessSeconds r.services.isOfficeDay (ticketCalendar config t.overtimeSlaDate) start stop
      let (occurrences, minutes) := measured.get interval.kind
      pure (.of fun k => if k = interval.kind then (occurrences + 1, minutes + seconds / 60) else measured.get k)
  -- the intervals of a projection are dated
  | _, _ => .ok measured

/-- The episodes without an end that start in the month and before the completion. -/
def unresolvedInMonth (lifetimeEnd : Int) (history : ReportInterruptionHistory) (k : InterruptionKind) : Nat :=
  history.unresolved.countP fun missing =>
    missing.kind = k && missing.startAt.any fun at' => period.start ≤ at' && at' < min period.cutoff lifetimeEnd

/-- Nothing for a ticket that was completed before the month and not received in it. -/
def ticketFacts (evidence : ReportEvidence) (t : BuilderTicket) : Except HttpException (Option TicketFacts) :=
  let validEffective := getEffectiveResolvedAt t.ticket.toTicketOutcome
  let receivedInMonth := inMonth period t.ticket.createdAt
  let lifetimeEnd := lifetimeEnd period t.ticket
  if lifetimeEnd < period.start ∧ !receivedInMonth then .ok none
  else do
    let history := reconstructReportInterruptions r.numericCompare (reportTicket t.ticket) (evidence.byTicket t.ticket.id)
      period.start now
    let measured ← history.intervals.foldlM (measureInterval r config period t.ticket lifetimeEnd) (.of fun _ => (0, 0))
    let timing ← if completedInMonth period t.ticket then
        (getBuilderSlaResult r.services t.ticket t.issueTypeConfig (validEffective.getD 0) config).map some
      else .ok none
    pure (some {
      validEffective, receivedInMonth
      completedInMonth := completedInMonth period t.ticket
      missingCompletion := completedStatus t.ticket.status && validEffective.isNone
      known := history.complete
      reconstructed := history.reconstructed
      counts := .of fun k => (measured.get k).1 + unresolvedInMonth period lifetimeEnd history k
      paired := .of fun k => (measured.get k).1
      minutes := .of fun k => (measured.get k).2
      sla := timing.map fun timing =>
        match timing.met with
        | none => .unavailable
        | some true => .met
        | some false => .missed
      estimatedTiming := timing.any BuilderSlaResult.estimated
      rating := if completedInMonth period t.ticket then t.ticket.satisfactionRating else none })

end

/-! ## The totals -/

structure InterruptionTotals where
  tickets : Nat := 0
  occurrences : Nat := 0
  businessMinutes : Rat := 0
  averageFrequency : Option Rat := none
  averageMinutes : Option Rat := none
  averageEligibleTickets : Nat := 0
  averageEligibleOccurrences : Nat := 0
  averageEstimatedTickets : Nat := 0
deriving DecidableEq, Repr

structure ReportSummary where
  received : Nat := 0
  completed : Nat := 0
  slaMet : Nat := 0
  slaMissed : Nat := 0
  slaUnavailable : Nat := 0
  slaCompliancePercent : Option Rat := none
  interruptions : PerKind InterruptionTotals := .of fun _ => {}
  unknownHistoryTickets : Nat := 0
  reconstructedHistoryTickets : Nat := 0
  auditEvidenceUnavailable : Bool
  estimatedTimingTickets : Nat := 0
  missingCompletionTickets : Nat := 0
deriving DecidableEq, Repr

inductive GroupKey where
  | staff (assignedToId : Option Nat)
  | categories (categoryId : Option Nat)
  | issues (categoryId issueTypeId : Option Nat)
deriving DecidableEq, Repr

structure ReportGroup where
  id : GroupKey
  label : String
  category : Option String
  tickets : Nat := 0
  slaMet : Nat := 0
  slaMissed : Nat := 0
deriving DecidableEq, Repr

inductive ColumnValue where
  | text (value : Option String)
  | status (value : TicketStatus)
  | priority (value : Option TicketPriority)
deriving DecidableEq, Repr

structure ReportRow where
  ticketId : Nat
  ticketNumber : String
  ticketType : TicketType
  counts : PerKind (Option Nat)
  minutes : PerKind (Option Rat)
  historyQuality : String
  sla : Option SlaVerdict
  columns : List (ReportColumn × ColumnValue)
  /-- `_sort`, deleted before the rows are returned. -/
  sortText : String
deriving DecidableEq, Repr

structure ReportState where
  summary : ReportSummary
  averageInputs : PerKind InterruptionTotals := .of fun _ => {}
  groups : OrderedMap ReportSection (OrderedMap GroupKey ReportGroup) := .empty
  rows : List ReportRow := []
  rated : Nat := 0
  ratingSum : Rat := 0

def round2 (n : Rat) : Rat := jsRound (n * 100) / 100

def oneIf (b : Bool) : Nat := if b then 1 else 0

def addInterruptions (totals : PerKind InterruptionTotals) (facts : TicketFacts) : PerKind InterruptionTotals :=
  .of fun k => { totals.get k with
    tickets := (totals.get k).tickets + oneIf (facts.counts.get k ≠ 0)
    occurrences := (totals.get k).occurrences + facts.counts.get k
    businessMinutes := (totals.get k).businessMinutes + facts.minutes.get k }

/-- Only tickets of a known history with an occurrence of the kind count for the averages. -/
def addEligible (totals : PerKind InterruptionTotals) (facts : TicketFacts) : PerKind InterruptionTotals :=
  .of fun k =>
    if facts.known ∧ facts.counts.get k ≠ 0 then
      { totals.get k with
        tickets := (totals.get k).tickets + 1
        occurrences := (totals.get k).occurrences + facts.counts.get k
        businessMinutes := (totals.get k).businessMinutes + facts.minutes.get k
        averageEstimatedTickets := (totals.get k).averageEstimatedTickets + oneIf facts.reconstructed }
    else totals.get k

def addSummary (summary : ReportSummary) (facts : TicketFacts) : ReportSummary :=
  { summary with
    received := summary.received + oneIf facts.receivedInMonth
    missingCompletionTickets := summary.missingCompletionTickets + oneIf facts.missingCompletion
    unknownHistoryTickets := summary.unknownHistoryTickets + oneIf !facts.known
    reconstructedHistoryTickets := summary.reconstructedHistoryTickets + oneIf facts.reconstructed
    interruptions := addInterruptions summary.interruptions facts
    completed := summary.completed + oneIf facts.completedInMonth
    slaMet := summary.slaMet + oneIf (facts.sla = some .met)
    slaMissed := summary.slaMissed + oneIf (facts.sla = some .missed)
    slaUnavailable := summary.slaUnavailable + oneIf (facts.sla = some .unavailable)
    estimatedTimingTickets := summary.estimatedTimingTickets + oneIf facts.estimatedTiming }

def groupKey (t : BuilderTicket) : ReportSection → GroupKey
  | .staff => .staff t.ticket.assignedToId
  | .categories => .categories t.ticket.categoryId
  | _ => .issues t.ticket.categoryId t.ticket.issueTypeId

def groupLabel (t : BuilderTicket) : ReportSection → String
  | .staff =>
    match t.assignedTo with
    | some person => formatPersonName person ("Staff #" ++ (t.ticket.assignedToId.map toString).getD "null")
    | none => "Unassigned"
  | .categories => t.category.getD "Unspecified"
  | _ => t.issueName.getD "Unspecified"

def newGroup (t : BuilderTicket) (name : ReportSection) : ReportGroup where
  id := groupKey t name
  label := groupLabel t name
  category := if name = .issues then some (t.category.getD "Unspecified") else none

def countTicket (sla : Option SlaVerdict) (group : ReportGroup) : ReportGroup :=
  { group with
    tickets := group.tickets + 1
    slaMet := group.slaMet + oneIf (sla = some .met)
    slaMissed := group.slaMissed + oneIf (sla = some .missed) }

/-- Count a completed ticket in the group of each section. -/
def addGroups (t : BuilderTicket) (sla : Option SlaVerdict) (sections : List ReportSection)
    (groups : OrderedMap ReportSection (OrderedMap GroupKey ReportGroup)) :
    OrderedMap ReportSection (OrderedMap GroupKey ReportGroup) :=
  (sections.filter fun name => name ≠ .ratings).foldl
    (fun groups name => groups.set name (((groups.get name).getD .empty).add (fun t => groupKey t name) (newGroup · name)
      (fun group _ => countTicket sla group) t))
    groups

def columnValue (r : ReportServices) (t : BuilderTicket) (validEffective : Option Int) : ReportColumn → ColumnValue
  | .subject => .text (some t.ticket.subject)
  | .description => .text t.description
  | .requester => .text (some (t.requester.elim "Unavailable" (formatPersonName · "")))
  | .assignee => .text (some (t.assignedTo.elim "Unassigned" (formatPersonName · "")))
  | .category => .text (some (t.category.getD "Unspecified"))
  | .issue => .text (some (t.issueName.getD "Unspecified"))
  | .status => .status t.ticket.status
  | .priority => .priority t.ticket.priority
  | .createdAt => .text (some (r.isoText t.ticket.createdAt))
  | .completedAt => .text (validEffective.map r.isoText)

def historyQuality (facts : TicketFacts) : String :=
  match facts.reconstructed, facts.known with
  | true, true => "Reconstructed estimate"
  | true, false => "Incomplete — reconstructed estimate"
  | false, true => "Recorded"
  | false, false => "Incomplete"

def reportRow (r : ReportServices) (configuration : ReportConfiguration) (t : BuilderTicket) (facts : TicketFacts) :
    ReportRow where
  ticketId := t.ticket.id
  ticketNumber := t.ticketNumber
  ticketType := t.ticket.ticketType
  counts := .of fun k => if facts.known ∨ facts.counts.get k ≠ 0 then some (facts.counts.get k) else none
  minutes := .of fun k => if facts.known ∨ facts.paired.get k ≠ 0 then some (round2 (facts.minutes.get k)) else none
  historyQuality := historyQuality facts
  sla := facts.sla
  columns := configuration.columns.map fun column => (column, columnValue r t facts.validEffective column)
  sortText := match configuration.sortBy with
    | .ticketNumber => t.ticketNumber
    | .createdAt => r.isoText t.ticket.createdAt
    | .completedAt => (facts.validEffective.map r.isoText).getD ""

/-- Whether a ticket is on the list. -/
def isListed (configuration : ReportConfiguration) (facts : TicketFacts) : Bool :=
  configuration.includeTicketList &&
    match configuration.listBasis with
    | .completed => facts.completedInMonth
    | .received => facts.receivedInMonth
    | .interrupted => 0 < facts.counts.get .pause + facts.counts.get .freeze

def addTicket (r : ReportServices) (configuration : ReportConfiguration) (t : BuilderTicket) (facts : TicketFacts)
    (state : ReportState) : ReportState where
  summary := addSummary state.summary facts
  averageInputs := addEligible state.averageInputs facts
  groups := if facts.completedInMonth then addGroups t facts.sla configuration.sections state.groups else state.groups
  rows := if isListed configuration facts then state.rows ++ [reportRow r configuration t facts] else state.rows
  rated := state.rated + oneIf facts.rating.isSome
  ratingSum := state.ratingSum + facts.rating.getD 0

/-! ## The report -/

inductive ScopeMode where
  | all
  | individual
deriving DecidableEq, Repr

structure ReportRatings where
  ratedTickets : Nat
  average : Option Rat
deriving DecidableEq, Repr

structure Report where
  configuration : ReportConfiguration
  year : Int
  month : Nat
  generatedAt : Int
  period : ReportPeriod
  scope : String
  scopeMode : ScopeMode
  summary : ReportSummary
  breakdowns : List (ReportSection × List ReportGroup)
  ratings : Option ReportRatings
  rows : List ReportRow
  listCount : Nat

def finishTotals (total eligible : InterruptionTotals) : InterruptionTotals :=
  { total with
    averageEligibleTickets := eligible.tickets
    averageEligibleOccurrences := eligible.occurrences
    averageEstimatedTickets := eligible.averageEstimatedTickets
    averageFrequency := if eligible.tickets ≠ 0 then some (round2 (eligible.occurrences / eligible.tickets)) else none
    averageMinutes := if eligible.occurrences ≠ 0 then some (round2 (eligible.businessMinutes / eligible.occurrences)) else none
    businessMinutes := round2 total.businessMinutes }

def finishSummary (state : ReportState) : ReportSummary :=
  let classified := state.summary.slaMet + state.summary.slaMissed
  { state.summary with
    slaCompliancePercent := if classified ≠ 0 then some (round2 (state.summary.slaMet / classified * 100)) else none
    interruptions := .of fun k => finishTotals (state.summary.interruptions.get k) (state.averageInputs.get k) }

/-- More tickets first, then by label. -/
def groupLE (r : ReportServices) (a b : ReportGroup) : Bool :=
  b.tickets < a.tickets || (a.tickets = b.tickets && (r.localeCompare a.label b.label).isLE)

def rowLE (r : ReportServices) (order : SortOrder) (a b : ReportRow) : Bool :=
  let compared := (r.localeCompare a.sortText b.sortText).then (r.localeCompare (toString a.ticketId) (toString b.ticketId))
  match order with
  | .asc => compared.isLE
  | .desc => compared.isGE

section
variable (r : ReportServices)

/-- One round of the loop. -/
def addSource (config : TicketingConfig) (period : ReportPeriod) (now : Int) (evidence : ReportEvidence)
    (configuration : ReportConfiguration) (state : ReportState) (t : BuilderTicket) : Except HttpException ReportState := do
  match ← ticketFacts r config period now evidence t with
  | none => pure state
  | some facts => pure (addTicket r configuration t facts state)

/-- The evidence of the tickets without a recorded history of the month. -/
def loadEvidence (start now : Int) (source : List BuilderTicket) : Except HttpException ReportEvidence :=
  let legacy := (source.filter fun t => !hasRecordedMonthlyHistory t.ticket.interruptionHistory start).map fun t => t.ticket.id
  if legacy ≠ [] then r.evidence legacy now
  else .ok { byTicket := fun _ => [], auditUnavailable := false }

def finishReport (actor : ReportActor) (configuration : ReportConfiguration) (year : Int) (month : Nat) (now : Int)
    (period : ReportPeriod) (scope : String) (state : ReportState) : Report :=
  let rows := state.rows.mergeSort (rowLE r configuration.sortOrder)
  { configuration, year, month, generatedAt := now, period, scope
    scopeMode := if actor.manage ∧ configuration.technicianId = none then .all else .individual
    summary := finishSummary state
    breakdowns := state.groups.entries.map fun entry => (entry.1, (entry.2.entries.map Prod.snd).mergeSort (groupLE r))
    ratings := if .ratings ∈ configuration.sections then
        some ⟨state.rated, if state.rated ≠ 0 then some (round2 (state.ratingSum / state.rated)) else none⟩
      else none
    rows, listCount := rows.length }

def generate (actor : ReportActor) (requestedConfiguration : ReportConfiguration) (year : Int) (month : Nat) (now : Int) :
    Except HttpException Report := do
  authorize actor none
  authorize actor (some requestedConfiguration)
  let configuration := scopeConfiguration actor requestedConfiguration
  let scope ← getBuilderScopeName r actor configuration.technicianId
  let period ← monthlyReportPeriod year month now
  match r.config with
  | none => .error (.serviceUnavailable "SLA calendar settings are unavailable. Please retry.")
  | some config =>
    let source ← getMonthlyBuilderTickets r period.start period.cutoff actor configuration.technicianId
      configuration.ticketType (configuration.includeTicketList && configuration.columns.contains .description)
    enrichBuilderTickets r source
    let evidence ← loadEvidence r period.start now source
    let state ← source.foldlM (addSource r config period now evidence configuration)
      { summary := { auditEvidenceUnavailable := evidence.auditUnavailable } }
    pure (finishReport r actor configuration year month now period scope state)

end

end ComplianceHub.Reports
