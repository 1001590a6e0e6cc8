import ComplianceHub.Interruption.Ledger
import Mathlib.Order.Lattice

/-!
# Reconstruction of historical interruptions

`ticket-interruption-reconstruction.ts`: the read-only projection that estimates the pauses and freezes of a
ticket from its event, audit and justification records. `localeCompare` is the numeric collation of two record
ids, a parameter here. Times are milliseconds; a stored date text is the value `evidenceTime` reads from it.

* `evidenceCompare`, `sortEvidence`, `coalesce` : the records in replay order, without corroborating copies;
* `replayItem`, `replay` : the replay automaton, up to the horizon;
* `openFromStatus`, `closeLast` : the open episode that the ticket's own status supports;
* `reconstructReportInterruptions` : the whole projection.
-/

namespace ComplianceHub

namespace Interruption

/-- A status field of an evidence record. -/
inductive Field where
  | undefined
  | null
  | text (value : String)
deriving DecidableEq, Repr

inductive EvidenceSource where
  | event
  | audit
  | justification
deriving DecidableEq, Repr

inductive EvidenceType where
  | created
  | transition
  | extension
  | justification
deriving DecidableEq, Repr

structure HistoricalInterruptionEvidence where
  id : String
  source : EvidenceSource
  type : EvidenceType
  at' : DateText
  fromField : Field := .undefined
  toField : Field := .undefined
  pausedAt : DateText := none
deriving DecidableEq, Repr

/-- A record whose `at` parses, with the time read from it. -/
structure TimedEvidence extends HistoricalInterruptionEvidence where
  time : Int
deriving DecidableEq, Repr

structure ReportInterruptionInterval extends TicketInterruption where
  estimated : Bool
deriving DecidableEq, Repr

structure UnresolvedInterruption where
  kind : InterruptionKind
  startAt : DateText
deriving DecidableEq, Repr

structure ReportInterruptionHistory where
  intervals : List ReportInterruptionInterval
  complete : Bool
  reconstructed : Bool
  unresolved : List UnresolvedInterruption
deriving DecidableEq, Repr

/-- The ticket fields the projection reads. -/
structure ReportTicket where
  status : TicketStatus
  createdAt : Int
  resolvedAt : DateText := none
  interruptionHistory : Option TicketInterruptionHistory := none
  slaPausedAt : DateText := none
  isSlaWaiting : Bool := false
deriving DecidableEq, Repr

def statuses : List TicketStatus :=
  [.open, .assigned, .in_progress, .pause, .freeze, .resolved, .closed, .cancelled, .duplicate]

/-- `value && statuses.has(value)`, with the status it names. -/
def Field.status? : Field → Option TicketStatus
  | .text value => statuses.find? fun s => s.text = value
  | _ => none

def Field.isFalsy : Field → Bool
  | .text value => value.isEmpty
  | _ => true

@[simp] theorem status?_text (s : TicketStatus) : (Field.text s.text).status? = some s := by
  cases s <;> decide

@[simp] theorem isFalsy_text (s : TicketStatus) : (Field.text s.text).isFalsy = false := by
  cases s <;> decide

theorem text_injective : Function.Injective TicketStatus.text := by
  intro s t h
  have := congrArg (fun value => (Field.text value).status?) h
  simpa using this

/-- `interruption(value)` on a status field. -/
def Field.interruption (field : Field) : Option InterruptionKind := field.status?.bind kind

def hasRecordedMonthlyHistory (history : Option TicketInterruptionHistory) (start : Int) : Bool :=
  match usableInterruptionHistory history with
  | some usable => usable.complete || (usable.capturedFrom.any fun captured => captured ≤ start)
  | none => false

/-! ## Evidence in replay order -/

/-- Earlier first; at one instant audit records first, then by id. -/
def evidenceCompare (localeCompare : String → String → Ordering) : TimedEvidence → TimedEvidence → Ordering :=
  compareLex (compareOn TimedEvidence.time)
    (compareLex (compareOn fun item => if item.source = .audit then (0 : Nat) else 1)
      fun a b => localeCompare a.id b.id)

/-- The records dated from the creation to now, in replay order. -/
def sortEvidence (localeCompare : String → String → Ordering) (created now : Int)
    (evidence : List HistoricalInterruptionEvidence) : List TimedEvidence :=
  let timed := evidence.filterMap fun item => item.at'.map fun time => { item with time := time }
  (timed.filter fun item => created ≤ item.time ∧ item.time ≤ now).mergeSort
    fun a b => (evidenceCompare localeCompare a b).isLE

/-- A transition that another source recorded within five seconds, among the last eight kept records. -/
def isCopy (transitions : List TimedEvidence) (item : TimedEvidence) : Bool :=
  item.type = .transition && (transitions.drop (transitions.length - 8)).any fun previous =>
    previous.type = item.type && previous.source ≠ item.source && previous.fromField = item.fromField &&
      previous.toField = item.toField && (previous.time - item.time).natAbs ≤ 5000

/-- Coalesce corroborating audit/event copies only; rapid same-source transitions remain distinct. -/
def coalesce (transitions : List TimedEvidence) : List TimedEvidence → List TimedEvidence
  | [] => transitions
  | item :: rest => coalesce (if isCopy transitions item then transitions else transitions ++ [item]) rest

/-! ## The replay automaton -/

structure OpenEpisode where
  kind : InterruptionKind
  start : Int
deriving DecidableEq, Repr

/-- What a replay reads and does not change. -/
structure ReplayContext where
  created : Int
  horizon : Int
  /-- The ticket has a usable ledger. -/
  direct : Bool
  /-- The times of the justifications of each kind, in order. -/
  justified : InterruptionKind → List Int

def replayContext (created horizon : Int) (direct : Bool) (valid : List TimedEvidence) : ReplayContext :=
  { created, horizon, direct
    justified := fun k =>
      (valid.filter fun item => item.type = .justification ∧ item.toField.interruption = some k).map TimedEvidence.time }

structure Replay where
  state : Option TicketStatus := none
  openEpisode : Option OpenEpisode := none
  coveredFrom : WithTop Int := ⊤
  lastStateAt : Int
  sawEvidence : Bool := false
  intervals : List ReportInterruptionInterval := []
  unresolved : List UnresolvedInterruption := []
deriving DecidableEq

def emit (horizon : Int) (intervals : List ReportInterruptionInterval) (entry : OpenEpisode) (stop : Int) :
    List ReportInterruptionInterval :=
  let clipped := min stop horizon
  if entry.start < clipped then
    intervals ++ [{ kind := entry.kind, startAt := toISOString entry.start,
                    endAt := some (toISOString clipped), estimated := true }]
  else intervals

def unresolvedOf (entry : OpenEpisode) : UnresolvedInterruption :=
  { kind := entry.kind, startAt := toISOString entry.start }

/-- The binary search for the first candidate not before `since`, on `low ≤ high`. -/
def searchFrom (candidates : List Int) (since : Int) (low high : Nat) : Nat :=
  if low < high then
    let middle := (low + high) / 2
    match candidates[middle]? with
    | some time => if time < since then searchFrom candidates since (middle + 1) high
        else searchFrom candidates since low middle
    | none => searchFrom candidates since low middle
  else low
termination_by high - low

def recoverStart (ctx : ReplayContext) (lastStateAt : Int) (k : InterruptionKind) (until' : Int) (anchor : DateText) :
    Option Int :=
  match anchor.filter fun saved => max ctx.created lastStateAt ≤ saved ∧ saved ≤ until' with
  | some saved => some saved
  | none =>
    let candidates := ctx.justified k
    candidates[searchFrom candidates lastStateAt 0 candidates.length]?.filter fun time => time ≤ until'

/-- Drop the open episode as unresolved. -/
def dropOpen (r : Replay) : Replay :=
  { r with unresolved := r.unresolved ++ (r.openEpisode.map unresolvedOf).toList, openEpisode := none }

/-- A record past the horizon: a later observed exit can establish an episode spanning a past boundary. -/
def replayPast (ctx : ReplayContext) (r : Replay) (item : TimedEvidence) : Replay :=
  match r.openEpisode with
  | none => r
  | some entry =>
    if item.type = .transition ∧ item.fromField.status? = some entry.kind.status ∧
        item.toField.status? ≠ some entry.kind.status then
      { r with intervals := emit ctx.horizon r.intervals entry item.time, openEpisode := none }
    else if ctx.direct then
      { r with intervals := emit ctx.horizon r.intervals entry ctx.horizon, coveredFrom := ⊤, openEpisode := none }
    else dropOpen r

/-- Take over the status a transition left: its first observation, a mismatch, and a start not observed. -/
def adoptFrom (ctx : ReplayContext) (r : Replay) (item : TimedEvidence) (left : TicketStatus) : Replay :=
  let r := if r.state = none then { r with state := some left, coveredFrom := item.time } else r
  -- A missing transition prevents claiming coverage before this observation.
  let r := if r.state ≠ some left then { dropOpen r with coveredFrom := item.time, state := some left } else r
  match kind left, r.openEpisode with
  | some k, none =>
    match recoverStart ctx r.lastStateAt k item.time item.pausedAt with
    | some recovered => { r with openEpisode := some ⟨k, recovered⟩ }
    | none => { r with coveredFrom := item.time }
  | _, _ => r

/-- Enter a status: end the open episode and open the next. -/
def enter (ctx : ReplayContext) (r : Replay) (time : Int) (entered : TicketStatus) : Replay :=
  { r with
    intervals := match r.openEpisode with
      | some entry => emit ctx.horizon r.intervals entry time
      | none => r.intervals
    openEpisode := (kind entered).map fun k => ⟨k, time⟩
    state := some entered
    lastStateAt := time }

def replayItem (ctx : ReplayContext) (r : Replay) (item : TimedEvidence) : Replay :=
  if item.type = .created then
    match item.toField.status? with
    | some s =>
      if r.state = none then
        { r with state := some s, coveredFrom := ctx.created, sawEvidence := true, lastStateAt := ctx.created }
      else r
    | none => r
  else
    match item.toField.status? with
    | none => { dropOpen r with state := none, coveredFrom := ⊤, lastStateAt := item.time }
    | some entered =>
      let r := { r with sawEvidence := true }
      if item.type = .extension ∨ item.fromField = item.toField then r
      else if some entered = r.state ∧ (item.fromField.isFalsy ∨ item.fromField.status? = r.state) then r
      else
        let r := match item.fromField.status? with
          | some left => adoptFrom ctx r item left
          | none => if r.state = none then { r with coveredFrom := item.time } else r
        enter ctx r item.time entered

def replay (ctx : ReplayContext) (r : Replay) : List TimedEvidence → Replay
  | [] => r
  | item :: rest =>
    if ctx.horizon < item.time then replayPast ctx r item else replay ctx (replayItem ctx r item) rest

/-- The current explicit status supports an open episode with a saved start. -/
def openFromStatus (ctx : ReplayContext) (ticket : ReportTicket) (now : Int) (r : Replay) : Replay :=
  match r.openEpisode, kind ticket.status with
  | none, some k =>
    if !ctx.direct && (!ticket.isSlaWaiting || !(ctx.justified k).isEmpty) then
      match recoverStart ctx r.lastStateAt k now (if ticket.isSlaWaiting then none else ticket.slaPausedAt) with
      | some anchor =>
        if r.intervals.any fun interval => interval.startAt = some anchor then r
        else
          { r with
            coveredFrom := if r.state ≠ some ticket.status then ⊤ else r.coveredFrom
            openEpisode := some ⟨k, anchor⟩
            sawEvidence := true }
      | none => r
    else r
  | _, _ => r

def isCompleted (s : TicketStatus) : Bool := s = .resolved || s = .closed

/-- Close the open episode at the end of the replay. -/
def closeLast (ctx : ReplayContext) (ticket : ReportTicket) (r : Replay) : Replay :=
  match r.openEpisode with
  | none => r
  | some entry =>
    if ctx.direct ∨ ticket.status = entry.kind.status then
      { r with intervals := emit ctx.horizon r.intervals entry ctx.horizon }
    else
      match ticket.resolvedAt.filter fun completion => isCompleted ticket.status ∧ entry.start ≤ completion with
      | some completion =>
        -- Completion supplies an estimated end, not proof of an uninterrupted gap.
        { r with intervals := emit ctx.horizon r.intervals entry completion, coveredFrom := ⊤ }
      | none => { r with unresolved := r.unresolved ++ [unresolvedOf entry] }

/-- `a - b <= 0` on the starts of two intervals; a start that does not parse compares as equal. -/
def startLE (a b : ReportInterruptionInterval) : Bool :=
  match a.startAt, b.startAt with
  | some s, some t => s ≤ t
  | _, _ => true

/-- Read-only projection: historical estimates never become the authoritative stored ledger. -/
def reconstructReportInterruptions (localeCompare : String → String → Ordering) (ticket : ReportTicket)
    (evidence : List HistoricalInterruptionEvidence) (start now : Int) : ReportInterruptionHistory :=
  let direct := usableInterruptionHistory ticket.interruptionHistory
  let recorded : List ReportInterruptionInterval :=
    ((direct.map TicketInterruptionHistory.intervals).getD []).map fun interval => { interval with estimated := false }
  if hasRecordedMonthlyHistory direct start then
    { intervals := recorded, complete := true, reconstructed := false, unresolved := [] }
  else
    let created := ticket.createdAt
    let capture := (direct.bind TicketInterruptionHistory.capturedFrom).getD now
    let horizon := min capture now
    let valid := sortEvidence localeCompare created now evidence
    let transitions := coalesce [] (valid.filter fun item => item.type ≠ .justification)
    let ctx := replayContext created horizon direct.isSome valid
    let r := replay ctx { lastStateAt := created } transitions
    let r := closeLast ctx ticket (openFromStatus ctx ticket now r)
    let terminalCompatible := r.state.any isCompleted && isCompleted ticket.status
    let coveredFrom := if !ctx.direct && r.state ≠ some ticket.status && !terminalCompatible then ⊤ else r.coveredFrom
    -- Direct intervals win at the capture boundary.
    let combined := ((r.intervals.filter fun interval => interval.startAt.any (· < horizon)) ++ recorded).mergeSort startLE
    let reconstructed := !r.intervals.isEmpty || !r.unresolved.isEmpty || r.sawEvidence
    { intervals := combined
      reconstructed := reconstructed
      complete := reconstructed && coveredFrom ≤ (max created start : Int) &&
        !(r.unresolved.any fun item => item.startAt.any (· < now))
      unresolved := r.unresolved }

end Interruption

end ComplianceHub
