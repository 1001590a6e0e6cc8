import ComplianceHub.Duty.Types

/-!
# The operations of the duty service

* `restoreAttendance`, `restoreOrphanedDutyAttendance` : what gives an attendance back;
* `reconcileCoverage` : the coverage of one duty of a day, brought in line with meetings, relievers, prior duties,
  exceptions, attendance and rotation; `reconcileToday` : of every duty of today;
* `activateCoverage`, `skipCoverage`, `releaseCoverage`, `completeReservation`, `saveReservation`, `deleteReservation`,
  `replaceMeetingRelievers`, `clearMeetingRelievers`, `saveException`, `deleteException`, `finalizeToday`;
* `Operation` : any of them.

An operation that raises keeps what it has written.
-/

namespace ComplianceHub.Duty

open ComplianceHub.Lib (reads attempt)
open ComplianceHub.Sla (twoDigits)
open ComplianceHub.Tickets (AttendanceStatus)

abbrev DutyM := EStateM HttpException DutyDb

/-- An error of the database, which the service does not catch. -/
def databaseError : HttpException := .internalServerError "Internal server error"

def orNotFound {α : Type} (row : Option α) (message : String) : Except HttpException α :=
  match row with
  | some row => .ok row
  | none => .error (.notFound message)

/-! ## Attendance -/

/-- The attendance that a coverage has overridden, as the coverage recorded it. -/
def restored (coverage : DutyDailyCoverage) (attendance : TechAttendance) : TechAttendance :=
  { attendance with
    status := coverage.previousAttendanceStatus.getD .present
    notes := coverage.previousAttendanceNotes }

def restoreAttendance (coverage : DutyDailyCoverage) (db : DutyDb) : DutyDb :=
  match coverage.assignedUserId with
  | some userId =>
    if coverage.attendanceOverridden then db.saveAttendance userId coverage.dutyDate (restored coverage) else db
  | none => db

/-- The technician is on a duty of the date, with an attendance that it overrides. -/
def isOverriding (userId : Nat) (date : Int) (coverage : DutyDailyCoverage) : Bool :=
  coverage.dutyDate = date && coverage.status = .active && coverage.assignedUserId = some userId &&
    coverage.attendanceOverridden

def isSyntheticDutyNote (notes : Option String) : Bool :=
  DUTY_PRIORITY.any fun type => (trim (notes.getD "")).toUpper = dutyNote type

def restoreOrphanedDutyAttendance (date : Int) (db : DutyDb) : DutyDb :=
  { db with
    attendance := db.attendance.map fun row =>
      if row.date = date ∧ row.status = .out_of_office ∧ isSyntheticDutyNote row.notes = true ∧
          (db.coverages.any (isOverriding row.userId date)) = false then
        { row with status := .present, notes := none, isManualOverride := false }
      else row }

/-! ## The coverage of a duty -/

/-- What is reconciled: a duty of a date in a period, with its open meetings. -/
structure CoveragePlan where
  date : Int
  type : DutyType
  period : DutyPeriod
  reservations : List DutyMeetingReservation := []

/-- None where a venue has no open meeting in the period. -/
def coveragePlan (db : DutyDb) (date : Int) (type : DutyType) (requestedPeriod : Option DutyPeriod) :
    Option CoveragePlan :=
  let allReservations := db.reservations.filter fun row => row.meetingDate = date && row.venueType = type
  if type = .OD then some { date, type, period := .WHOLE_DAY }
  else
    match requestedPeriod <|> (selectedReservation allReservations type).map DutyMeetingReservation.period with
    | none => none
    | some period =>
      let reservations := allReservations.filter fun row => row.isOpen && row.period = period
      if reservations = [] then none else some { date, type, period, reservations }

/-- The types before a type. -/
def priorTypes (type : DutyType) : List DutyType := DUTY_PRIORITY.takeWhile (· ≠ type)

/-- Who is kept by a prior duty that overlaps, with that duty. -/
def reservedByPriorDuty (db : DutyDb) (plan : CoveragePlan) : List (Nat × DutyDailyCoverage) :=
  ((db.reserving plan.date).filter fun row =>
    (priorTypes plan.type).contains row.dutyType && periodsOverlap row.dutyPeriod plan.period).filterMap fun row =>
      (coverageCandidateUserId row).map fun userId => (userId, row)

/-- The last of them counts, as in a map. -/
def priorCoverageOf (reserved : List (Nat × DutyDailyCoverage)) (userId : Nat) : Option DutyDailyCoverage :=
  (reserved.reverse.find? fun entry => decide (entry.1 = userId)).map Prod.snd

def DutyDb.coverageOf (db : DutyDb) (plan : CoveragePlan) : Option DutyDailyCoverage :=
  db.coverages.find? fun row =>
    decide (row.dutyDate = plan.date ∧ row.dutyType = plan.type ∧ row.dutyPeriod = plan.period)

def hasRelievers (db : DutyDb) (plan : CoveragePlan) : Bool :=
  plan.reservations.any fun row => db.relieversOf row.id ≠ []

def cancelledForRelievers (coverage : DutyDailyCoverage) : DutyDailyCoverage :=
  { coverage with
    status := .cancelled
    assignedUserId := none
    isSubstitute := false
    substitutionReason := some "Replaced by a management-requested immediate reliever."
    attendanceOverridden := false }

def replaceByRelievers (current : Option DutyDailyCoverage) (db : DutyDb) : DutyDb :=
  match current with
  | none => db
  | some coverage => (restoreAttendance coverage db).saveCoverage (cancelledForRelievers coverage)

/-- The tables, and the coverage in memory. -/
abbrev Current := DutyDb × Option DutyDailyCoverage

def yielded (coverage : DutyDailyCoverage) : DutyDailyCoverage :=
  { coverage with status := .cancelled, assignedUserId := none, attendanceOverridden := false }

/-- The attendance of a technician whom a prior duty keeps goes over to that duty. -/
def handOver (coverage prior : DutyDailyCoverage) (userId : Nat) (date : Int) (db : DutyDb) : DutyDb :=
  if coverage.attendanceOverridden then
    { db.saveAttendance userId date (onDuty prior.dutyType) with yielded := db.yielded ++ [coverage.id] }
  else db

def yieldToPriorDuty (reserved : List (Nat × DutyDailyCoverage)) (date : Int) (c : Current) : Current :=
  match c.2 with
  | none => c
  | some coverage =>
    match coverageCandidateUserId coverage with
    | none => c
    | some userId =>
      match priorCoverageOf reserved userId with
      | none => c
      | some prior => ((handOver coverage prior userId date c.1).saveCoverage (yielded coverage), some (yielded coverage))

/-- The exact synthetic note of an overriding duty. -/
def endsWithDuty (notes : Option String) : Bool := (notes.getD "").endsWith " DUTY"

def isActiveCoverageAttendanceEligible (s : Services) (db : DutyDb) (coverage : DutyDailyCoverage) (userId : Nat) :
    Bool :=
  (coverage.attendanceOverridden && (db.attendanceOf userId coverage.dutyDate).any fun attendance =>
    attendance.status = .out_of_office && endsWithDuty attendance.notes) ||
    s.isAttendanceEligible db userId coverage.dutyDate false

/-- An exception, or an attendance that is no longer eligible, ends an active coverage. -/
def isLost (s : Services) (db : DutyDb) (date : Int) (coverage : DutyDailyCoverage) : Bool :=
  match coverage.assignedUserId with
  | none => false
  | some userId =>
    coverage.status = .active &&
      ((db.exceptions.any fun exception => exception.exceptionDate = date && exception.userId = userId) ||
        !isActiveCoverageAttendanceEligible s db coverage userId)

def endLost (s : Services) (date : Int) (c : Current) : Current :=
  match c.2 with
  | none => c
  | some coverage =>
    if isLost s c.1 date coverage then
      ((restoreAttendance coverage c.1).saveCoverage { coverage with status := .cancelled }, none)
    else c

def withoutSubstitute (coverage : DutyDailyCoverage) : DutyDailyCoverage :=
  { coverage with
    assignedUserId := none
    isSubstitute := false
    substitutionReason := none
    attendanceOverridden := false
    status := .intervention_required }

/-- Duty must never auto-substitute around a primary technician with tickets. -/
def endSubstitute (c : Current) : Current :=
  match c.2 with
  | none => c
  | some coverage =>
    if coverage.status = .active ∧ coverage.isSubstitute = true then
      ((restoreAttendance coverage c.1).saveCoverage (withoutSubstitute coverage), some (withoutSubstitute coverage))
    else c

/-- The eligible technicians, in the order of the rotation. -/
def dutyCandidates (s : Services) (db : DutyDb) (plan : CoveragePlan) (reserved : List (Nat × DutyDailyCoverage))
    (excludedUserIds : List Nat) : Except HttpException (List Nat) := do
  let rotation := ((s.getRotation db plan.date plan.type).filter fun row => !row.excluded).map Services.RotationRow.userId
  check (rotation ≠ []) (.badRequest ("No eligible " ++ plan.type.text ++ " duty roster members."))
  pure (rotation.filter fun userId =>
    s.isAttendanceEligible db userId plan.date false && !(reserved.any fun entry => entry.1 = userId) &&
      !excludedUserIds.contains userId)

/-- No candidate means there is no duty coverage yet. -/
def withdraw (current : Option DutyDailyCoverage) (db : DutyDb) : DutyDb :=
  match current with
  | none => db
  | some coverage =>
    if coverage.status = .intervention_required then db.saveCoverage { coverage with status := .cancelled } else db

/-- A coverage that waits for its primary technician to be activated. -/
def pendingCoverage (id : Nat) (plan : CoveragePlan) (primaryUserId : Nat) : DutyDailyCoverage where
  id := id
  dutyDate := plan.date
  dutyType := plan.type
  dutyPeriod := plan.period
  reservationId := plan.reservations.head?.map DutyMeetingReservation.id
  primaryUserId := primaryUserId
  status := .intervention_required

/-- The row that is written: a new one only where the day has no coverage of the duty in the period. -/
def proposed (db : DutyDb) (plan : CoveragePlan) (primaryUserId : Nat) (current : Option DutyDailyCoverage) :
    Except HttpException DutyDailyCoverage :=
  match current with
  | some coverage => .ok (pendingCoverage coverage.id plan primaryUserId)
  | none =>
    match db.coverageOf plan with
    | some _ => .error databaseError
    | none => .ok (pendingCoverage db.nextId plan primaryUserId)

def writeProposed (current : Option DutyDailyCoverage) (coverage : DutyDailyCoverage) (db : DutyDb) : DutyDb :=
  match current with
  | some _ => db.saveCoverage coverage
  | none => { db with coverages := db.coverages ++ [coverage], nextId := db.nextId + 1 }

def propose (s : Services) (plan : CoveragePlan) (reserved : List (Nat × DutyDailyCoverage)) (excludedUserIds : List Nat)
    (current : Option DutyDailyCoverage) : DutyM (Option DutyDailyCoverage) := do
  match ← reads fun db => dutyCandidates s db plan reserved excludedUserIds with
  | [] => do
    modify (withdraw current)
    pure none
  | primaryUserId :: _ => do
    let coverage ← reads fun db => proposed db plan primaryUserId current
    modify (writeProposed current coverage)
    pure (some coverage)

/-- The coverage after what ends it, unless it stays active. -/
def settle (s : Services) (plan : CoveragePlan) (reserved : List (Nat × DutyDailyCoverage)) (c : Current) : Current :=
  endSubstitute (endLost s plan.date (yieldToPriorDuty reserved plan.date c))

def reconcilePlan (s : Services) (plan : CoveragePlan) (excludedUserIds : List Nat) : DutyM (Option DutyDailyCoverage) := do
  let reserved ← reads fun db => .ok (reservedByPriorDuty db plan)
  let current ← modifyGet fun db =>
    ((settle s plan reserved (db, db.coverageOf plan)).2, (settle s plan reserved (db, db.coverageOf plan)).1)
  if current.any fun coverage => coverage.status = .active then pure current
  else propose s plan reserved excludedUserIds current

def reconcileCoverage (s : Services) (date : Int) (type : DutyType) (excludedUserIds : List Nat)
    (requestedPeriod : Option DutyPeriod) : DutyM (Option DutyDailyCoverage) := do
  match ← reads fun db => .ok ((coveragePlan db date type requestedPeriod).map fun plan => (plan, hasRelievers db plan)) with
  | none => pure none
  | some (plan, true) => do
    modify fun db => replaceByRelievers (db.coverageOf plan) db
    pure none
  | some (plan, false) => reconcilePlan s plan excludedUserIds

/-- The coverage of one duty, for what it writes. -/
def reconcileDuty (s : Services) (date : Int) (type : DutyType) (requestedPeriod : Option DutyPeriod) : DutyM Unit := do
  let _ ← reconcileCoverage s date type [] requestedPeriod
  pure ()

/-- OD is resolved first so the daily officer cannot also be selected for a venue duty. -/
def reconcileToday (s : Services) : DutyM Unit :=
  if s.currentTimeMinutes < s.officeStart then pure ()
  else do
    modify (restoreOrphanedDutyAttendance s.today)
    DUTY_PRIORITY.forM fun type => reconcileDuty s s.today type none

/-! ## Coverages -/

def hasTickets (s : Services) (userId : Nat) : Bool := 0 < s.activeTickets userId

/-- The pending coverage, and the attendance that its activation overrides. -/
def activatable (s : Services) (db : DutyDb) (actor : Actor) (id userId : Nat) :
    Except HttpException (DutyDailyCoverage × TechAttendance) := do
  s.assertAdmin actor
  let coverage ← orNotFound (db.coverage? id) "Duty coverage not found."
  check (coverage.status = .intervention_required) (.badRequest "Only pending Duty coverage can be activated.")
  let conflictingDuty := (db.reserving coverage.dutyDate).find? fun row =>
    row.id ≠ coverage.id && coverageCandidateUserId row = some userId && periodsOverlap row.dutyPeriod coverage.dutyPeriod
  check (conflictingDuty.isNone = true)
    (.badRequest ("This technician is already selected for " ++
      ((conflictingDuty.map fun row => row.dutyType.text).getD "") ++ " duty on that date."))
  check (hasTickets s userId = false)
    (.badRequest "Reassign the technician active tickets with justification before activating Duty coverage.")
  match (db.attendanceOf userId coverage.dutyDate).filter fun row => row.status = .present with
  | none => .error (.badRequest "The selected technician must have PRESENT attendance.")
  | some attendance => pure (coverage, attendance)

def activated (coverage : DutyDailyCoverage) (userId : Nat) (attendance : TechAttendance) : DutyDailyCoverage :=
  { coverage with
    assignedUserId := some userId
    isSubstitute := userId ≠ coverage.primaryUserId
    substitutionReason :=
      if userId ≠ coverage.primaryUserId then
        some "Duty Administrator selected a substitute after ticket reassignment."
      else none
    previousAttendanceStatus := some attendance.status
    previousAttendanceNotes := attendance.notes
    attendanceOverridden := true
    status := .active }

def activateCoverage (s : Services) (actor : Actor) (id userId : Nat) : DutyM Unit := do
  let (coverage, attendance) ← reads fun db => activatable s db actor id userId
  modify fun db => (db.saveAttendance userId coverage.dutyDate (onDuty coverage.dutyType)).saveCoverage
    (activated coverage userId attendance)

/-- The log of a duty that was rendered, once for each coverage and technician. -/
def recordCompletedCoverage (coverage : DutyDailyCoverage) (db : DutyDb) : DutyDb :=
  match coverage.assignedUserId with
  | none => db
  | some userId =>
    if db.assignments.any fun row => row.coverageId = some coverage.id && row.userId = userId then db
    else
      { db with
        assignments := db.assignments ++
          [{ dutyDate := coverage.dutyDate
             dutyType := coverage.dutyType
             dutyPeriod := coverage.dutyPeriod
             userId
             coverageId := some coverage.id
             reservationId := coverage.reservationId
             remarks := some (coverage.dutyType.text ++ " " ++ coverage.dutyPeriod.text ++ " duty completed")
             source := "automatic" }] }

/-- The meeting of a coverage is over, unless it was cancelled. -/
def completeMeeting (reservationId : Option Nat) (db : DutyDb) : DutyDb :=
  match (reservationId.bind db.reservation?).filter fun row => row.status ≠ .cancelled with
  | none => db
  | some reservation => db.saveReservation { reservation with status := .completed }

/-- The next meeting of a venue is covered, if there is one. -/
def reconcileNext (s : Services) (date : Int) (type : DutyType) : DutyM Unit := do
  match ← reads fun db => .ok (selectedReservation
      (db.reservations.filter fun row => row.meetingDate = date && row.venueType = type) type) with
  | none => pure ()
  | some next => reconcileDuty s date type (some next.period)

/-- The active coverage that is returned to ticket assignment. -/
def releasable (s : Services) (db : DutyDb) (actor : Actor) (id : Nat) : Except HttpException DutyDailyCoverage := do
  s.assertAdmin actor
  let coverage ← orNotFound (db.coverage? id) "Duty coverage not found."
  check (coverage.status = .active) (.badRequest "Only active Duty coverage can be returned to Ticket Assignment.")
  check (coverage.dutyType = .OD → (coverage.assignedUserId.any (hasTickets s)) = false)
    (.badRequest "Reassign the active tickets before returning this technician to Ticket Assignment.")
  pure coverage

/-- The duty of a venue ends with its meeting. -/
def releaseVenue (s : Services) (coverage : DutyDailyCoverage) : DutyM Unit := do
  modify fun db => completeMeeting coverage.reservationId
    ((restoreAttendance coverage (recordCompletedCoverage coverage db)).saveCoverage
      { coverage with status := .completed, releasedAt := some s.now })
  reconcileNext s coverage.dutyDate coverage.dutyType

/-- The technician of a coverage is on its duty. -/
def attendDuty (coverage : DutyDailyCoverage) (db : DutyDb) : DutyDb :=
  match coverage.assignedUserId with
  | some userId => db.saveAttendance userId coverage.dutyDate (onDuty coverage.dutyType)
  | none => db

def reinstated (coverage : DutyDailyCoverage) : DutyDailyCoverage := { coverage with status := .active, releasedAt := none }

/-- The current OD stays active: no replacement could be prepared. -/
def reinstate (coverage : DutyDailyCoverage) (db : DutyDb) : DutyDb :=
  (attendDuty coverage db).saveCoverage (reinstated coverage)

def isReplacement (replacement : Except HttpException (Option DutyDailyCoverage)) : Bool :=
  match replacement with
  | .ok (some coverage) => coverage.status = .intervention_required
  | _ => false

def replacementError (replacement : Except HttpException (Option DutyDailyCoverage)) : HttpException :=
  match replacement with
  | .ok _ => .badRequest "No eligible replacement technician is available. The current OD remains active."
  | .error (.badRequest message) => .badRequest message
  | .error _ => .badRequest "Unable to prepare a replacement technician. The current OD remains active."

/-- Returning an OD is a single business action: the coverage is not left released without a replacement. -/
def releaseOd (s : Services) (coverage : DutyDailyCoverage) : DutyM Unit := do
  modify fun db =>
    (restoreAttendance coverage db).saveCoverage { coverage with status := .released, releasedAt := some s.now }
  let replacement ← attempt (reconcileCoverage s coverage.dutyDate coverage.dutyType coverage.assignedUserId.toList none)
  if isReplacement replacement then modify (recordCompletedCoverage coverage)
  else do
    modify (reinstate coverage)
    reads fun _ => .error (replacementError replacement)

def releaseCoverage (s : Services) (actor : Actor) (id : Nat) : DutyM Unit := do
  let coverage ← reads fun db => releasable s db actor id
  if coverage.dutyType = .OD then releaseOd s coverage else releaseVenue s coverage

/-! ## Exceptions -/

/-- A body: each field is absent, or a value. -/
structure ExceptionBody where
  exceptionDate : Option Int := none
  userId : Option Nat := none
  dutyType : Option (Option DutyType) := none
  type : Option DutyExceptionType := none
  remarks : Option (Option String) := none

def notOnRoster : HttpException :=
  .badRequest "Duty exceptions can only be registered for technicians on the shared duty roster."

/-- The exception that is saved. -/
def savableException (s : Services) (db : DutyDb) (actor : Actor) (body : ExceptionBody) (id : Option Nat) :
    Except HttpException DutyException := do
  s.assertAdmin actor
  let existing := id.bind db.exception?
  check (id.isSome = true → existing.isSome = true) (.notFound "Duty exception not found.")
  match body.exceptionDate <|> existing.map DutyException.exceptionDate, body.userId <|> existing.map DutyException.userId,
      body.type <|> existing.map DutyException.type with
  | some exceptionDate, some userId, some type => do
    check ((s.sharedRosterMembers.any fun member => member.userId = userId) = true) notOnRoster
    let dutyType := body.dutyType.getD (existing.bind DutyException.dutyType)
    let duplicate := db.exceptions.any fun row => row.exceptionDate = exceptionDate && row.userId = userId &&
      some row.id ≠ existing.map DutyException.id && row.dutyType = dutyType
    check (duplicate = false)
      (.badRequest ("This technician already has an exception for " ++
        ((dutyType.map DutyType.text).getD "all duties") ++ " on that date."))
    pure {
      id := (existing.map DutyException.id).getD db.nextId
      exceptionDate, userId, dutyType, type
      remarks := body.remarks.getD (existing.bind DutyException.remarks)
      createdById := (existing.map DutyException.createdById).getD actor.id }
  | _, none, _ => .error notOnRoster
  | _, _, none => .error (.badRequest "Invalid exception type.")
  | none, _, _ => .error databaseError

def putException (exception : DutyException) (db : DutyDb) : DutyDb :=
  if db.exceptions.any fun row => row.id = exception.id then
    { db with exceptions := db.exceptions.map fun row => if row.id = exception.id then exception else row }
  else { db with exceptions := db.exceptions ++ [exception], nextId := db.nextId + 1 }

def saveException (s : Services) (actor : Actor) (body : ExceptionBody) (id : Option Nat) : DutyM Unit := do
  let exception ← reads fun db => savableException s db actor body id
  modify (putException exception)
  if exception.exceptionDate = s.today then reconcileToday s else pure ()

/-- The exception that is removed. -/
def deletable (s : Services) (db : DutyDb) (actor : Actor) (id : Nat) : Except HttpException DutyException := do
  s.assertAdmin actor
  orNotFound (db.exception? id) "Duty exception not found. It may have already been deleted."

def deleteException (s : Services) (actor : Actor) (id : Nat) : DutyM Unit := do
  let existing ← reads fun db => deletable s db actor id
  modify fun db => { db with exceptions := db.exceptions.filter fun row => decide (row.id ≠ id) }
  if existing.exceptionDate = s.today then reconcileToday s else pure ()

/-- The pending coverage whose candidate is passed over. -/
def skippable (s : Services) (db : DutyDb) (actor : Actor) (id userId : Nat) : Except HttpException DutyDailyCoverage := do
  s.assertAdmin actor
  let coverage ← orNotFound (db.coverage? id) "Duty coverage not found."
  check (coverage.status = .intervention_required)
    (.badRequest "Only the current pending duty technician can be skipped.")
  check (coverage.dutyDate = s.today) (.badRequest "Only the current day duty technician can be skipped.")
  let isCandidate := (s.getRotation db coverage.dutyDate coverage.dutyType).any fun row =>
    row.userId = userId && !row.excluded
  check ((isCandidate && s.isAttendanceEligible db userId coverage.dutyDate false) = true)
    (.badRequest "The selected technician is not an eligible current duty candidate.")
  pure coverage

def skipCoverage (s : Services) (actor : Actor) (id userId : Nat) : DutyM Unit := do
  let coverage ← reads fun db => skippable s db actor id userId
  saveException s actor
    { exceptionDate := some coverage.dutyDate
      userId := some userId
      dutyType := some (some coverage.dutyType)
      type := some (if hasTickets s userId then .due_to_ta else .other)
      remarks := some (some (if hasTickets s userId then
        "Technician chose to continue active tickets instead of taking the scheduled duty."
        else "Technician was manually skipped due to other work commitments.")) } none

/-! ## Meetings -/

def isCurrentOd (s : Services) (db : DutyDb) (userId : Nat) : Bool :=
  (db.coverages.any fun row => row.dutyDate = s.today && row.dutyType = .OD && row.assignedUserId = some userId &&
    row.status = .active) ||
  (db.assignments.any fun row => row.dutyDate = s.today && row.dutyType = .OD && row.userId = userId) ||
  (s.getRotation db s.today .OD).head?.any fun row => row.userId = userId

structure Restrictions where
  hasActiveDuty : Bool
  purposeOnly : Bool

def reservationRestrictions (s : Services) (db : DutyDb) (row : DutyMeetingReservation) : Restrictions where
  hasActiveDuty :=
    (db.coverages.any fun coverage => coverage.reservationId = some row.id && coverage.status = .active) ||
      (row.meetingDate = s.today && row.status = .confirmed && db.relieversOf row.id ≠ [])
  purposeOnly := (db.assignments.any fun log => log.reservationId = some row.id) || row.status = .completed

/-- A body: each field is absent, null or a value. -/
structure ReservationBody where
  venueType : Option (Option DutyType) := none
  meetingDate : Option (Option Int) := none
  status : Option (Option DutyReservationStatus) := none
  startTime : Option (Option String) := none
  endTime : Option (Option String) := none
  purpose : Option (Option String) := none
  remarks : Option (Option String) := none

def DutyMeetingReservation.startText (row : DutyMeetingReservation) : Option String :=
  row.times.range.map fun range => range.1.text

def DutyMeetingReservation.endText (row : DutyMeetingReservation) : Option String :=
  row.times.range.map fun range => range.2.text

/-- A field of a body differs from what is stored. -/
def isChanged {α : Type} [DecidableEq α] (value : Option (Option α)) (stored : Option α) : Bool :=
  value.any fun value => value ≠ stored

/-- A field that only the schedule of a meeting has. -/
def changesSchedule (body : ReservationBody) (existing : DutyMeetingReservation) : Bool :=
  isChanged body.venueType (some existing.venueType) || isChanged body.meetingDate (some existing.meetingDate) ||
    isChanged body.status (some existing.status) || isChanged body.startTime existing.startText ||
    isChanged body.endTime existing.endText

/-- What an existing meeting lets through. -/
def assertEditable (s : Services) (db : DutyDb) (admin : Bool) (body : ReservationBody) (existing : DutyMeetingReservation) :
    Except HttpException Unit := do
  let restrictions := reservationRestrictions s db existing
  check (admin = true ∨ s.today ≤ existing.meetingDate)
    (.forbidden "Only a Duty Administrator can edit historical meetings.")
  check (restrictions.purposeOnly = true →
      changesSchedule body existing = false ∧ isChanged body.remarks existing.remarks = false)
    (.badRequest "A completed or logged meeting can only have its purpose edited.")
  check (restrictions.purposeOnly = false → restrictions.hasActiveDuty = true → changesSchedule body existing = false)
    (.badRequest "Finish active meeting duty before changing its venue, date, period, or status.")
  check (restrictions.purposeOnly = false → existing.status = .cancelled →
      (body.status.join.all fun status => status = .cancelled) = true)
    (.badRequest "A cancelled meeting cannot be reopened. Create a new schedule.")

/-- The number of two digits, if it is below a bound. -/
def twoDigitsBelow (bound : Nat) (a b : Char) : Option (Fin bound) :=
  if a.isDigit && b.isDigit then
    if h : twoDigits a b < bound then some ⟨twoDigits a b, h⟩ else none
  else none

/-- `/^(?:[01]\d|2[0-3]):[0-5]\d(?::[0-5]\d)?$/` -/
def parseClock (text : String) : Option ClockTime :=
  match text.toList with
  | [a, b, ':', c, d] => do
    let hours ← twoDigitsBelow 24 a b
    let minutes ← twoDigitsBelow 60 c d
    pure { hours, minutes }
  | [a, b, ':', c, d, ':', e, f] => do
    let hours ← twoDigitsBelow 24 a b
    let minutes ← twoDigitsBelow 60 c d
    let seconds ← twoDigitsBelow 60 e f
    pure { hours, minutes, seconds }
  | _ => none

/-- Times in one slot. -/
def slotted (range : Option (ClockTime × ClockTime)) : Except HttpException MeetingTimes :=
  match h : meetingSlot range with
  | .ok period => .ok ⟨range, period, h⟩
  | .error e => .error e

def startBeforeEnd : HttpException := .badRequest "Meeting start time must be before its end time."

/-- The times of a meeting that is saved. Two empty texts pass for the whole day, and the database refuses them. -/
def meetingTimes (startTime endTime : Option String) : Except HttpException MeetingTimes :=
  match startTime, endTime with
  | none, none => slotted none
  | some startTime, some endTime =>
    if startTime = "" ∧ endTime = "" then .error databaseError
    else if startTime = "" ∨ endTime = "" then
      .error (.badRequest "Meeting start and end are both required, or leave both blank for Whole Day.")
    else
      match parseClock startTime, parseClock endTime with
      | some start, some finish =>
        if finish.toSeconds ≤ start.toSeconds then .error startBeforeEnd else slotted (some (start, finish))
      | _, _ => .error startBeforeEnd
  | _, _ => .error (.badRequest "Provide both meeting times or select Whole Day.")

/-- `assertDutyType` of a venue. -/
def assertVenue (value : Option DutyType) : Except HttpException DutyType :=
  match value with
  | some .OD => .error (.badRequest "Invalid duty type: OD")
  | some type => .ok type
  | none => .error (.badRequest "Invalid duty type: undefined")

/-- The meeting that is saved, with the identifier of the one it changes or a new one. -/
def scheduledMeeting (s : Services) (db : DutyDb) (actor : Actor) (body : ReservationBody)
    (existing : Option DutyMeetingReservation) : Except HttpException DutyMeetingReservation := do
  let venueType ← assertVenue (body.venueType.join <|> existing.map DutyMeetingReservation.venueType)
  match body.meetingDate.join <|> existing.map DutyMeetingReservation.meetingDate with
  | none => .error databaseError
  | some meetingDate => do
    check (s.isAdmin actor = true ∨ s.today ≤ meetingDate)
      (.badRequest "The current OD can only add or edit meetings from today onwards.")
    let status := (body.status.join <|> existing.map DutyMeetingReservation.status).getD
      (if meetingDate = s.today then .confirmed else .scheduled)
    check (status = .completed → existing.map DutyMeetingReservation.status = some .completed)
      (.badRequest "Use Finish Duty to complete a meeting and preserve its duty log.")
    let times ← meetingTimes (body.startTime.getD (existing.bind DutyMeetingReservation.startText))
      (body.endTime.getD (existing.bind DutyMeetingReservation.endText))
    let conflict := db.reservations.find? fun row => row.meetingDate = meetingDate && row.venueType = venueType &&
      some row.id ≠ existing.map DutyMeetingReservation.id && row.status ≠ .cancelled && periodsOverlap times.period row.period
    check (conflict.isNone = true)
      (.badRequest (venueType.text ++ " already has a " ++ ((conflict.map fun row => row.period.text).getD "") ++
        " meeting on that date. Only one AM and one PM meeting are allowed per duty area."))
    pure {
      id := (existing.map DutyMeetingReservation.id).getD db.nextId
      meetingDate, venueType, times, status
      purpose := body.purpose.getD (existing.bind DutyMeetingReservation.purpose)
      remarks := body.remarks.getD (existing.bind DutyMeetingReservation.remarks)
      createdById := (existing.map DutyMeetingReservation.createdById).getD actor.id }

/-- What `saveReservation` writes. -/
inductive MeetingWrite where
  /-- A completed or logged meeting: only its purpose. -/
  | purpose (row : DutyMeetingReservation)
  | schedule (existing : Option DutyMeetingReservation) (row : DutyMeetingReservation)

def writesPurpose (body : ReservationBody) (existing : DutyMeetingReservation) : MeetingWrite :=
  .purpose { existing with purpose := body.purpose.getD existing.purpose }

def meetingWrite (s : Services) (db : DutyDb) (actor : Actor) (body : ReservationBody) (id : Option Nat) :
    Except HttpException MeetingWrite := do
  check (s.isAdmin actor = true ∨ isCurrentOd s db actor.id = true)
    (.forbidden "Only a Duty Administrator or the current OD can manage meeting schedules.")
  match id with
  | none => (scheduledMeeting s db actor body none).map (MeetingWrite.schedule none)
  | some id => do
    let existing ← orNotFound (db.reservation? id) "Meeting reservation not found."
    assertEditable s db (s.isAdmin actor) body existing
    if (reservationRestrictions s db existing).purposeOnly then pure (writesPurpose body existing)
    else (scheduledMeeting s db actor body (some existing)).map (MeetingWrite.schedule (some existing))

/-- A new meeting, or an existing one with its relievers unless it moves. -/
def putMeeting (existing : Option DutyMeetingReservation) (row : DutyMeetingReservation) (db : DutyDb) : DutyDb :=
  match existing with
  | none => { db with reservations := db.reservations ++ [row], nextId := db.nextId + 1 }
  | some existing =>
    if existing.meetingDate = row.meetingDate ∧ existing.venueType = row.venueType then db.saveReservation row
    else (db.saveReservation row).deleteRelievers row.id

def saveReservation (s : Services) (actor : Actor) (body : ReservationBody) (id : Option Nat) : DutyM Unit := do
  match ← reads fun db => meetingWrite s db actor body id with
  | .purpose row => modify fun db => db.saveReservation row
  | .schedule existing row => do
    modify (putMeeting existing row)
    if row.meetingDate = s.today ∧ row.status ≠ .cancelled then reconcileToday s else pure ()

/-- The meeting that is removed, none where there is no such meeting. -/
def removable (s : Services) (db : DutyDb) (actor : Actor) (id : Nat) : Except HttpException (Option Nat) := do
  check (s.isAdmin actor = true) (.forbidden "Only a Duty Administrator can delete meeting schedules.")
  match db.reservation? id with
  | none => pure none
  | some row => do
    let restrictions := reservationRestrictions s db row
    check (restrictions.purposeOnly = false ∧ restrictions.hasActiveDuty = false)
      (.badRequest "Meetings with active duty, completed duty, or a related duty log cannot be deleted.")
    pure (some row.id)

def deleteMeeting (id : Option Nat) (db : DutyDb) : DutyDb :=
  match id with
  | none => db
  | some id =>
    { db.deleteRelievers id with reservations := db.reservations.filter fun row => decide (row.id ≠ id) }

def deleteReservation (s : Services) (actor : Actor) (id : Nat) : DutyM Unit := do
  let row ← reads fun db => removable s db actor id
  modify (deleteMeeting row)

/-! ## Relievers -/

/-- Every check of `replaceMeetingRelievers` on one technician. -/
def assertReliever (s : Services) (userId : Nat) : Except HttpException Unit :=
  match s.sharedRosterMembers.find? fun member => decide (member.userId = userId) with
  | none => .error (.badRequest "Immediate relievers must be active technicians on the shared duty roster.")
  | some member =>
    check (¬ (s.odOverrideEnabled = true ∧ member.odOnly = true))
      (.badRequest "An OD-only technician cannot be assigned as a meeting reliever while OD Override is enabled.")

/-- A selected technician is free today. -/
def assertFreeToday (s : Services) (db : DutyDb) (date : Int) (userId : Nat) : Except HttpException Unit := do
  check (s.isAttendanceEligible db userId date true = true)
    (.badRequest "Every immediate reliever must have eligible PRESENT attendance today.")
  check (hasTickets s userId = false)
    (.badRequest "Reassign each immediate reliever’s active tickets before saving the management override.")

/-- A duty of another type that keeps one of the technicians in the period of a meeting. -/
def conflictingCoverage (db : DutyDb) (reservation : DutyMeetingReservation) (userIds : List Nat) :
    Option DutyDailyCoverage :=
  (db.reserving reservation.meetingDate).find? fun row =>
    (coverageCandidateUserId row).any userIds.contains && row.dutyType ≠ reservation.venueType &&
      periodsOverlap row.dutyPeriod reservation.period

/-- A meeting of another venue in the period of a meeting, of which one of the technicians is a reliever. -/
def conflictingMeeting (db : DutyDb) (reservation : DutyMeetingReservation) (userIds : List Nat) :
    Option DutyMeetingReservation :=
  db.reservations.find? fun row =>
    row.meetingDate = reservation.meetingDate && row.id ≠ reservation.id && row.status ≠ .cancelled &&
      row.venueType ≠ reservation.venueType && periodsOverlap row.period reservation.period &&
      (db.relieversOf row.id).any fun reliever => userIds.contains reliever.userId

/-- The meeting, the technicians and the reason. -/
def relievable (s : Services) (db : DutyDb) (actor : Actor) (reservationId : Nat) (userIds : List Nat) (reason : String) :
    Except HttpException (DutyMeetingReservation × List Nat × String) := do
  s.assertAdmin actor
  let reservation ← orNotFound (db.reservation? reservationId) "Meeting reservation not found."
  check (reservation.isOpen = true)
    (.badRequest "Immediate relievers can only be assigned to scheduled or confirmed meetings.")
  check (s.today ≤ reservation.meetingDate) (.badRequest "Immediate relievers cannot be assigned to a past meeting.")
  check (3 ≤ (trim reason).length) (.badRequest "A reason of at least 3 characters is required for an immediate reliever.")
  let selectedUserIds := (userIds.filter fun userId => decide (0 < userId)).eraseDups
  check (selectedUserIds ≠ []) (.badRequest "Select at least one immediate reliever.")
  selectedUserIds.forM (assertReliever s)
  let duty := conflictingCoverage db reservation selectedUserIds
  check (duty.isNone = true) (.badRequest ("A selected technician is already assigned to " ++
    ((duty.map fun row => row.dutyType.text).getD "") ++ " duty on that date."))
  let meeting := conflictingMeeting db reservation selectedUserIds
  check (meeting.isNone = true) (.badRequest ("A selected technician is already an immediate reliever for " ++
    ((meeting.map fun row => row.venueType.text).getD "") ++ " on that date."))
  (if reservation.meetingDate = s.today then selectedUserIds else []).forM (assertFreeToday s db reservation.meetingDate)
  pure (reservation, selectedUserIds, trim reason)

def putRelievers (reservationId : Nat) (userIds : List Nat) (reason : String) (createdById : Nat) (db : DutyDb) : DutyDb :=
  { db with
    relievers := (db.deleteRelievers reservationId).relievers ++
      userIds.map fun userId => { reservationId, userId, reason, createdById } }

def replaceMeetingRelievers (s : Services) (actor : Actor) (reservationId : Nat) (userIds : List Nat) (reason : String) :
    DutyM Unit := do
  let (reservation, selectedUserIds, normalizedReason) ← reads fun db =>
    relievable s db actor reservationId userIds reason
  modify (putRelievers reservation.id selectedUserIds normalizedReason actor.id)
  if reservation.meetingDate = s.today then reconcileDuty s reservation.meetingDate reservation.venueType none
  else pure ()

def clearMeetingRelievers (s : Services) (actor : Actor) (reservationId : Nat) : DutyM Unit := do
  let reservation ← reads fun db => do
    s.assertAdmin actor
    orNotFound (db.reservation? reservationId) "Meeting reservation not found."
  modify fun db => db.deleteRelievers reservation.id
  if reservation.meetingDate = s.today ∧ reservation.status ≠ .cancelled then
    reconcileDuty s reservation.meetingDate reservation.venueType none
  else pure ()

/-- The log of an immediate reliever, once for each meeting and technician. -/
def recordReliever (reservation : DutyMeetingReservation) (createdById : Nat) (remarks : String) (reliever : DutyMeetingReliever)
    (db : DutyDb) : DutyDb :=
  if db.assignments.any fun row => row.reservationId = some reservation.id && row.userId = reliever.userId then db
  else
    { db with
      assignments := db.assignments ++
        [{ dutyDate := reservation.meetingDate
           dutyType := reservation.venueType
           dutyPeriod := reservation.period
           userId := reliever.userId
           reservationId := some reservation.id
           remarks := some (remarks ++ reliever.reason)
           source := "management_override"
           createdById := some createdById }] }

/-- The meeting that its relievers finish, none where it was completed before. -/
def completable (s : Services) (db : DutyDb) (actor : Actor) (id : Nat) :
    Except HttpException (Option DutyMeetingReservation) := do
  s.assertAdmin actor
  let reservation ← orNotFound (db.reservation? id) "Meeting reservation not found."
  check (reservation.status ≠ .cancelled) (.badRequest "A cancelled meeting duty cannot be completed.")
  if reservation.status = .completed then pure none
  else do
    check (reservation.meetingDate = s.today) (.badRequest "Only today's active meeting duty can be completed.")
    check (db.relieversOf id ≠ []) (.badRequest "Finish the active coverage from the Duty overview.")
    pure (some reservation)

def completeReservation (s : Services) (actor : Actor) (id : Nat) : DutyM Unit := do
  match ← reads fun db => completable s db actor id with
  | none => pure ()
  | some reservation => do
    modify fun db => ((db.relieversOf reservation.id).foldl
      (fun db reliever => recordReliever reservation actor.id "Immediate reliever duty completed: " reliever db) db).saveReservation
        { reservation with status := .completed }
    reconcileNext s reservation.meetingDate reservation.venueType

/-! ## The end of the day -/

def isRendered (status : DutyReservationStatus) : Bool := status = .confirmed || status = .completed

/-- The relievers of today's meetings that took place, present and without tickets. -/
def renderedRelievers (s : Services) (db : DutyDb) : List (DutyMeetingReservation × DutyMeetingReliever) :=
  (db.reservations.filter fun row => row.meetingDate = s.today && isRendered row.status).flatMap fun reservation =>
    ((db.relieversOf reservation.id).filter fun reliever =>
      ((db.attendanceOf reliever.userId s.today).any fun row => row.status = .present) &&
        !hasTickets s reliever.userId).map fun reliever => (reservation, reliever)

/-- The duty of a coverage took place. -/
def dutyOccurred (db : DutyDb) (coverage : DutyDailyCoverage) : Bool :=
  coverage.dutyType = .OD || (coverage.reservationId.bind db.reservation?).any fun row => isRendered row.status

/-- A coverage at the end of its day. -/
def finalizeCoverage (db : DutyDb) (coverage : DutyDailyCoverage) : DutyDb :=
  if coverage.assignedUserId.isSome ∧ dutyOccurred db coverage = true then
    restoreAttendance coverage (completeMeeting coverage.reservationId
      ((recordCompletedCoverage coverage db).saveCoverage { coverage with status := .completed }))
  else if coverage.status = .released then db
  else restoreAttendance coverage db

def finalizeToday (s : Services) : DutyM Unit :=
  if s.currentTimeMinutes < s.officeEnd then pure ()
  else do
    modify fun db => (renderedRelievers s db).foldl
      (fun db entry => recordReliever entry.1 entry.2.createdById "Immediate reliever: " entry.2 db) db
    modify fun db => (db.coverages.filter fun row =>
      row.dutyDate = s.today && (row.status = .active || row.status = .released)).foldl finalizeCoverage db

/-! ## Operations -/

inductive Operation where
  | reconcileToday
  | activateCoverage (actor : Actor) (id userId : Nat)
  | skipCoverage (actor : Actor) (id userId : Nat)
  | releaseCoverage (actor : Actor) (id : Nat)
  | completeReservation (actor : Actor) (id : Nat)
  | saveReservation (actor : Actor) (body : ReservationBody) (id : Option Nat)
  | deleteReservation (actor : Actor) (id : Nat)
  | replaceMeetingRelievers (actor : Actor) (reservationId : Nat) (userIds : List Nat) (reason : String)
  | clearMeetingRelievers (actor : Actor) (reservationId : Nat)
  | saveException (actor : Actor) (body : ExceptionBody) (id : Option Nat)
  | deleteException (actor : Actor) (id : Nat)
  | finalizeToday

def Operation.run (s : Services) : Operation → DutyM Unit
  | reconcileToday => Duty.reconcileToday s
  | activateCoverage actor id userId => Duty.activateCoverage s actor id userId
  | skipCoverage actor id userId => Duty.skipCoverage s actor id userId
  | releaseCoverage actor id => Duty.releaseCoverage s actor id
  | completeReservation actor id => Duty.completeReservation s actor id
  | saveReservation actor body id => Duty.saveReservation s actor body id
  | deleteReservation actor id => Duty.deleteReservation s actor id
  | replaceMeetingRelievers actor reservationId userIds reason =>
    Duty.replaceMeetingRelievers s actor reservationId userIds reason
  | clearMeetingRelievers actor reservationId => Duty.clearMeetingRelievers s actor reservationId
  | saveException actor body id => Duty.saveException s actor body id
  | deleteException actor id => Duty.deleteException s actor id
  | finalizeToday => Duty.finalizeToday s

end ComplianceHub.Duty
