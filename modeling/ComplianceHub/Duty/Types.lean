import ComplianceHub.Lib.Triple
import ComplianceHub.Tickets.Types
import Mathlib.Data.List.Sort

/-!
# The tables of the duty service

* `DutyDailyCoverage`, `DutyMeetingReservation`, `DutyMeetingReliever`, `DutyAssignment`, `DutyException`,
  `TechAttendance` : the rows; `DutyDb` : the tables;
* `MeetingTimes` : the times of a meeting, which lie in one slot of its day;
* `Services` : the clock, the schedule, the roster, the accounts and the ticket counts, while one operation runs;
* `isAttendanceEligible`, `getRotation`, `selectedReservation` : whom and which meeting the service selects.
-/

namespace ComplianceHub.Duty

open ComplianceHub.Sla (TicketingConfig getManilaDateString manilaOffset twoDigits)
open ComplianceHub.Tickets (Role AttendanceStatus)

/-! ## Rows -/

inductive DutyType where
  | OD
  | ROC
  | OPCEN
  | CONFERENCE
deriving DecidableEq, Repr

def DutyType.text : DutyType → String
  | .OD => "OD"
  | .ROC => "ROC"
  | .OPCEN => "OPCEN"
  | .CONFERENCE => "CONFERENCE"

def DUTY_PRIORITY : List DutyType := [.OD, .ROC, .CONFERENCE, .OPCEN]

inductive DutyPeriod where
  | AM
  | PM
  | WHOLE_DAY
deriving DecidableEq, Repr

def DutyPeriod.text : DutyPeriod → String
  | .AM => "AM"
  | .PM => "PM"
  | .WHOLE_DAY => "WHOLE DAY"

inductive DutyExceptionType where
  | travel_order
  | exam
  | assistance
  | pacd
  | canvass
  | due_to_ta
  | other
deriving DecidableEq, Repr

inductive DutyReservationStatus where
  | scheduled
  | confirmed
  | completed
  | cancelled
deriving DecidableEq, Repr

inductive DutyCoverageStatus where
  | active
  | released
  | completed
  | cancelled
  | intervention_required
deriving DecidableEq, Repr

/-- A time of day, as a TIME column keeps it. -/
structure ClockTime where
  hours : Fin 24
  minutes : Fin 60
  seconds : Fin 60 := 0
deriving DecidableEq, Repr

def ClockTime.toMinutes (t : ClockTime) : Nat := t.hours.val * 60 + t.minutes.val

def ClockTime.toSeconds (t : ClockTime) : Nat := t.hours.val * 3600 + t.minutes.val * 60 + t.seconds.val

/-- Two decimal digits. -/
def padded (n : Nat) : String := if n < 10 then "0" ++ toString n else toString n

/-- The text of a column, `HH:MM:SS`. -/
def ClockTime.text (t : ClockTime) : String :=
  padded t.hours.val ++ ":" ++ padded t.minutes.val ++ ":" ++ padded t.seconds.val

/-- `meetingSlot` of two times or of none. -/
def meetingSlot : Option (ClockTime × ClockTime) → Except HttpException DutyPeriod
  | none => .ok .WHOLE_DAY
  | some (startTime, endTime) =>
    let start := startTime.toMinutes
    let finish := endTime.toMinutes
    if finish ≤ start then .error (.badRequest "Meeting end time must be after the start time.")
    else if start < 12 * 60 ∧ finish ≤ 12 * 60 then .ok .AM
    else if 12 * 60 ≤ start ∧ finish ≤ 24 * 60 then .ok .PM
    else .error (.badRequest "A meeting cannot cross AM and PM. Use separate AM and PM reservations.")

/-- The times of a stored meeting: both or neither, in one slot. -/
structure MeetingTimes where
  range : Option (ClockTime × ClockTime) := none
  period : DutyPeriod
  slot : meetingSlot range = .ok period
deriving DecidableEq, Repr

structure DutyMeetingReservation where
  id : Nat
  meetingDate : Int
  venueType : DutyType
  times : MeetingTimes
  purpose : Option String := none
  remarks : Option String := none
  status : DutyReservationStatus := .scheduled
  createdById : Nat
deriving DecidableEq, Repr

structure DutyMeetingReliever where
  reservationId : Nat
  userId : Nat
  reason : String
  createdById : Nat
deriving DecidableEq, Repr

structure DutyDailyCoverage where
  id : Nat
  dutyDate : Int
  dutyType : DutyType
  dutyPeriod : DutyPeriod
  reservationId : Option Nat := none
  primaryUserId : Nat
  assignedUserId : Option Nat := none
  isSubstitute : Bool := false
  substitutionReason : Option String := none
  status : DutyCoverageStatus
  previousAttendanceStatus : Option AttendanceStatus := none
  previousAttendanceNotes : Option String := none
  attendanceOverridden : Bool := false
  releasedAt : Option Int := none
deriving DecidableEq, Repr

structure DutyAssignment where
  dutyDate : Int
  userId : Nat
  dutyType : DutyType
  dutyPeriod : DutyPeriod
  coverageId : Option Nat := none
  reservationId : Option Nat := none
  remarks : Option String := none
  source : String
  createdById : Option Nat := none
deriving DecidableEq, Repr

structure DutyException where
  id : Nat
  exceptionDate : Int
  userId : Nat
  /-- None means this exception applies to every duty rotation for the date. -/
  dutyType : Option DutyType := none
  type : DutyExceptionType
  remarks : Option String := none
  createdById : Nat
deriving DecidableEq, Repr

structure TechAttendance where
  userId : Nat
  date : Int
  status : AttendanceStatus
  clockInTime : Option Int := none
  isManualOverride : Bool := false
  notes : Option String := none
deriving DecidableEq, Repr

structure DutyRosterMembership where
  userId : Nat
  dutyType : DutyType := .OD
  sortOrder : Int := 0
  isActive : Bool := true
  /-- When OD Override is enabled, these members serve OD only. -/
  odOnly : Bool := false
deriving DecidableEq, Repr

structure DutyDb where
  coverages : List DutyDailyCoverage := []
  reservations : List DutyMeetingReservation := []
  relievers : List DutyMeetingReliever := []
  assignments : List DutyAssignment := []
  exceptions : List DutyException := []
  attendance : List TechAttendance := []
  /-- Every identifier given so far is below it. -/
  nextId : Nat := 0
  /-- The coverages whose override went to a prior duty. It is in no table and nothing reads it. -/
  yielded : List Nat := []
deriving DecidableEq, Repr

structure Actor where
  id : Nat
  role : Role
deriving DecidableEq, Repr

/-- What is read outside the duty tables while one operation runs. The operation reads its clock once. -/
structure Services where
  now : Int
  /-- Row 1 of `ticketing_configs`. -/
  config : Option TicketingConfig := some {}
  odOverrideEnabled : Bool := false
  isDutyAdminAccess : Role → Bool
  /-- The active accounts with a technician role. -/
  usersById : List Nat
  /-- The rows of `duty_roster_memberships`, by their order and age. -/
  roster : List DutyRosterMembership
  /-- How many open tickets a technician has. -/
  activeTickets : Nat → Nat := fun _ => 0

/-! ## Writes -/

namespace DutyDb

variable (db : DutyDb)

def coverage? (id : Nat) : Option DutyDailyCoverage := db.coverages.find? fun row => decide (row.id = id)

def reservation? (id : Nat) : Option DutyMeetingReservation := db.reservations.find? fun row => decide (row.id = id)

def exception? (id : Nat) : Option DutyException := db.exceptions.find? fun row => decide (row.id = id)

def attendanceOf (userId : Nat) (date : Int) : Option TechAttendance :=
  db.attendance.find? fun row => decide (row.userId = userId ∧ row.date = date)

def relieversOf (reservationId : Nat) : List DutyMeetingReliever :=
  db.relievers.filter fun row => decide (row.reservationId = reservationId)

def saveCoverage (coverage : DutyDailyCoverage) : DutyDb :=
  { db with coverages := db.coverages.map fun row => if row.id = coverage.id then coverage else row }

def saveReservation (reservation : DutyMeetingReservation) : DutyDb :=
  { db with reservations := db.reservations.map fun row => if row.id = reservation.id then reservation else row }

/-- A change of the attendance of one day. -/
def saveAttendance (userId : Nat) (date : Int) (f : TechAttendance → TechAttendance) : DutyDb :=
  { db with attendance := db.attendance.map fun row => if row.userId = userId ∧ row.date = date then f row else row }

def deleteRelievers (reservationId : Nat) : DutyDb :=
  { db with relievers := db.relievers.filter fun row => decide (row.reservationId ≠ reservationId) }

end DutyDb

/-! ## The clock and the schedule -/

namespace Services

variable (s : Services)

def today : Int := getManilaDateString s.now

/-- `timeToMinutes`; the columns hold `HH:MM:SS`. -/
def timeToMinutes (value : String) : Int :=
  match value.toList with
  | a :: b :: ':' :: c :: d :: _ => twoDigits a b * 60 + twoDigits c d
  | _ => 0

/-- The minutes of the Manila day at an instant. -/
def minutesOf (time : Int) : Int := (time + manilaOffset) % 86400000 / 60000

def currentTimeMinutes : Int := minutesOf s.now

/-- A time of the schedule, none where there is no schedule. -/
def scheduled (column : TicketingConfig → String) : Int := ((s.config.map column).map timeToMinutes).getD 0

def isCww : Bool := s.config.any fun config => config.scheduleMode = .cww

def officeStart : Int := if s.isCww then s.scheduled (·.cwwClockinStart) else s.scheduled (·.officeClockin)

def officeEnd : Int := if s.isCww then s.scheduled (·.cwwClockoutEnd) else s.scheduled (·.officeClockout)

/-- The clock-in of a day is in time, and its shift has not ended. -/
def isClockInEligible (clockInTime : Int) (allowLate : Bool) : Bool :=
  let clockInMinutes := minutesOf clockInTime
  let cwwWindowEnd := s.scheduled (·.cwwClockinEnd)
  if !allowLate && s.isCww && cwwWindowEnd < clockInMinutes then false
  else if !allowLate && !s.isCww && s.scheduled (·.officeClockin) < clockInMinutes then false
  else if s.isCww && clockInMinutes ≤ cwwWindowEnd then
    if clockInMinutes < s.scheduled (·.cwwClockinStart) then
      decide (s.currentTimeMinutes ≤ s.scheduled (·.cwwClockoutStart))
    else decide (s.now ≤ clockInTime + 11 * 60 * 60 * 1000)
  else true

def isAttendanceRecordEligible (attendance : TechAttendance) (date : Int) (allowLate : Bool) : Bool :=
  if attendance.status ≠ .present then false
  else if date ≠ s.today then true
  else if s.currentTimeMinutes < s.officeStart ∨ s.officeEnd < s.currentTimeMinutes then false
  else
    match attendance.clockInTime with
    -- a manual PRESENT override is accepted without DTR time
    | none => attendance.isManualOverride
    | some clockInTime => s.isClockInEligible clockInTime allowLate

/-- Duty selection follows attendance, office start, and the configured shift end. -/
def isAttendanceEligible (db : DutyDb) (userId : Nat) (date : Int) (allowLate : Bool) : Bool :=
  (db.attendanceOf userId date).any fun attendance => s.isAttendanceRecordEligible attendance date allowLate

def isAdmin (actor : Actor) : Bool := s.isDutyAdminAccess actor.role

def assertAdmin (actor : Actor) : Except HttpException Unit :=
  check (s.isAdmin actor = true) (.forbidden "Duty Administrator access is required.")

/-! ## The rotation -/

def priority (type : DutyType) : Nat := DUTY_PRIORITY.idxOf type

/-- The first row of each user. -/
def firstOfEach : List DutyRosterMembership → List DutyRosterMembership
  | [] => []
  | row :: rest => row :: (firstOfEach rest).filter fun other => other.userId ≠ row.userId

/-- The roster is shared by all duties; legacy rows of other duties count where there is none for OD. -/
def sharedRosterMembers : List DutyRosterMembership :=
  let rows := s.roster.filter fun row => row.isActive
  let canonicalRows := rows.filter fun row => row.dutyType = .OD
  let source :=
    if canonicalRows ≠ [] then canonicalRows
    else rows.insertionSort fun a b => priority a.dutyType < priority b.dutyType ∨
      priority a.dutyType = priority b.dutyType ∧ a.sortOrder ≤ b.sortOrder
  (firstOfEach (source.filter fun row => s.usersById.contains row.userId)).insertionSort fun a b =>
    a.sortOrder < b.sortOrder ∨ a.sortOrder = b.sortOrder ∧ a.userId ≤ b.userId

structure RotationRow where
  userId : Nat
  sortOrder : Int
  daysSince : Int
  excluded : Bool
  next : Bool := false
deriving DecidableEq, Repr

/-- The days since the last duty of the type up to a date, 9999 where there is none. -/
def daysSince (db : DutyDb) (date : Int) (type : DutyType) (userId : Nat) : Int :=
  let days := (db.assignments.filter fun row => row.userId = userId && row.dutyType = type && row.dutyDate ≤ date).map
    fun row => date - row.dutyDate
  (days.min?).getD 9999

/-- Those who wait longest come first. -/
def waitsLonger (a b : RotationRow) : Prop :=
  b.daysSince < a.daysSince ∨ a.daysSince = b.daysSince ∧
    (a.sortOrder < b.sortOrder ∨ a.sortOrder = b.sortOrder ∧ a.userId ≤ b.userId)

instance : DecidableRel waitsLonger := fun a b => by
  unfold waitsLonger
  infer_instance

/-- `getRotation` of one duty. -/
def getRotation (db : DutyDb) (date : Int) (type : DutyType) : List RotationRow :=
  let roster := s.sharedRosterMembers.filter fun member =>
    !s.odOverrideEnabled || (if type = .OD then member.odOnly else !member.odOnly)
  let rows : List RotationRow := roster.map fun member =>
    { userId := member.userId
      sortOrder := member.sortOrder
      daysSince := daysSince db date type member.userId
      excluded := db.exceptions.any fun exception =>
        exception.exceptionDate = date && exception.userId = member.userId && exception.dutyType.all fun own => own = type }
  let eligible := (rows.filter fun row => !row.excluded).insertionSort waitsLonger
  let marked := rows.map fun row => { row with next := eligible.head?.any fun first => first.userId = row.userId }
  marked.insertionSort fun a b => a.next = true ∧ b.next = false ∨
    a.next = b.next ∧ (b.daysSince < a.daysSince ∨ a.daysSince = b.daysSince ∧ a.sortOrder ≤ b.sortOrder)

end Services

/-! ## Meetings and coverages -/

def isOpenStatus (status : DutyReservationStatus) : Bool := status ≠ .cancelled && status ≠ .completed

def DutyMeetingReservation.isOpen (reservation : DutyMeetingReservation) : Bool := isOpenStatus reservation.status

def DutyMeetingReservation.period (reservation : DutyMeetingReservation) : DutyPeriod := reservation.times.period

def periodsOverlap (left right : DutyPeriod) : Bool := left = .WHOLE_DAY || right = .WHOLE_DAY || left = right

def rank : DutyPeriod → Nat
  | .WHOLE_DAY => 0
  | .AM => 1
  | .PM => 2

/-- The seconds of the start of a meeting. -/
def startSeconds (reservation : DutyMeetingReservation) : Nat :=
  (reservation.times.range.map fun range => range.1.toSeconds).getD 0

def selectedReservation (reservations : List DutyMeetingReservation) (type : DutyType) : Option DutyMeetingReservation :=
  ((reservations.filter fun row => row.venueType = type && row.isOpen).insertionSort fun a b =>
    rank a.period < rank b.period ∨ rank a.period = rank b.period ∧ startSeconds a ≤ startSeconds b).head?

/-- The technician a coverage keeps from other duties. -/
def coverageCandidateUserId (coverage : DutyDailyCoverage) : Option Nat :=
  match coverage.status with
  | .active => coverage.assignedUserId
  | .intervention_required => some coverage.primaryUserId
  | _ => none

/-- The coverages of a date that keep a technician from other duties. -/
def DutyDb.reserving (db : DutyDb) (date : Int) : List DutyDailyCoverage :=
  db.coverages.filter fun row => row.dutyDate = date && (row.status = .active || row.status = .intervention_required)

/-- The synthetic note of a duty. -/
def dutyNote (type : DutyType) : String := type.text ++ " DUTY"

/-- Out of office, on a duty. -/
def onDuty (type : DutyType) (attendance : TechAttendance) : TechAttendance :=
  { attendance with status := .out_of_office, notes := some (dutyNote type), isManualOverride := true }

end ComplianceHub.Duty
