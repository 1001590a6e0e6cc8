import ComplianceHub.Interruption.Ledger
import ComplianceHub.Sla.Clock

/-!
# The tables of the ticket services

* `Ticket` : a row of `tickets`, its columns grouped as the services use them;
* `TicketEscalation`, `StatusEvent`, `StatusJustification` : the rows the services keep beside a ticket;
* `Db` : the tables;
* `Services` : what the other services and tables answer while one operation runs;
* the DTOs of the operations.

Staff ids are positive numbers. `updatedAt` is a version: every write that changes a row gives it a fresh one.
-/

namespace ComplianceHub.Tickets

open ComplianceHub.Interruption ComplianceHub.Sla

inductive TicketType where
  | desktop_support
  | it_support
  | pantawid_ict_support
  | specialized_concerns
deriving DecidableEq, Repr

inductive TicketPriority where
  | low
  | medium
  | high
  | urgent
  | critical
deriving DecidableEq, Repr

/-- A stored date text: the `toISOString` of an instant, or another text with what `Date.parse` reads from it. -/
inductive StampText where
  | iso (time : Int)
  | other (parsed : Option Int)
deriving DecidableEq, Repr

def StampText.parse : StampText → Option Int
  | .iso time => some time
  | .other parsed => parsed

/-- A credit of the pause ledger. A number that is not finite is `none`. -/
structure SlaPauseCredit where
  startAt : StampText
  endAt : StampText
  creditedSeconds : Option Rat
deriving DecidableEq, Repr

structure SlaPauseLedger where
  clockStartedAt : Option StampText
  legacySeconds : Option Rat
  intervals : List SlaPauseCredit
deriving DecidableEq, Repr

inductive UnitSource where
  | filing
  | requester_correction
  | baseline
deriving DecidableEq, Repr

structure TicketUnitSnapshot where
  unitId : Option Nat
  unitName : Option String
  source : UnitSource
  capturedAt : Int
deriving DecidableEq, Repr

structure TicketContent where
  subject : String := ""
  description : String := ""
  priority : Option TicketPriority := none
  resolutionNotes : Option String := none
  resolutionSteps : Option String := none
  resolutionDate : Option Int := none
  hasUnreadUser : Bool := false
  hasUnreadTechnician : Bool := false
  isKbGenerationPending : Bool := false
deriving DecidableEq, Repr

structure TicketRouting where
  ticketType : TicketType := .it_support
  categoryId : Option Nat := none
  issueTypeId : Option Nat := none
  issueType : String := "other"
deriving DecidableEq, Repr

structure TicketPeople where
  createdById : Option Nat := none
  requesterId : Nat
  requesterUnitSnapshot : Option TicketUnitSnapshot := none
  assignedToId : Option Nat := none
  lastAssignedAt : Option Int := none
deriving DecidableEq, Repr

structure TicketSla where
  overtimeSlaDate : Option Int := none
  /-- SLA deadline — set when the ticket first enters In Progress. -/
  slaDeadline : Option Int := none
  /-- Persistent origin of the SLA clock. Assigned tickets have no SLA start. -/
  slaStartedAt : Option Int := none
  slaPausedAt : Option Int := none
  accumulatedPauseSeconds : Int := 0
  /-- Nullable for pre-ledger tickets; never fabricate historical pause intervals. -/
  slaPauseLedger : Option SlaPauseLedger := none
  isSlaWaiting : Bool := false
deriving DecidableEq, Repr

structure TicketOutcome where
  cancelledAt : Option Int := none
  cancelledById : Option Nat := none
  cancellationReason : Option String := none
  resolvedAt : Option Int := none
  /-- Approved effective resolution time; resolvedAt remains the immutable system timestamp. -/
  resolutionTimeOverride : Option Int := none
  duplicateOfId : Option Nat := none
  userClosed : Bool := false
  satisfactionRating : Option Rat := none
  satisfactionComment : Option String := none
  satisfactionSubmittedAt : Option Int := none
deriving DecidableEq, Repr

structure Ticket extends TicketContent, TicketRouting, TicketPeople, TicketSla, TicketOutcome where
  id : Nat
  status : TicketStatus := .open
  /-- Immutable filing-day provenance. -/
  overtimeDate : Option Int := none
  /-- Actual pause/freeze intervals; never substitute the capped SLA-credit ledger. -/
  interruptionHistory : Option TicketInterruptionHistory := none
  createdAt : Int
  updatedAt : Nat := 0
deriving DecidableEq, Repr

inductive EscalationStatus where
  | pending
  | accepted
  | returned
  | cancelled
deriving DecidableEq, Repr

structure TicketEscalation where
  id : Nat
  ticketId : Nat
  escalatedById : Nat
  escalatedToId : Nat
  status : EscalationStatus := .pending
  notes : Option String := none
  returnReason : Option String := none
deriving DecidableEq, Repr

/-- A `status_changed` event; `fromStatus` is absent from events older than its recording. -/
structure StatusEvent where
  ticketId : Nat
  fromStatus : Option TicketStatus
  toStatus : TicketStatus
deriving DecidableEq, Repr

structure StatusJustification where
  ticketId : Nat
  status : TicketStatus
  justification : String
  createdBy : Nat
deriving DecidableEq, Repr

/-- The tables, each in the order its rows were created. -/
structure Db where
  tickets : List Ticket := []
  escalations : List TicketEscalation := []
  statusEvents : List StatusEvent := []
  justifications : List StatusJustification := []
  primaryKey : (tickets.map Ticket.id).Nodup := by decide
  escalationKey : (escalations.map TicketEscalation.id).Nodup := by decide
deriving DecidableEq, Repr

/-! ## The other services -/

inductive Role where
  | user
  | super_admin
  | other (value : String)
deriving DecidableEq, Repr

/-- The columns of `role_capabilities` that the ticket services read; a role without a row has none of them. -/
structure RoleCapability where
  isFocal : Bool := false
  isDesktop : Bool := false
  isItSupport : Bool := false
  isPantawidIct : Bool := false
  isSpecializedSupport : Bool := false
  isTicketSettingsFocal : Bool := false
  isTicketFocal : Bool := false
  isAllTickets : Bool := false
  isTicketModuleAccess : Bool := false
  isTicketRequesterCorrection : Bool := false
  isTicketCancellation : Bool := false
  isTicketResolutionTimeOverride : Bool := false
deriving DecidableEq, Repr

structure UserUnit where
  id : Nat
  name : String
deriving DecidableEq, Repr

structure User where
  id : Nat
  role : Role
  active : Bool := true
  autoAssignmentEligible : Bool := true
  /-- `formatPersonName(user, user.email)`. -/
  name : String := ""
  units : List UserUnit := []
deriving DecidableEq, Repr

structure TicketCategoryConfig where
  id : Nat
  isIt : Bool := false
  isDesktop : Bool := false
  isPantawid : Bool := false
  isSpecialized : Bool := false
  isActive : Bool := true
  isDeleted : Bool := false
deriving DecidableEq, Repr

structure TicketIssueType where
  id : Nat
  key : String
  /-- SLA time limit in hours — null = no SLA. -/
  slaHours : Option Rat
  allowablePauseHours : Int := 48
  /-- Maximum time limit in hours a ticket can stay on hold (frozen) — null = unlimited. -/
  maxFreezeHours : Option Int := none
  categoryId : Option Nat
  isActive : Bool := true
  isDeleted : Bool := false
deriving DecidableEq, Repr

inductive AttendanceStatus where
  | present
  | absent
  | half_day
  | out_of_office
deriving DecidableEq, Repr

/-- A staff pool of `getAutoAssignmentTechnicians`. -/
inductive Pool where
  | type (ticketType : TicketType)
  | all
deriving DecidableEq, Repr

/-- An escalation focal row: a staff member, for one support type or for all of them. -/
structure EscalationFocalConfig where
  userId : Nat
  pool : Pool
deriving DecidableEq, Repr

structure KeywordTarget where
  targetTicketType : TicketType
  targetCategoryId : Option Nat := none
  targetIssueTypeId : Option Nat := none
deriving DecidableEq, Repr

/-- What is read outside the ticket tables while one operation runs. The operation reads its clock once. -/
structure Services where
  now : Int
  /-- Row 1 of `ticketing_configs`. -/
  config : Option TicketingConfig
  isOfficeDay : Int → Bool
  isOvertimeDay : Int → Bool
  categories : Nat → Option TicketCategoryConfig
  issueTypes : Nat → Option TicketIssueType
  roleCapability : Role → RoleCapability
  getUserById : Nat → Option User
  /-- The read-only `users` view, of active accounts. -/
  activeUserRow : Nat → Option User
  /-- Today's attendance rows. -/
  attendance : Nat → Option AttendanceStatus
  /-- Today's present and half-day rows, with their recorded clock-in. -/
  clockIns : List (Nat × Option Int)
  hasOvertimeClockIn : Nat → Int → Bool
  getAutoAssignmentTechnicians : Pool → List User
  /-- The pools as `canAutomaticallyAssign` re-reads them before the write. -/
  currentTechnicians : Pool → List User
  escalationFocals : List EscalationFocalConfig
  /-- `getRolesWhere('isTicketSettingsFocal')`. -/
  escalationAdminRoles : List String
  matchKeywordRules : String → TicketType → Option KeywordTarget
  /-- `staffDirectory.preview` and `.complete` of a pending staff requester. -/
  previewStaff : String → Except HttpException User
  completeStaff : String → Except HttpException User

namespace Services

variable (s : Services)

/-- The Manila day of the operation. -/
def today : Int := getManilaDateString s.now

def isFocal (role : Role) : Bool := (s.roleCapability role).isFocal
def isSpecializedSupport (role : Role) : Bool := (s.roleCapability role).isSpecializedSupport
def isTicketSettingsFocal (role : Role) : Bool := (s.roleCapability role).isTicketSettingsFocal
def isTicketFocal (role : Role) : Bool := (s.roleCapability role).isTicketFocal
def isAllTickets (role : Role) : Bool := (s.roleCapability role).isAllTickets

def isTechnician (role : Role) : Bool :=
  let c := s.roleCapability role
  c.isDesktop || c.isItSupport || c.isPantawidIct

def isSeniorTech (role : Role) : Bool := s.isFocal role && s.isTechnician role

end Services

structure Actor where
  id : Nat
  role : Role
deriving DecidableEq, Repr

/-! ## DTOs -/

structure CreateTicketDto where
  subject : String
  description : String
  ticketType : TicketType
  priority : Option TicketPriority := none
  categoryId : Option Nat := none
  requesterId : Option Nat := none
  pendingStaffId : Option String := none
  assignedToId : Option Nat := none
  issueTypeId : Option Nat := none
deriving DecidableEq, Repr

/-- A field the request may leave out, and may set to null or to the empty string. -/
inductive Patch (α : Type) where
  | undefined
  | empty
  | value (a : α)
deriving DecidableEq, Repr

def Patch.isDefined {α : Type} : Patch α → Bool
  | .undefined => false
  | _ => true

structure UpdateTicketDto where
  subject : Option String := none
  description : Option String := none
  status : Option TicketStatus := none
  priority : Option TicketPriority := none
  resolutionNotes : Option String := none
  resolutionSteps : Option String := none
  /-- The instant the text parses to, or a text that does not parse. -/
  resolutionDate : Patch (Option Int) := .undefined
  issueTypeId : Patch Nat := .undefined
  duplicateOfId : Option Nat := none
  ticketType : Option TicketType := none
  generateKb : Option Bool := none
  categoryId : Patch Nat := .undefined
  statusJustification : Option String := none
deriving DecidableEq, Repr

structure AssignTicketDto where
  assignedToId : Nat
  expectedUpdatedAt : Option Nat := none
  /-- Absent, or the owner (perhaps none) the sender saw. -/
  expectedAssignedToId : Option (Option Nat) := none
  expectedStatus : Option TicketStatus := none
deriving DecidableEq, Repr

structure CorrectTicketRequesterDto where
  requesterId : Option Nat := none
  pendingStaffId : Option String := none
  expectedUpdatedAt : Nat
deriving DecidableEq, Repr

structure CorrectTicketAssigneeDto where
  assignedToId : Nat
  expectedUpdatedAt : Nat
deriving DecidableEq, Repr

structure CancelTicketDto where
  reason : String
  /-- The version, or a text that is no date. -/
  expectedUpdatedAt : Option Nat
deriving DecidableEq, Repr

/-- An answer of the satisfaction form. -/
inductive Likert where
  | na
  | rating (value : Rat)
deriving DecidableEq, Repr

structure CsatFormData where
  consentGiven : Bool
  unitSection : String
  dateOfTransaction : String
  clientFirstName : String
  clientLastName : String
  sex : String
  contactNumber : String
  technicianName : String
  age : Option Rat := none
  likert : List Likert
deriving DecidableEq, Repr

structure SubmitSatisfactionDto where
  rating : Option Rat := none
  comment : Option String := none
  formData : Option CsatFormData := none
deriving DecidableEq, Repr

structure EscalateTicketDto where
  escalatedToId : Nat
  notes : Option String := none
deriving DecidableEq, Repr

end ComplianceHub.Tickets
