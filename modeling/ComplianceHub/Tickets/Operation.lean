import ComplianceHub.Lib.Run
import ComplianceHub.Tickets.Assign
import ComplianceHub.Tickets.Create
import ComplianceHub.Tickets.Escalate
import ComplianceHub.Tickets.Jobs
import ComplianceHub.Tickets.Persist

/-!
# Runs of ticket operations

* `Op`, `Op.run` : the operations that write tickets or escalations;
* `ticketing` : the transition system of completed operations, one after the other, at nondecreasing times from
  empty tables;
* `execute` : a run computed from its operations (`run_of_execute`);
* `office` : a small office, in which the runs of the examples take place.
-/

namespace ComplianceHub.Tickets

open ComplianceHub.Lib

inductive Op where
  | createTicket (dto : CreateTicketDto) (caller : Actor)
  | updateTicket (id : Nat) (dto : UpdateTicketDto) (actor : Actor)
  /-- `assignTicket`, and with a pool one assignment of `autoReassignAttendanceAlertTickets`. -/
  | assignTicketInternal (id : Nat) (dto : AssignTicketDto) (actor : Actor) (automaticPool : Option Pool)
  | correctTicketRequester (id : Nat) (dto : CorrectTicketRequesterDto) (actor : Actor)
  | correctTicketAssignee (id : Nat) (dto : CorrectTicketAssigneeDto) (actor : Actor)
  | claimOvertimeTicket (id : Nat) (actor : Actor)
  | markTicketViewed (id : Nat) (viewer : Actor)
  | submitSatisfaction (id : Nat) (dto : SubmitSatisfactionDto) (requesterId : Nat)
  | cancelTicket (id : Nat) (dto : CancelTicketDto) (actorId : Nat)
  | escalate (id : Nat) (dto : EscalateTicketDto) (actor : Actor)
  | acceptEscalation (ticketId escalationId actorId : Nat)
  | returnEscalation (ticketId escalationId : Nat) (returnReason : String) (actorId : Nat)
  | overrideResolutionTime (id : Nat) (body : ResolutionOverride) (actor : Actor)
  /-- The promotion after an SLA breach. -/
  | unpauseNextWaitingTicketAndSetInProgress (techId : Nat)
  | assignPendingTicketsOnLogin (techId : Nat)
  | pauseAllActiveTickets (technicianId : Option Nat)
  | resumeAllActiveTickets (technicianId : Option Nat) (resumeAt : Int)
  | resumeCwwPresentTechnicianTickets
  | processOvertimeSlaSchedule
  | recalculateActiveSlaDeadlines

/-- An operation whose result is not looked at. -/
def ignored {α : Type} (m : TicketM α) : TicketM Unit := do
  let _ ← m
  pure ()

theorem returns_ignored {α : Type} {m : TicketM α} {db db' : Db} {u : Unit} :
    Returns (ignored m) db u db' ↔ ∃ a, Returns m db a db' := by
  simp only [ignored, returns_bind, returns_pure]
  constructor
  · rintro ⟨a, _, h, -, rfl⟩
    exact ⟨a, h⟩
  · rintro ⟨a, h⟩
    exact ⟨a, _, h, trivial, rfl⟩

def Op.run (s : Services) : Op → TicketM Unit
  | createTicket dto caller => ignored (Tickets.createTicket s dto caller)
  | updateTicket id dto actor => ignored (Tickets.updateTicket s id dto actor)
  | assignTicketInternal id dto actor automaticPool =>
    ignored (Tickets.assignTicketInternal s id dto actor automaticPool)
  | correctTicketRequester id dto actor => Tickets.correctTicketRequester s id dto actor
  | correctTicketAssignee id dto actor => Tickets.correctTicketAssignee s id dto actor
  | claimOvertimeTicket id actor => ignored (Tickets.claimOvertimeTicket s id actor)
  | markTicketViewed id viewer => ignored (Tickets.markTicketViewed s id viewer)
  | submitSatisfaction id dto requesterId => ignored (Tickets.submitSatisfaction s id dto requesterId)
  | cancelTicket id dto actorId => Tickets.cancelTicket s id dto actorId
  | escalate id dto actor => Tickets.escalate s id dto actor
  | acceptEscalation ticketId escalationId actorId => Tickets.acceptEscalation s ticketId escalationId actorId
  | returnEscalation ticketId escalationId returnReason actorId =>
    Tickets.returnEscalation ticketId escalationId returnReason actorId
  | overrideResolutionTime id body actor => Tickets.overrideResolutionTime s id body actor
  | unpauseNextWaitingTicketAndSetInProgress techId =>
    ignored (Tickets.unpauseNextWaitingTicketAndSetInProgress s techId)
  | assignPendingTicketsOnLogin techId => Tickets.assignPendingTicketsOnLogin s techId
  | pauseAllActiveTickets technicianId => ignored (Tickets.pauseAllActiveTickets s technicianId)
  | resumeAllActiveTickets technicianId resumeAt => ignored (Tickets.resumeAllActiveTickets s technicianId resumeAt)
  | resumeCwwPresentTechnicianTickets => ignored (Tickets.resumeCwwPresentTechnicianTickets s)
  | processOvertimeSlaSchedule => Tickets.processOvertimeSlaSchedule s
  | recalculateActiveSlaDeadlines => Tickets.recalculateActiveSlaDeadlines s

/-- The operation completed and left these tables. -/
def Op.Completes (op : Op) (s : Services) (db db' : Db) : Prop := Returns (op.run s) db () db'

/-- The tables, and the time of the last operation. -/
structure State where
  db : Db
  clock : Int

/-- Completed operations, one after the other, from empty tables. -/
def ticketing : System State (Services × Op) where
  init st := st.db = {}
  step st l st' := st.clock ≤ l.1.now ∧ l.2.Completes l.1 st.db st'.db ∧ st'.clock = l.1.now

/-! ## Computed runs -/

/-- The tables after an operation that completes. -/
def Op.next (op : Op) (s : Services) (db : Db) : Option Db :=
  match (op.run s).run db with
  | .ok _ db' => some db'
  | .error _ _ => none

theorem Op.completes_of_next {op : Op} {s : Services} {db db' : Db} (h : op.next s db = some db') :
    op.Completes s db db' := by
  unfold next at h
  split at h
  · cases h
    assumption
  · cases h

/-- The transitions taken so far, and the state reached. -/
abbrev Log := List (Transition State (Services × Op)) × State

def Log.step (log : Log) (l : Services × Op) : Option Log :=
  if log.2.clock ≤ l.1.now then
    (l.2.next l.1 log.2.db).map fun db' => (log.1 ++ [⟨log.2, l, ⟨db', l.1.now⟩⟩], ⟨db', l.1.now⟩)
  else none

/-- Some operations after a run, if all complete. -/
def executeFrom : Log → List (Services × Op) → Option Log
  | log, [] => some log
  | log, l :: rest => (log.step l).bind fun log => executeFrom log rest

def execute (ops : List (Services × Op)) : Option Log := executeFrom ([], ⟨{}, 0⟩) ops

theorem run_of_executeFrom {ops : List (Services × Op)} {log log' : Log} (hrun : Run ticketing log.1 log.2)
    (h : executeFrom log ops = some log') : Run ticketing log'.1 log'.2 := by
  induction ops generalizing log with
  | nil =>
    cases h
    exact hrun
  | cons l rest ih =>
    obtain ⟨next, hnext, h⟩ := Option.bind_eq_some_iff.mp h
    refine ih ?_ h
    unfold Log.step at hnext
    split_ifs at hnext with hclock
    obtain ⟨db', hdb, rfl⟩ := Option.map_eq_some_iff.mp hnext
    exact .step hrun ⟨hclock, Op.completes_of_next hdb, rfl⟩

theorem run_of_execute {ops : List (Services × Op)} {log : Log} (h : execute ops = some log) :
    Run ticketing log.1 log.2 :=
  run_of_executeFrom (.init rfl) h

/-! ## An office

Requester 1, technicians 2 and 3, ticket administrator 4 and super admin 5, all present every day; category 1 with
issue 1 of four SLA hours; no automatic assignment. -/

def officeRole : Nat → Role
  | 1 => .user
  | 2 | 3 => .other "technician"
  | 4 => .other "administrator"
  | _ => .super_admin

def officeCapability (role : Role) : RoleCapability :=
  match role with
  | .user => { isTicketCancellation := true }
  | .other "technician" => { isItSupport := true }
  | _ => {
      isFocal := true, isTicketFocal := true, isTicketSettingsFocal := true, isAllTickets := true
      isTicketModuleAccess := true, isTicketRequesterCorrection := true, isTicketCancellation := true }

def officeUser (id : Nat) : Option User := some { id, role := officeRole id }

def office (now : Int) : Services where
  now
  config := some {}
  isOfficeDay _ := true
  isOvertimeDay _ := false
  categories id := if id = 1 then some { id, isIt := true } else none
  issueTypes id := if id = 1 then some { id, key := "network", slaHours := some 4, categoryId := some 1 } else none
  roleCapability := officeCapability
  getUserById := officeUser
  activeUserRow := officeUser
  attendance _ := some .present
  clockIns := []
  hasOvertimeClockIn _ _ := false
  getAutoAssignmentTechnicians _ := []
  currentTechnicians _ := []
  escalationFocals := [⟨3, .all⟩]
  escalationAdminRoles := []
  matchKeywordRules _ _ := none
  previewStaff _ := .error (.notFound "Staff not found")
  completeStaff _ := .error (.notFound "Staff not found")

/-- A member of the office. -/
def officeActor (id : Nat) : Actor := { id, role := officeRole id }

/-- The request that requester 1 files. -/
def request : CreateTicketDto :=
  { subject := "No network", description := "The line is down", ticketType := .it_support, categoryId := some 1 }

end ComplianceHub.Tickets
