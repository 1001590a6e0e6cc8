import ComplianceHub.Lib.Traces
import ComplianceHub.Tickets.Interleaved

/-!
# An update, step by step

`updateTicket` with each write where the source makes it: the justification and the queue push-back are saved before the
clock stops, the resolution details are checked and the version is compared.
-/

namespace ComplianceHub.Tickets.Interleaved

open ComplianceHub.Lib ComplianceHub.Sla

namespace StepByStep

/-! ## The operation -/

section
variable (s : Services)

/-- The entity as `getTicketById` gives it, and the checks for every actor. -/
def loadUpdated (db : Db) (id : Nat) (dto : UpdateTicketDto) (actor : Actor) : Except HttpException LoadedTicket := do
  let row ← orError (db.ticket? id) (.notFound "Ticket not found")
  let loaded ← loadTicket s db row actor
  let c := updateContext db loaded actor
  check (c.original.status ≠ .cancelled) (.forbidden "Cancelled tickets cannot be updated.")
  check (dto.status ≠ some .cancelled) (.badRequest "Use Cancel Ticket and supply a cancellation reason.")
  let returning : Bool := c.frozenReturnStatus.isSome && dto.status = c.frozenReturnStatus
  check (isTicketReopening c.original.status dto.status = false ∨ returning ∨ actor.role = .super_admin) (.badRequest <|
    "Reopening a ticket is not permitted. Paused or frozen tickets resume automatically according to their " ++
      "configured limits.")
  pure loaded

/-- The checks for staff, with the text, the routing and the priority of the entity changed. -/
def editedTicket (c : UpdateContext) (issue : Option TicketIssueType) (dto : UpdateTicketDto) :
    Except HttpException (Ticket × Option TicketIssueType) := do
  let t := c.original
  check (t.status ≠ .duplicate)
    (.forbidden "Duplicate or cancelled tickets are in a terminal state and cannot be updated.")
  assertStaffUpdateAccess s c dto
  let t := { t with subject := trimmedOr dto.subject t.subject, description := trimmedOr dto.description t.description }
  let routed ← updateRouting s c t issue dto
  let t ← updatePriority s c routed.1 dto
  pure (t, routed.2)

/-- The checks of a requested status. -/
def assertStatusChange (c : UpdateContext) (t : Ticket) (dto : UpdateTicketDto) (target : TicketStatus) :
    Except HttpException Unit := do
  assertStatusAccess s c target
  assertTransition s c t dto target

/-- Preemptive queue push-back. -/
def pushBack (t : Ticket) : AccessM Unit := do
  let db ← select
  ignored (write ((pushedBack s db t).map .save))

def pushBackIfResumed (resumes : Bool) (t : Ticket) : AccessM Unit := if resumes then pushBack s t else pure ()

/-- The entity in its new status. -/
def changeStatus (c : UpdateContext) (t : Ticket) (issue : Option TicketIssueType) (dto : UpdateTicketDto)
    (target : TicketStatus) : AccessM Ticket := do
  ofExcept (assertResolvable t dto target)
  let justification ← ofExcept (statusJustification c dto target)
  whenSome justification fun justification => ignored (write [.justify justification])
  let moved ← ofExcept (suspendOrResume s t issue target)
  pushBackIfResumed s (resumesWork t.status target) moved
  let db ← select
  let moved := entered s db moved target
  ofExcept (if target = .resolved ∨ target = .closed then stopClock s moved issue t.status else .ok moved)

/-- The status part of an update. -/
def updateStatus (c : UpdateContext) (t : Ticket) (issue : Option TicketIssueType) (dto : UpdateTicketDto) :
    AccessM UpdatePlan :=
  match dto.status with
  | none => pure { ticket := t, originalStatus := t.status, persist := .checked }
  | some target => do
    ofExcept (assertStatusChange s c t dto target)
    if target = .duplicate then ofExcept (duplicatePlan c t dto)
    else do
      let moved ← changeStatus s c t issue dto target
      pure {
        ticket := moved, originalStatus := t.status, persist := .checked, loggedStatus := loggedStatus t.status target
        handoff := if isHandoffStatus target then moved.assignedToId else none }

/-- The save of an update, its event and the hand-over of the queue. -/
def saveUpdate (plan : UpdatePlan) (actor : Actor) : AccessM Ticket := do
  persistUpdate s plan actor
  logUpdate plan
  whenSome plan.handoff (terminalHandoff s)
  pure plan.ticket

/-- Check the resolution details, and save. -/
def finishUpdate (plan : UpdatePlan) (dto : UpdateTicketDto) (actor : Actor) : AccessM Ticket := do
  let content ← ofExcept (updateResolution plan.ticket.toTicketContent dto)
  saveUpdate s (recordTransition s plan content) actor

def updateStaff (c : UpdateContext) (issue : Option TicketIssueType) (dto : UpdateTicketDto) : AccessM Ticket := do
  let edited ← ofExcept (editedTicket s c issue dto)
  let plan ← updateStatus s c edited.1 edited.2 dto
  finishUpdate s plan dto c.actor

/-- An update of the ticket that was read from these tables. -/
def updateRead (db : Db) (id : Nat) (dto : UpdateTicketDto) (actor : Actor) : AccessM Ticket := do
  let loaded ← ofExcept (loadUpdated s db id dto actor)
  if actor.role = .user then do
    let plan ← ofExcept (planRequesterUpdate s loaded.ticket dto actor)
    saveUpdate s plan actor
  else updateStaff s (updateContext db loaded actor) loaded.issueTypeConfig dto

def updateTicket (id : Nat) (dto : UpdateTicketDto) (actor : Actor) : AccessM Ticket := do
  let db ← select
  updateRead s db id dto actor

end

theorem resumesWork_eq_true {status target : TicketStatus} (h : resumesWork status target = true) :
    target = .in_progress := by
  simp only [resumesWork, Bool.and_eq_true, decide_eq_true_eq] at h
  exact h.1

end StepByStep

end ComplianceHub.Tickets.Interleaved
