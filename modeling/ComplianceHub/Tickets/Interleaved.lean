import ComplianceHub.Lib.Locks
import ComplianceHub.Tickets.Operation
import Mathlib.Data.List.Sort

/-!
# Operations that interleave

The operations of `Op` as they run beside each other: each reads and writes the tables in several accesses, and other
calls work between them. An access is a reading of the tables or one transaction.

* `Write` : one statement of a transaction, with the rows it locks;
* `withAutoAssignmentLock`, `transaction` : the named assignment lock, and pessimistic row locks taken in order. A row
  that a transaction has locked is written by nobody else;
* `program` : each operation;
* `requests` : calls of any operations, interleaved access by access.

`save` writes every column of an entity that was loaded earlier, whatever the row has become.
-/

namespace ComplianceHub.Tickets.Interleaved

open ComplianceHub.Lib ComplianceHub.Sla

inductive Lock where
  /-- `compliance_hub_ticket_auto_assignment`. -/
  | autoAssignment
  | row (id : Nat)
deriving DecidableEq, Repr

inductive Write where
  | insertTicket (t : Ticket)
  /-- `repository.save` of a loaded entity. -/
  | save (t : Ticket)
  /-- `repository.update` of some columns. -/
  | update (id : Nat) (f : Ticket → Ticket)
  | markDuplicate (sourceId originalId : Nat)
  /-- The guarded UPDATE of a promotion, of a ticket that was read waiting. -/
  | promote (waiting : Ticket) (promoted : Ticket → Ticket)
  | insertEscalation (e : TicketEscalation)
  | setEscalation (e : TicketEscalation)
  | cancelEscalations (ticketId : Nat)
  | logStatus (ticketId : Nat) (fromStatus toStatus : TicketStatus)
  | justify (justification : StatusJustification)

/-- The WHERE clause of a promotion. -/
def stillWaits (waiting row : Ticket) : Bool :=
  row.isSlaWaiting && row.status = waiting.status && row.assignedToId = waiting.assignedToId &&
    row.interruptionHistory = waiting.interruptionHistory

def Write.apply (db : Db) : Write → Db
  | insertTicket t => db.insertTicket t
  | save t => db.save t
  | update id f => db.update id f
  | markDuplicate sourceId originalId => db.update sourceId (duplicateRow originalId)
  | promote waiting promoted =>
    if (db.ticket? waiting.id).any (stillWaits waiting) then db.update waiting.id promoted else db
  | insertEscalation e => db.insertEscalation e
  | setEscalation e => db.setEscalation e
  | cancelEscalations ticketId => db.cancelEscalations ticketId
  | logStatus ticketId fromStatus toStatus => db.logStatus ticketId fromStatus toStatus
  | justify justification => db.justify (some justification)

/-- The tickets whose rows a statement locks. -/
def Write.rows : Write → List Nat
  | save t => [t.id]
  | update id _ => [id]
  | markDuplicate sourceId originalId => [sourceId, originalId]
  | promote waiting _ => [waiting.id]
  | _ => []

/-- The tables under their locks. -/
def tables : Store Lock Write Db where
  apply := Write.apply
  locks w := w.rows.map .row

theorem applyAll_save (tickets : List Ticket) (db : Db) :
    tables.applyAll db (tickets.map .save) = tickets.foldl Db.save db := by
  rw [Store.applyAll, List.foldl_map]
  rfl

abbrev AccessM := ExceptT HttpException (Program Lock Write Db)

/-! ## Accesses -/

/-- Read the tables. -/
def select : AccessM Db := ExceptT.mk (.write [] [] fun db => .done (.ok db))

/-- One transaction without locks of its own; it gives the tables it found. -/
def write (writes : List Write) : AccessM Db := ExceptT.mk (.write writes [] fun db => .done (.ok db))

section
variable {α : Type}

def ofExcept (x : Except HttpException α) : AccessM α := ExceptT.mk (.done x)

def throwIf (c : Prop) [Decidable c] (e : HttpException) : AccessM Unit := if c then throw e else pure ()

def orThrow (x : Option α) (e : HttpException) : AccessM α :=
  match x with
  | some a => pure a
  | none => throw e

def whenSome (x : Option α) (f : α → AccessM Unit) : AccessM Unit :=
  match x with
  | some a => f a
  | none => pure ()

def ignored (m : AccessM α) : AccessM Unit := do
  let _ ← m
  pure ()

/-- A failure is not reported. -/
def swallowed (m : AccessM Unit) : AccessM Unit :=
  ExceptT.mk (m.run.bind fun _ => .done (.ok ()))

/-- Work under the named lock, which is released however the work ends. -/
def withAutoAssignmentLock (work : AccessM α) : AccessM α :=
  ExceptT.mk (.lock .autoAssignment fun _ =>
    work.run.bind fun result => .write [] [.autoAssignment] fun _ => .done result)

/-- What a transaction does once its rows are locked: commit, or roll back. -/
def lockedWork (rows : List Nat) (work : Db → Except HttpException (List Write × α)) :
    Program Lock Write Db (Except HttpException α) :=
  .write [] [] fun db =>
    match work db with
    | .ok (writes, a) => .write writes (rows.map .row) fun _ => .done (.ok a)
    | .error e => .write [] (rows.map .row) fun _ => .done (.error e)

/-- A transaction that locks rows in this order, and computes its writes from the tables it then reads. -/
def transaction (rows : List Nat) (work : Db → Except HttpException (List Write × α)) : AccessM α :=
  ExceptT.mk (rows.foldr (fun id rest => .lock (.row id) fun _ => rest) (lockedWork rows work))

end

section
variable (s : Services)

def getTicketById (id : Nat) (viewer : Actor) : AccessM LoadedTicket := do
  let db ← select
  let row ← orThrow (db.ticket? id) (.notFound "Ticket not found")
  ofExcept (loadTicket s db row viewer)

/-! ## Queues -/

/-- Promote the waiting ticket that was read; true when the guarded UPDATE still matched it. -/
def promote (waiting : Ticket) : AccessM Bool := do
  let slaDeadline ← ofExcept (calculateTicketSlaDeadline s none waiting.issueTypeId waiting.overtimeSlaDate s.now)
  let db ← write [.promote waiting fun row => promotedRow s row slaDeadline]
  pure ((db.ticket? waiting.id).any (stillWaits waiting))

def unpauseNextWaitingTicketAndSetInProgress (techId : Nat) : AccessM Bool := do
  let db ← select
  match db.oldest (waitsFor techId) with
  | none => pure false
  | some waiting => promote s waiting

def handOn (techId : Nat) : AccessM Unit := ignored (unpauseNextWaitingTicketAndSetInProgress s techId)

def handOnPreviousOwner (previousAssigneeId : Nat) : AccessM Unit := do
  let db ← select
  if remainingActiveCount db previousAssigneeId = 0 then handOn s previousAssigneeId else pure ()

def cancellationHandoff (techId : Nat) : AccessM Unit := swallowed do
  let db ← select
  if runningCount db techId = 0 then handOn s techId else pure ()

/-- The next open ticket for a technician who is free. -/
def pickUpOpen (technicianId : Nat) : AccessM Unit := do
  let db ← select
  let capped := isCappedRoundRobin s.config &&
    (roundRobinCapHours s.config : Rat) ≤ getWeeklySlaLoad s db technicianId
  match (nextOpenTicket s db technicianId).filter fun _ => !capped with
  | none => pure ()
  | some t =>
    let slaDeadline ← ofExcept (calculateTicketSlaDeadline s none t.issueTypeId t.overtimeSlaDate s.now)
    if canAutomaticallyAssign s technicianId .all t.requesterId then
      ignored (write [.save (startedRow s t technicianId slaDeadline)])
    else pure ()

/-- Continue where no waiting ticket was promoted. -/
def unlessPromoted (promoted : AccessM Bool) (rest : AccessM Unit) : AccessM Unit := do
  if ← promoted then pure () else rest

def pickUp (technicianId : Nat) : AccessM Unit := do
  let db ← select
  if isFreeToPickUp s db technicianId then
    unlessPromoted (unpauseNextWaitingTicketAndSetInProgress s technicianId) (pickUpOpen s technicianId)
  else pure ()

def promoteRemaining (technicianId : Nat) : AccessM Bool := do
  let db ← select
  if remainingActiveCount db technicianId = 0 then unpauseNextWaitingTicketAndSetInProgress s technicianId
  else pure false

def terminalHandoff (technicianId : Nat) : AccessM Unit :=
  withAutoAssignmentLock (swallowed (unlessPromoted (promoteRemaining s technicianId)
    (if isSeniorTechId s technicianId then pure () else pickUp s technicianId)))

/-! ## Updates -/

def checkedWrites (t : Ticket) (expectedUpdatedAt : Nat) (db : Db) : Except HttpException (List Write × Unit) := do
  let current ← orError (db.ticket? t.id) (.conflict "This ticket is no longer editable. Refresh the ticket.")
  check (current.status ≠ .cancelled) (.conflict "This ticket is no longer editable. Refresh the ticket.")
  check (current.updatedAt = expectedUpdatedAt) (.conflict "This ticket changed. Refresh it before saving.")
  pure ([.save t], ())

def persistTicketUpdate (t : Ticket) (expectedUpdatedAt : Nat) : AccessM Unit :=
  transaction [t.id] (checkedWrites t expectedUpdatedAt)

/-- `[ticket.id, ticket.duplicateOfId].sort()`. -/
def lockOrder (t : Ticket) : List Nat := (t.id :: t.duplicateOfId.toList).dedup.insertionSort (· ≤ ·)

def duplicateWrites (t : Ticket) (expectedUpdatedAt : Nat) (actor : Actor) (db : Db) :
    Except HttpException (List Write × Unit) := do
  let source ← orError (db.ticket? t.id) (.badRequest "The source or original ticket no longer exists.")
  let original ← orError (t.duplicateOfId.bind db.ticket?)
    (.badRequest "The source or original ticket no longer exists.")
  check (source.updatedAt = expectedUpdatedAt)
    (.conflict "The ticket changed. Refresh it before marking it as Duplicate.")
  recheckDuplicate s db source original actor
  pure ([.markDuplicate source.id original.id, .logStatus source.id source.status .duplicate], ())

/-- Stable lock ordering also serializes attempts to turn an original into a duplicate. -/
def persistDuplicateTicket (t : Ticket) (expectedUpdatedAt : Nat) (actor : Actor) : AccessM Unit :=
  transaction (lockOrder t) (duplicateWrites s t expectedUpdatedAt actor)

def persistUpdate (plan : UpdatePlan) (actor : Actor) : AccessM Unit :=
  match plan.persist with
  | .save => ignored (write [.save plan.ticket])
  | .checked => persistTicketUpdate plan.ticket plan.ticket.updatedAt
  | .duplicate _ => persistDuplicateTicket s plan.ticket plan.ticket.updatedAt actor

def logUpdate (plan : UpdatePlan) : AccessM Unit :=
  whenSome plan.loggedStatus fun status => ignored (write [.logStatus plan.ticket.id plan.originalStatus status])

def commitUpdate (plan : UpdatePlan) (actor : Actor) : AccessM Unit := do
  whenSome plan.justification fun justification => ignored (write [.justify justification])
  let _ ← write (plan.pushedBack.map .save)
  persistUpdate s plan actor
  logUpdate plan
  whenSome plan.handoff (terminalHandoff s)

def updateTicket (id : Nat) (dto : UpdateTicketDto) (actor : Actor) : AccessM Ticket := do
  let db ← select
  let row ← orThrow (db.ticket? id) (.notFound "Ticket not found")
  let plan ← ofExcept (planUpdate s db row dto actor)
  commitUpdate s plan actor
  pure plan.ticket

/-! ## Under the assignment lock -/

def createTicket (dto : CreateTicketDto) (caller : Actor) : AccessM Unit := withAutoAssignmentLock do
  let db ← select
  let ticket ← ofExcept (createTicketInternal s db dto caller)
  ignored (write [.insertTicket ticket])

def commitAssign (plan : AssignPlan) : AccessM Unit := do
  let _ ← write [.save plan.ticket]
  whenSome plan.previousAssigneeId (handOnPreviousOwner s)

def assignTicketInternal (id : Nat) (dto : AssignTicketDto) (actor : Actor) (automaticPool : Option Pool) :
    AccessM Ticket := withAutoAssignmentLock do
  throwIf (canAssignTickets s actor.role = false)
    (.forbidden "Only admins, focal persons, and technicians can assign tickets.")
  let db ← select
  let row ← orThrow (db.ticket? id) (.notFound "Ticket not found")
  let plan ← ofExcept (planAssign s db row dto actor automaticPool)
  commitAssign s plan
  pure plan.ticket

/-- The correction to a pending staff requester, checked again on the locked row. -/
def completedWrites (id : Nat) (dto : CorrectTicketRequesterDto) (pendingStaffId : String) (actor : Actor) (db : Db) :
    Except HttpException (List Write × Unit) := do
  let current ← orError (db.ticket? id) (.conflict "This ticket changed. Refresh and try again.")
  check (current.updatedAt = dto.expectedUpdatedAt) (.conflict "This ticket changed. Refresh and try again.")
  check (isCorrectableStatus current.status)
    (.badRequest "Requester correction is only available for Assigned, In Progress, or Resolved tickets.")
  assertTicketReadAccess s db current actor
  let requester ← completedRequester s current pendingStaffId
  pure ([.update current.id fun row => requesterCorrected s row requester], ())

def saveRequester (t : Ticket) (requester : User) (dto : CorrectTicketRequesterDto) (actor : Actor) : AccessM Unit :=
  match dto.pendingStaffId with
  | some pendingStaffId => transaction [t.id] (completedWrites s t.id dto pendingStaffId actor)
  | none => ignored (write [.save (requesterCorrected s t requester)])

def correctTicketRequester (id : Nat) (dto : CorrectTicketRequesterDto) (actor : Actor) : AccessM Unit := do
  let requester ← ofExcept (correctedRequester s dto actor)
  withAutoAssignmentLock do
    let db ← select
    let t ← orThrow (db.ticket? id) (.notFound "Ticket not found")
    ofExcept (assertRequesterCorrection s db t requester dto actor)
    saveRequester s t requester dto actor

def commitAssigneeCorrection (plan : CorrectionPlan) : AccessM Unit := do
  let _ ← write [.save plan.ticket]
  whenSome plan.promotes (handOn s)
  whenSome plan.previousAssigneeId (handOnPreviousOwner s)

def correctTicketAssignee (id : Nat) (dto : CorrectTicketAssigneeDto) (actor : Actor) : AccessM Unit := do
  throwIf ((s.roleCapability actor.role).isTicketRequesterCorrection = false)
    (.forbidden "Ticket Record Correction capability is required.")
  withAutoAssignmentLock do
    let db ← select
    let t ← orThrow (db.ticket? id) (.notFound "Ticket not found")
    let plan ← ofExcept (planAssigneeCorrection s db t dto actor)
    commitAssigneeCorrection s plan

def claimWrites (id : Nat) (actor : Actor) (db : Db) : Except HttpException (List Write × Unit) := do
  let t ← orError (db.ticket? id) (.notFound "Ticket not found.")
  check (t.overtimeDate ≠ none ∧ t.status = .open ∧ t.assignedToId = none)
    (.conflict "This ticket has already been acquired or is no longer Open.")
  check ((s.activeUserRow actor.id).any (fun staff => staff.role = actor.role) ∧ canClaimOvertime s t actor)
    (.forbidden "A valid clock-in on the original OT day is required; you cannot acquire your own request.")
  let claimed ← claimedTicket s t actor.id (busyCount db actor.id)
  pure ([.save claimed], ())

def claimOvertimeTicket (id : Nat) (actor : Actor) : AccessM Ticket := do
  withAutoAssignmentLock (transaction [id] (claimWrites s id actor))
  let acquired ← getTicketById s id actor
  pure acquired.ticket

def cancelWrites (id : Nat) (request : Cancellation) (actorId : Nat) (db : Db) :
    Except HttpException (List Write × Ticket) := do
  let t ← orError (db.ticket? id) (.notFound "Ticket not found.")
  assertTicketCancellationAllowed t actorId request.actor.role
    (s.roleCapability request.actor.role).isTicketCancellation
  check (t.updatedAt = request.expectedUpdatedAt) (.conflict "This ticket changed. Refresh it before cancelling.")
  pure ([.update t.id (cancelledRow s actorId request.reason), .cancelEscalations t.id,
    .logStatus t.id t.status .cancelled], t)

def cancelTicket (id : Nat) (dto : CancelTicketDto) (actorId : Nat) : AccessM Unit := do
  let request ← ofExcept (cancellation s dto actorId)
  withAutoAssignmentLock do
    let t ← transaction [id] (cancelWrites s id request actorId)
    whenSome t.assignedToId (cancellationHandoff s)

def escalate (id : Nat) (dto : EscalateTicketDto) (actor : Actor) : AccessM Unit := withAutoAssignmentLock do
  throwIf (canEscalate s actor.role = false) (.forbidden "Your role is not allowed to escalate tickets.")
  let loaded ← getTicketById s id actor
  let db ← select
  ofExcept (assertEscalation s db loaded.ticket dto)
  ignored (write [.insertEscalation
    { id := 0, ticketId := id, escalatedById := actor.id, escalatedToId := dto.escalatedToId, notes := dto.notes }])

def logTakeover (t : Ticket) : AccessM Unit :=
  if t.status = .resolved ∨ t.status = .closed then pure ()
  else ignored (write [.logStatus t.id t.status .in_progress])

def acceptEscalation (ticketId escalationId actorId : Nat) : AccessM Unit := withAutoAssignmentLock do
  let db ← select
  let escalation ← ofExcept (answeredEscalation db ticketId escalationId actorId)
  let t ← orThrow (db.ticket? ticketId) (.notFound "Ticket not found")
  throwIf (t.status = .cancelled) (.badRequest "Cancelled tickets cannot accept escalation.")
  ofExcept (assertSpecializedAssigneeEligibility s t.ticketType (acceptingUser s t actorId))
  let _ ← write [.setEscalation { escalation with status := .accepted }]
  let taken ← ofExcept (takenOver s t actorId)
  let _ ← write [.save taken]
  logTakeover t

def returnEscalation (ticketId escalationId : Nat) (returnReason : String) (actorId : Nat) : AccessM Unit :=
  withAutoAssignmentLock do
    let db ← select
    let escalation ← ofExcept (answeredEscalation db ticketId escalationId actorId)
    throwIf (isBlank returnReason) (.badRequest "A return reason is required.")
    ignored (write [.setEscalation { escalation with status := .returned, returnReason := some (trim returnReason) }])

def assignPendingTicketsOnLogin (techId : Nat) : AccessM Unit := withAutoAssignmentLock do
  let db ← select
  match pendingPickup s db techId with
  | .ok (some t) => ignored (write [.save t])
  | _ => pure ()

/-! ## Without a lock -/

/-- Save the opened ticket. -/
def saveOpened (t : Ticket) : AccessM Unit := do
  let _ ← write [.save t]
  ignored (write [.logStatus t.id .assigned .in_progress])

def commitViewed (loaded : LoadedTicket) (viewer : Actor) : AccessM (Option Ticket) := do
  let _ ← write [.update loaded.ticket.id (clearUnreadColumn viewer)]
  let opened ← ofExcept (viewedTicket s loaded viewer)
  whenSome opened saveOpened
  pure opened

def markTicketViewed (id : Nat) (viewer : Actor) : AccessM (Option Ticket) := do
  let loaded ← getTicketById s id viewer
  commitViewed s loaded viewer

def submitSatisfaction (id : Nat) (dto : SubmitSatisfactionDto) (requesterId : Nat) : AccessM Ticket := do
  let db ← select
  let row ← orThrow (db.ticket? id) (.notFound "Ticket not found")
  let t ← ofExcept (ratedTicket s (enrichTicket db row) dto requesterId)
  let _ ← write [.save t]
  pure t

def overrideResolutionTime (id : Nat) (body : ResolutionOverride) (actor : Actor) : AccessM Unit := do
  throwIf ((s.roleCapability actor.role).isTicketResolutionTimeOverride = false)
    (.forbidden "Ticket Resolution Time Override capability is required.")
  let loaded ← getTicketById s id actor
  let verified ← ofExcept (verifiedTime s loaded.ticket body)
  ignored (write [.update id fun row => { row with resolutionTimeOverride := some verified }])

def pauseAllActiveTickets (technicianId : Option Nat) : AccessM Unit := do
  let db ← select
  let tickets := (db.tickets.filter fun t => isRunningClock t && ownedBy technicianId t).map (schedulePaused s db)
  ignored (write (tickets.map .save))

/-- Save the tickets that a job changed. -/
def saveChanged (f : Ticket → Except HttpException (Option Ticket)) (tickets : List Ticket) : AccessM Unit := do
  let changed ← ofExcept (changedTickets f tickets)
  ignored (write (changed.map .save))

def resumeAllActiveTickets (technicianId : Option Nat) (resumeAt : Int) : AccessM Unit := do
  let db ← select
  match s.config with
  | none => pure ()
  | some config =>
    saveChanged (fun t => applySlaResume s t resumeAt config)
      (db.tickets.filter fun t => isPausedClock t && ownedBy technicianId t)

def resumeCwwPresentTechnicianTickets : AccessM Unit := do
  let db ← select
  match s.config.filter (inCwwClockinWindow s) with
  | none => pure ()
  | some config =>
    saveChanged (cwwResumed s config)
      (db.tickets.filter fun t => isPausedClock t && (clockIn s t).isSome)

def processOvertimeSlaSchedule : AccessM Unit := do
  let db ← select
  match s.config with
  | none => pure ()
  | some config =>
    saveChanged (overtimeScheduled s config)
      (db.tickets.filter fun t => t.status = .in_progress && !t.isSlaWaiting)

def recalculateTicket (config : TicketingConfig) (t : Ticket) : AccessM Unit := do
  let changed ← ofExcept (recalculated s config t)
  whenSome changed fun t => ignored (write [.save t])

def recalculateActiveSlaDeadlines : AccessM Unit := do
  let db ← select
  match s.config with
  | none => pure ()
  | some config => (db.tickets.filter fun t => t.status = .in_progress).forM (recalculateTicket s config)

/-! ## The operations -/

def program : Op → AccessM Unit
  | .createTicket dto caller => createTicket s dto caller
  | .updateTicket id dto actor => ignored (updateTicket s id dto actor)
  | .assignTicketInternal id dto actor automaticPool => ignored (assignTicketInternal s id dto actor automaticPool)
  | .correctTicketRequester id dto actor => correctTicketRequester s id dto actor
  | .correctTicketAssignee id dto actor => correctTicketAssignee s id dto actor
  | .claimOvertimeTicket id actor => ignored (claimOvertimeTicket s id actor)
  | .markTicketViewed id viewer => ignored (markTicketViewed s id viewer)
  | .submitSatisfaction id dto requesterId => ignored (submitSatisfaction s id dto requesterId)
  | .cancelTicket id dto actorId => cancelTicket s id dto actorId
  | .escalate id dto actor => escalate s id dto actor
  | .acceptEscalation ticketId escalationId actorId => acceptEscalation s ticketId escalationId actorId
  | .returnEscalation ticketId escalationId returnReason actorId =>
    returnEscalation ticketId escalationId returnReason actorId
  | .overrideResolutionTime id body actor => overrideResolutionTime s id body actor
  | .unpauseNextWaitingTicketAndSetInProgress techId => withAutoAssignmentLock (handOn s techId)
  | .assignPendingTicketsOnLogin techId => assignPendingTicketsOnLogin s techId
  | .pauseAllActiveTickets technicianId => pauseAllActiveTickets s technicianId
  | .resumeAllActiveTickets technicianId resumeAt => resumeAllActiveTickets s technicianId resumeAt
  | .resumeCwwPresentTechnicianTickets => resumeCwwPresentTechnicianTickets s
  | .processOvertimeSlaSchedule => processOvertimeSlaSchedule s
  | .recalculateActiveSlaDeadlines => recalculateActiveSlaDeadlines s

end

/-- A call of an operation, with what it holds and what it has still to do. -/
abbrev Call := List Lock × Program Lock Write Db (Except HttpException Unit)

/-- The call of an operation. -/
def call (s : Services) (op : Op) : Call := ([], (program s op).run)

/-- Empty tables. -/
def noRows : Db where
  tickets := []
  escalations := []
  primaryKey := List.nodup_nil
  escalationKey := List.nodup_nil

/-- Calls of any operations, interleaved access by access, from empty tables. -/
def requests : Calls (Locked Lock Db) Call Unit :=
  tables.calls (fun db => db = noRows) fun p => ∃ s op, p = (program s op).run

end ComplianceHub.Tickets.Interleaved
