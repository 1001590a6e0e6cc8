import ComplianceHub.Tickets.Store
import ComplianceHub.Tickets.SlaState

/-!
# Reading a ticket

* `assertTicketReadAccess` : who may read a ticket, with the privacy of overtime tickets;
* `enrichTicket` : the owner that an accepted escalation shows in place of the stored one;
* `repairWaiting`, `repairStart`, `repairDeadline` : the columns `getTicketById` repairs in the loaded entity;
* `getTicketById` : the loaded entity with its SLA indicators. Nothing is written, but several operations change
  the entity and save it;
* `Loads` : what a loaded entity shares with its row.
-/

namespace ComplianceHub.Tickets

open ComplianceHub.Sla

/-- OT provenance is server-owned; a calendar edit never retroactively changes a ticket. -/
def isOvertimeStaff (role : Role) : Bool := role ≠ .user ∧ role ≠ .super_admin

def isTerminalStatus (s : TicketStatus) : Bool :=
  s = .resolved || s = .closed || s = .duplicate || s = .cancelled

theorem isTerminalStatus_of_live {status : TicketStatus} (h : isLiveStatus status = true) :
    isTerminalStatus status = false := by
  cases status <;> simp_all [isLiveStatus, isTerminalStatus]

def isOvertimeAdministrator (s : Services) (role : Role) : Bool :=
  role ≠ .user && (role = .super_admin || s.isTicketSettingsFocal role || s.isTicketFocal role)

def canAccessTicketByEscalation (db : Db) (ticketId viewerId : Nat) : Bool :=
  db.escalations.any fun e => e.ticketId = ticketId && (e.escalatedById = viewerId || e.escalatedToId = viewerId)

def assertTicketReadAccess (s : Services) (db : Db) (t : Ticket) (viewer : Actor) : Except HttpException Unit :=
  match t.overtimeDate with
  | some date =>
    if isOvertimeAdministrator s viewer.role then .ok ()
    else if t.requesterId = viewer.id ∨ t.createdById = some viewer.id ∨ t.assignedToId = some viewer.id then .ok ()
    else if t.status = .open ∧ t.assignedToId = none ∧ isOvertimeStaff viewer.role ∧
        s.hasOvertimeClockIn viewer.id date then .ok ()
    else if isOvertimeStaff viewer.role ∧ canAccessTicketByEscalation db t.id viewer.id then .ok ()
    else .error (.forbidden "This overtime ticket is not available to you.")
  | none =>
    if s.isAllTickets viewer.role then .ok ()
    else if t.requesterId = viewer.id ∨ t.assignedToId = some viewer.id then .ok ()
    else if t.createdById = some viewer.id then .ok ()
    else if canAccessTicketByEscalation db t.id viewer.id then .ok ()
    else .error (.forbidden "You do not have access to this ticket.")

/-- Only active tickets show the escalation's owner: resolved and closed tickets show the actual resolver. -/
def enrichTicket (db : Db) (t : Ticket) : Ticket :=
  match db.acceptedEscalation t.id with
  | some escalation =>
    if isTerminalStatus t.status then t else { t with assignedToId := some escalation.escalatedToId }
  | none => t

theorem enrichTicket_of_terminal (db : Db) {t : Ticket} (h : isTerminalStatus t.status = true) : enrichTicket db t = t := by
  unfold enrichTicket
  split
  · rw [if_pos h]
  · rfl

/-- A loaded ticket, with its relation `issueTypeConfig` and its SLA indicators. -/
structure LoadedTicket where
  ticket : Ticket
  issueTypeConfig : Option TicketIssueType
  slaState : TicketSlaState

/-- In Progress tickets are active; repair legacy rows that still carry the queue flag. -/
def repairWaiting (t : Ticket) : Ticket :=
  if t.status = .in_progress ∧ t.isSlaWaiting then { t with isSlaWaiting := false, slaPausedAt := none } else t

def repairStart (t : Ticket) : Ticket :=
  if t.status = .in_progress ∧ t.slaStartedAt = none then
    { t with slaStartedAt := some (t.lastAssignedAt.getD t.createdAt) }
  else t

def repairDeadline (s : Services) (issue : Option TicketIssueType) (t : Ticket) : Except HttpException Ticket :=
  if t.status = .in_progress ∧ t.slaDeadline = none ∧ t.assignedToId.isSome then
    (calculateTicketSlaDeadline s issue t.issueTypeId t.overtimeSlaDate (t.slaStartedAt.getD t.createdAt)).map
      fun deadline => { t with slaDeadline := deadline }
  else .ok t

def clearUnread (viewer : Actor) (t : Ticket) : Ticket :=
  if viewer.role = .user then { t with hasUnreadUser := false } else { t with hasUnreadTechnician := false }

/-- The entity `getTicketById` builds from a row. -/
def loadTicket (s : Services) (db : Db) (row : Ticket) (viewer : Actor) : Except HttpException LoadedTicket := do
  let issue := issueTypeConfig s row.toTicketRouting
  let t := enrichTicket db row
  assertTicketReadAccess s db t viewer
  let t ← repairDeadline s issue (repairStart (repairWaiting t))
  let (t, slaState) ← projectTicketSlaState s (clearUnread viewer t) issue s.config
  pure { ticket := t, issueTypeConfig := issue, slaState }

def getTicketById (s : Services) (id : Nat) (viewer : Actor) : TicketM LoadedTicket := do
  let db ← get
  let row ← orThrow (db.ticket? id) (.notFound "Ticket not found")
  ofExcept (loadTicket s db row viewer)

theorem returns_getTicketById {s : Services} {id : Nat} {viewer : Actor} {db db' : Db} {e : LoadedTicket} :
    Returns (getTicketById s id viewer) db e db' ↔
      ∃ row, db.ticket? id = some row ∧ loadTicket s db row viewer = .ok e ∧ db = db' := by
  simp only [getTicketById, returns_bind, returns_get, returns_orThrow, returns_ofExcept]
  constructor
  · rintro ⟨_, _, ⟨rfl, rfl⟩, row, _, ⟨hrow, rfl⟩, hload, rfl⟩
    exact ⟨row, hrow, hload, rfl⟩
  · rintro ⟨row, hrow, hload, rfl⟩
    exact ⟨db, db, ⟨rfl, rfl⟩, row, db, ⟨hrow, rfl⟩, hload, rfl⟩

/-! ## What a loaded entity shares with its row -/

/-- A loaded entity has its row's columns, but for its owner, its unread flags and four columns of its SLA clock. -/
structure Loads (db : Db) (row t : Ticket) : Prop where
  id : t.id = row.id
  status : t.status = row.status
  overtimeDate : t.overtimeDate = row.overtimeDate
  interruptionHistory : t.interruptionHistory = row.interruptionHistory
  createdAt : t.createdAt = row.createdAt
  updatedAt : t.updatedAt = row.updatedAt
  routing : t.toTicketRouting = row.toTicketRouting
  outcome : t.toTicketOutcome = row.toTicketOutcome
  createdById : t.createdById = row.createdById
  requesterId : t.requesterId = row.requesterId
  requesterUnitSnapshot : t.requesterUnitSnapshot = row.requesterUnitSnapshot
  lastAssignedAt : t.lastAssignedAt = row.lastAssignedAt
  assignedToId : t.assignedToId = (enrichTicket db row).assignedToId
  subject : t.subject = row.subject
  description : t.description = row.description
  priority : t.priority = row.priority
  resolutionNotes : t.resolutionNotes = row.resolutionNotes
  resolutionSteps : t.resolutionSteps = row.resolutionSteps
  resolutionDate : t.resolutionDate = row.resolutionDate
  isKbGenerationPending : t.isKbGenerationPending = row.isKbGenerationPending
  overtimeSlaDate : t.overtimeSlaDate = row.overtimeSlaDate
  accumulatedPauseSeconds : t.accumulatedPauseSeconds = row.accumulatedPauseSeconds
  slaPauseLedger : t.slaPauseLedger = row.slaPauseLedger

theorem loads_enrichTicket (db : Db) (row : Ticket) : Loads db row (enrichTicket db row) := by
  have h : enrichTicket db row = { row with assignedToId := (enrichTicket db row).assignedToId } := by
    unfold enrichTicket
    cases db.acceptedEscalation row.id with
    | none => rfl
    | some escalation => dsimp only; split_ifs <;> rfl
  rw [h]
  constructor <;> rfl

section
variable {db : Db} {row t t' : Ticket} (h : Loads db row t)
include h

theorem Loads.repairWaiting : Loads db row (repairWaiting t) := by
  unfold Tickets.repairWaiting
  split_ifs
  · obtain ⟨⟩ := h
    constructor <;> assumption
  · exact h

theorem Loads.repairStart : Loads db row (repairStart t) := by
  unfold Tickets.repairStart
  split_ifs
  · obtain ⟨⟩ := h
    constructor <;> assumption
  · exact h

theorem Loads.repairDeadline {s : Services} {issue : Option TicketIssueType}
    (hr : repairDeadline s issue t = .ok t') : Loads db row t' := by
  unfold Tickets.repairDeadline at hr
  split_ifs at hr
  · obtain ⟨d, -, rfl⟩ := map_eq_ok.mp hr
    obtain ⟨⟩ := h
    constructor <;> assumption
  · cases hr
    exact h

theorem Loads.clearUnread (viewer : Actor) : Loads db row (clearUnread viewer t) := by
  unfold Tickets.clearUnread
  obtain ⟨⟩ := h
  split_ifs <;> constructor <;> assumption

end

theorem Loads.projectTicketSlaState {db : Db} {row t t' : Ticket} (h : Loads db row t) {s : Services}
    {issue : Option TicketIssueType} {config : Option TicketingConfig} {state : TicketSlaState}
    (hp : projectTicketSlaState s t issue config = .ok (t', state)) : Loads db row t' := by
  obtain ⟨d, -, rfl⟩ := projectTicketSlaState_eq s hp
  obtain ⟨⟩ := h
  constructor <;> assumption

theorem loadTicket_loads {s : Services} {db : Db} {row : Ticket} {viewer : Actor} {e : LoadedTicket}
    (h : loadTicket s db row viewer = .ok e) : Loads db row e.ticket := by
  simp only [loadTicket, bind_eq_ok] at h
  obtain ⟨-, -, t, ht, ⟨t', state⟩, hp, he⟩ := h
  cases he
  exact (((loads_enrichTicket db row).repairWaiting.repairStart.repairDeadline ht).clearUnread
    viewer).projectTicketSlaState hp

theorem loadTicket_issueTypeConfig {s : Services} {db : Db} {row : Ticket} {viewer : Actor} {e : LoadedTicket}
    (h : loadTicket s db row viewer = .ok e) : e.issueTypeConfig = issueTypeConfig s row.toTicketRouting := by
  simp only [loadTicket, bind_eq_ok] at h
  obtain ⟨-, -, _, -, _, -, he⟩ := h
  cases he
  rfl

/-- Nothing is repaired in a ticket that is not In Progress; the deadline of a paused one may be projected. -/
theorem loadTicket_eq_of_ne_in_progress {s : Services} {db : Db} {row : Ticket} {viewer : Actor} {e : LoadedTicket}
    (h : loadTicket s db row viewer = .ok e) (hstatus : row.status ≠ .in_progress) :
    ∃ d, (d = row.slaDeadline ∨ row.slaStartedAt.isSome ∧ row.slaPausedAt.isSome) ∧
      e.ticket.toTicketSla = { row.toTicketSla with slaDeadline := d } ∧
      e.ticket = { clearUnread viewer (enrichTicket db row) with slaDeadline := d } := by
  simp only [loadTicket, bind_eq_ok] at h
  obtain ⟨-, -, t, ht, ⟨t', state⟩, hp, he⟩ := h
  cases he
  have hsla : (enrichTicket db row).toTicketSla = row.toTicketSla := by
    unfold enrichTicket
    split
    · split_ifs <;> rfl
    · rfl
  have hrepaired : repairStart (repairWaiting (enrichTicket db row)) = enrichTicket db row := by
    simp [repairWaiting, repairStart, (loads_enrichTicket db row).status, hstatus]
  rw [hrepaired, repairDeadline, if_neg (by simp [(loads_enrichTicket db row).status, hstatus]), Except.ok.injEq] at ht
  subst ht
  have hcleared : (clearUnread viewer (enrichTicket db row)).toTicketSla = row.toTicketSla := by
    unfold clearUnread
    split_ifs <;> exact hsla
  obtain ⟨d, hd, rfl⟩ := projectTicketSlaState_eq s hp
  refine ⟨d, ?_, by rw [← hcleared], rfl⟩
  rw [hcleared] at hd
  rcases hd with hd | ⟨hstarted, -, hsome, resumeAt, hprojected⟩
  · exact .inl hd
  · refine .inr ⟨hstarted, ?_⟩
    rw [← hcleared]
    by_contra hpaused
    simp only [Option.isSome_iff_ne_none, not_not] at hpaused
    simp only [projectedDeadline, hpaused, Except.ok.injEq] at hprojected
    simp [← hprojected] at hsome

/-- The clock of a loaded In Progress ticket has started. -/
theorem loadTicket_started {s : Services} {db : Db} {row : Ticket} {viewer : Actor} {e : LoadedTicket}
    (h : loadTicket s db row viewer = .ok e) (hstatus : row.status = .in_progress) : e.ticket.slaStartedAt.isSome := by
  simp only [loadTicket, bind_eq_ok] at h
  obtain ⟨-, -, t, ht, ⟨t', state⟩, hp, he⟩ := h
  cases he
  have hrepaired : (repairStart (repairWaiting (enrichTicket db row))).slaStartedAt.isSome := by
    have hloads := (loads_enrichTicket db row).repairWaiting
    unfold repairStart
    split_ifs with hstarted
    · rfl
    · rw [Option.isSome_iff_ne_none]
      exact fun hnone => hstarted ⟨hloads.status.trans hstatus, hnone⟩
  have ht' : t.slaStartedAt.isSome := by
    unfold repairDeadline at ht
    split_ifs at ht
    · obtain ⟨_, -, rfl⟩ := map_eq_ok.mp ht
      exact hrepaired
    · cases ht
      exact hrepaired
  obtain ⟨d, -, rfl⟩ := projectTicketSlaState_eq s hp
  change (clearUnread viewer t).slaStartedAt.isSome
  unfold clearUnread
  split_ifs <;> exact ht'

end ComplianceHub.Tickets
