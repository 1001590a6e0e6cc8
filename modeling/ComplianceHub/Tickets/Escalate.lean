import ComplianceHub.Tickets.Outcome

/-!
# Escalation and the opening of a ticket

* `escalate`, `acceptEscalation`, `returnEscalation` : a focal is asked, and takes the ticket over or not;
* `markTicketViewed` : the owner opens an assigned ticket, which starts.
-/

namespace ComplianceHub.Tickets

open ComplianceHub.Interruption

section
variable (s : Services)

/-! ## Escalation -/

def canEscalate (role : Role) : Bool :=
  s.isTicketFocal role || s.isTicketSettingsFocal role || s.isAllTickets role || s.isTechnician role

/-- The ticket may be escalated, and the target may take it over today. -/
def assertEscalation (db : Db) (t : Ticket) (dto : EscalateTicketDto) : Except HttpException Unit := do
  check ((db.latestEscalation t.id).all fun e => e.status ≠ .pending) (.badRequest <|
    "This ticket already has a pending escalation. You cannot escalate again until it is accepted or returned.")
  check (isTerminalStatus t.status = false)
    (.forbidden "Resolved, closed, duplicate or cancelled tickets cannot be escalated.")
  match s.getUserById dto.escalatedToId <|> s.activeUserRow dto.escalatedToId with
  | none => .error (.notFound "Escalation target user not found.")
  | some focal =>
    assertSpecializedAssigneeEligibility s t.ticketType (some focal)
    check (s.escalationFocals.any fun f => f.userId = focal.id && (f.pool = .type t.ticketType || f.pool = .all))
      (.forbidden "The selected user is not designated as an escalation focal for this ticket type.")
    -- QA #9: Verify that the selected focal is actually PRESENT today
    check (s.attendance focal.id = some .present)
      (.badRequest "The selected escalation focal is not currently marked as present or available today.")

def Db.nextEscalationId (db : Db) : Nat := freshId (db.escalations.map TicketEscalation.id)

def Db.insertEscalation (db : Db) (e : TicketEscalation) : Db :=
  { db with
    escalations := db.escalations ++ [{ e with id := db.nextEscalationId }]
    escalationKey := by
      rw [List.map_append]
      exact List.nodup_append'.mpr ⟨db.escalationKey, List.nodup_singleton _,
        by simpa [nextEscalationId] using freshId_not_mem (db.escalations.map TicketEscalation.id)⟩ }

def escalate (id : Nat) (dto : EscalateTicketDto) (actor : Actor) : TicketM Unit := do
  throwIf (canEscalate s actor.role = false) (.forbidden "Your role is not allowed to escalate tickets.")
  let loaded ← getTicketById s id actor
  let db ← get
  ofExcept (assertEscalation s db loaded.ticket dto)
  modify fun db => db.insertEscalation
    { id := 0, ticketId := id, escalatedById := actor.id, escalatedToId := dto.escalatedToId, notes := dto.notes }

theorem returns_escalate {id : Nat} {dto : EscalateTicketDto} {actor : Actor} {db db' : Db} {u : Unit}
    (h : Returns (escalate s id dto actor) db u db') :
    ∃ row e, db.ticket? id = some row ∧ isTerminalStatus row.status = false ∧ e.ticketId = id ∧ e.status = .pending ∧
      ((db.latestEscalation id).all fun e => e.status ≠ .pending) = true ∧ db' = db.insertEscalation e := by
  simp only [escalate, returns_bind, returns_throwIf, returns_getTicketById, returns_get, returns_ofExcept,
    returns_modify] at h
  obtain ⟨_, _, ⟨-, rfl⟩, loaded, _, ⟨row, hrow, hload, rfl⟩, _, _, ⟨rfl, rfl⟩, _, _, ⟨hassert, rfl⟩, rfl⟩ := h
  have hloads := loadTicket_loads hload
  simp only [assertEscalation, bind_eq_ok, check_eq_ok, hloads.status, hloads.id, Db.id_of_ticket? hrow] at hassert
  obtain ⟨-, hlatest, -, hterminal, -⟩ := hassert
  exact ⟨row, _, hrow, hterminal, rfl, rfl, hlatest, rfl⟩

/-- The pending escalation that its target answers. -/
def answeredEscalation (db : Db) (ticketId escalationId actorId : Nat) : Except HttpException TicketEscalation :=
  match db.escalations.find? fun e => e.id = escalationId && e.ticketId = ticketId with
  | none => .error (.notFound "Escalation record not found.")
  | some escalation => do
    check (escalation.escalatedToId = actorId)
      (.forbidden "Only the escalation target may accept or return this escalation.")
    check (escalation.status = .pending) (.badRequest "This escalation has already been processed.")
    pure escalation

theorem answeredEscalation_eq_ok {db : Db} {ticketId escalationId actorId : Nat} {e : TicketEscalation}
    (h : answeredEscalation db ticketId escalationId actorId = .ok e) :
    e ∈ db.escalations ∧ e.ticketId = ticketId ∧ e.escalatedToId = actorId ∧ e.status = .pending := by
  unfold answeredEscalation at h
  split at h
  case h_1 => cases h
  case h_2 escalation hfind =>
    simp only [bind_eq_ok, check_eq_ok] at h
    obtain ⟨-, hto, -, hstatus, h⟩ := h
    cases h
    have hp := List.find?_some hfind
    simp only [Bool.and_eq_true, decide_eq_true_eq] at hp
    exact ⟨List.mem_of_find?_eq_some hfind, hp.2, hto, hstatus⟩

/-- `escalationRepo.save`. -/
def Db.setEscalation (db : Db) (escalation : TicketEscalation) : Db :=
  { db with
    escalations := db.escalations.map fun e => if e.id = escalation.id then escalation else e
    escalationKey := by
      have hid : (TicketEscalation.id ∘ fun e => if e.id = escalation.id then escalation else e) = TicketEscalation.id := by
        funext e
        simp only [Function.comp_apply]
        split_ifs with h
        · exact h.symm
        · rfl
      rw [List.map_map, hid]
      exact db.escalationKey }

/-- The ticket as the focal takes it over. -/
def takenOver (t : Ticket) (actorId : Nat) : Except HttpException Ticket := do
  let t := { t with assignedToId := some actorId, lastAssignedAt := some s.now, isSlaWaiting := false }
  if t.status = .resolved ∨ t.status = .closed then pure t
  else
    let t := { t with
      status := .in_progress
      interruptionHistory := recordInterruptionTransition t.interruptionHistory t.status .in_progress s.now }
    if t.slaStartedAt = none then
      let slaDeadline ← calculateTicketSlaDeadline s none t.issueTypeId t.overtimeSlaDate s.now
      pure { t with slaStartedAt := some s.now, accumulatedPauseSeconds := 0, slaPausedAt := none, slaDeadline }
    else pure t

/-- A takeover writes the owner and the SLA columns; a ticket that is not done enters In Progress. -/
theorem takenOver_eq {t t' : Ticket} {actorId : Nat} (h : takenOver s t actorId = .ok t') :
    ∃ sla : TicketSla, sla.isSlaWaiting = false ∧ t' = { t with
      assignedToId := some actorId, lastAssignedAt := some s.now, toTicketSla := sla
      status := if t.status = .resolved ∨ t.status = .closed then t.status else .in_progress
      interruptionHistory := if t.status = .resolved ∨ t.status = .closed then t.interruptionHistory
        else recordInterruptionTransition t.interruptionHistory t.status .in_progress s.now } := by
  unfold takenOver at h
  dsimp only at h
  split_ifs at h ⊢ with hdone hstarted
  · cases h
    exact ⟨_, rfl, rfl⟩
  · obtain ⟨slaDeadline, -, h⟩ := bind_eq_ok.mp h
    cases h
    exact ⟨_, rfl, rfl⟩
  · cases h
    exact ⟨_, rfl, rfl⟩

theorem takenOver_id {t t' : Ticket} {actorId : Nat} (h : takenOver s t actorId = .ok t') : t'.id = t.id := by
  obtain ⟨_, -, rfl⟩ := takenOver_eq s h
  rfl

def acceptingUser (t : Ticket) (actorId : Nat) : Option User :=
  match s.getUserById actorId with
  | some user => some user
  | none => if t.ticketType = .specialized_concerns then s.activeUserRow actorId else none

/-- The event of a takeover that moved the ticket. -/
def Db.logTakeover (db : Db) (t : Ticket) : Db :=
  if t.status = .resolved ∨ t.status = .closed then db else db.logStatus t.id t.status .in_progress

def acceptEscalation (ticketId escalationId actorId : Nat) : TicketM Unit := do
  let db ← get
  let escalation ← ofExcept (answeredEscalation db ticketId escalationId actorId)
  let t ← orThrow (db.ticket? ticketId) (.notFound "Ticket not found")
  throwIf (t.status = .cancelled) (.badRequest "Cancelled tickets cannot accept escalation.")
  ofExcept (assertSpecializedAssigneeEligibility s t.ticketType (acceptingUser s t actorId))
  modify fun db => db.setEscalation { escalation with status := .accepted }
  let taken ← ofExcept (takenOver s t actorId)
  saveTicket taken
  modify fun db => db.logTakeover t

theorem returns_acceptEscalation {ticketId escalationId actorId : Nat} {db db' : Db} {u : Unit}
    (h : Returns (acceptEscalation s ticketId escalationId actorId) db u db') :
    ∃ e row t, e ∈ db.escalations ∧ e.ticketId = ticketId ∧ e.escalatedToId = actorId ∧ e.status = .pending ∧
      db.ticket? ticketId = some row ∧ row.status ≠ .cancelled ∧ takenOver s row actorId = .ok t ∧
      db' = ((db.setEscalation { e with status := .accepted }).save t).logTakeover row := by
  simp only [acceptEscalation, returns_bind, returns_get, returns_ofExcept, returns_orThrow, returns_throwIf,
    returns_modify, returns_saveTicket] at h
  obtain ⟨_, _, ⟨rfl, rfl⟩, e, _, ⟨he, rfl⟩, row, _, ⟨hrow, rfl⟩, _, _, ⟨hstatus, rfl⟩, _, _, ⟨-, rfl⟩, _, _, rfl, t, _,
    ⟨ht, rfl⟩, _, _, rfl, rfl⟩ := h
  obtain ⟨hmem, hticket, hto, hpending⟩ := answeredEscalation_eq_ok he
  exact ⟨e, row, t, hmem, hticket, hto, hpending, hrow, hstatus, ht, rfl⟩

def returnEscalation (ticketId escalationId : Nat) (returnReason : String) (actorId : Nat) : TicketM Unit := do
  let db ← get
  let escalation ← ofExcept (answeredEscalation db ticketId escalationId actorId)
  throwIf (isBlank returnReason) (.badRequest "A return reason is required.")
  modify fun db => db.setEscalation
    { escalation with status := .returned, returnReason := some (trim returnReason) }

theorem returns_returnEscalation {ticketId escalationId actorId : Nat} {returnReason : String} {db db' : Db} {u : Unit}
    (h : Returns (returnEscalation ticketId escalationId returnReason actorId) db u db') :
    ∃ e ∈ db.escalations, e.ticketId = ticketId ∧ e.status = .pending ∧
      db' = db.setEscalation
        { e with status := .returned, returnReason := some (trim returnReason) } := by
  simp only [returnEscalation, returns_bind, returns_get, returns_ofExcept, returns_throwIf, returns_modify] at h
  obtain ⟨_, _, ⟨rfl, rfl⟩, e, _, ⟨he, rfl⟩, _, _, ⟨-, rfl⟩, rfl⟩ := h
  obtain ⟨hmem, hticket, -, hpending⟩ := answeredEscalation_eq_ok he
  exact ⟨e, hmem, hticket, hpending, rfl⟩

/-! ## Opening a ticket -/

/-- `update(id, { hasUnread… : false })`. -/
def clearUnreadColumn (viewer : Actor) (row : Ticket) : Ticket :=
  if viewer.role = .user then { row with hasUnreadUser := false } else { row with hasUnreadTechnician := false }

/-- The owner opens an assigned ticket outside the waiting list. -/
def opensTicket (t : Ticket) (viewer : Actor) : Bool :=
  t.status = .assigned && t.assignedToId = some viewer.id && !t.isSlaWaiting && t.priority.isSome

/-- The entity as it enters In Progress. -/
def openedTicket (t : Ticket) (issue : Option TicketIssueType) : Except HttpException Ticket :=
  (calculateTicketSlaDeadline s issue t.issueTypeId t.overtimeSlaDate s.now).map fun slaDeadline =>
    { t with
      status := .in_progress, isSlaWaiting := false, slaPausedAt := none, slaStartedAt := some s.now
      accumulatedPauseSeconds := 0, slaDeadline }

/-- The entity `markTicketViewed` saves, none where it only clears the unread flag. -/
def viewedTicket (loaded : LoadedTicket) (viewer : Actor) : Except HttpException (Option Ticket) :=
  if opensTicket loaded.ticket viewer then (openedTicket s loaded.ticket loaded.issueTypeConfig).map some else .ok none

/-- Save the opened ticket. -/
def saveOpened (t : Ticket) : TicketM Unit := do
  saveTicket t
  logStatusChanged t.id .assigned .in_progress

def commitViewed (loaded : LoadedTicket) (viewer : Actor) : TicketM (Option Ticket) := do
  updateTicketRow loaded.ticket.id (clearUnreadColumn viewer)
  -- Only auto-transition when the assigned technician views an 'assigned' ticket
  let opened ← ofExcept (viewedTicket s loaded viewer)
  whenSome opened saveOpened
  pure opened

def markTicketViewed (id : Nat) (viewer : Actor) : TicketM (Option Ticket) := do
  let loaded ← getTicketById s id viewer
  commitViewed s loaded viewer

/-- The tables after the opened ticket, if any, is saved. -/
def Db.opened (db : Db) (t : Option Ticket) : Db :=
  match t with
  | some t => (db.save t).logStatus t.id .assigned .in_progress
  | none => db

theorem returns_markTicketViewed {id : Nat} {viewer : Actor} {db db' : Db} {t : Option Ticket}
    (h : Returns (markTicketViewed s id viewer) db t db') :
    ∃ row loaded, db.ticket? id = some row ∧ loadTicket s db row viewer = .ok loaded ∧
      viewedTicket s loaded viewer = .ok t ∧ db' = (db.update id (clearUnreadColumn viewer)).opened t := by
  simp only [markTicketViewed, commitViewed, returns_bind, returns_getTicketById, returns_updateTicketRow, returns_ofExcept,
    returns_whenSome, saveOpened, returns_saveTicket, returns_logStatusChanged, returns_pure] at h
  obtain ⟨loaded, _, ⟨row, hrow, hload, rfl⟩, _, _, rfl, opened, _, ⟨hopened, rfl⟩, _, _, hsave, rfl, rfl⟩ := h
  have hid : loaded.ticket.id = id := (loadTicket_loads hload).id.trans (Db.id_of_ticket? hrow)
  refine ⟨row, loaded, hrow, hload, hopened, ?_⟩
  rcases hsave with ⟨rfl, rfl⟩ | ⟨t, rfl, _, _, rfl, rfl⟩
  · rw [hid]
    rfl
  · rw [hid]
    rfl

end

end ComplianceHub.Tickets
