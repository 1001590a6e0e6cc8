import ComplianceHub.Tickets.Queue
import ComplianceHub.Tickets.Read

/-!
# Assignment and its corrections

* `assignTicketInternal` : an administrator or a technician gives a ticket to a staff member;
* `correctTicketRequester`, `correctTicketAssignee` : factual corrections of the two people of a ticket;
* `claimOvertimeTicket` : a staff member takes an open overtime ticket.

All run under the named assignment lock. The entity that is saved is computed by a function of its own
(`assignedTicket`, `correctedTicket`, `claimedTicket`), and `handOnPreviousOwner` frees the queue of the owner who
lost the ticket.
-/

namespace ComplianceHub.Tickets

open ComplianceHub.Interruption ComplianceHub.Sla

section
variable (s : Services)

/-- Moving the active ticket away may free the previous owner's queue. -/
def handOnPreviousOwner (previousAssigneeId : Nat) : TicketM Unit := do
  let db ← get
  if remainingActiveCount db previousAssigneeId = 0 then handOn s previousAssigneeId else pure ()

/-- What `handOnPreviousOwner` does for the owner who lost a ticket, if any. -/
def FreesQueue (owner : Option Nat) (db db' : Db) : Prop :=
  match owner with
  | some owner => if remainingActiveCount db owner = 0 then HandsOn s owner db db' else db' = db
  | none => db' = db

theorem returns_handOnPreviousOwner {owner : Nat} {db db' : Db} {u : Unit}
    (h : Returns (handOnPreviousOwner s owner) db u db') : FreesQueue s (some owner) db db' := by
  simp only [handOnPreviousOwner, returns_bind, returns_get] at h
  obtain ⟨_, _, ⟨rfl, rfl⟩, h⟩ := h
  unfold FreesQueue
  dsimp only
  split_ifs at h ⊢ with hcount
  · exact returns_handOn s h
  · exact ((returns_pure _ _).mp h).2.symm

theorem returns_handOnPreviousOwners {owner : Option Nat} {db db' : Db} {u : Unit}
    (h : Returns (whenSome owner (handOnPreviousOwner s)) db u db') : FreesQueue s owner db db' := by
  rcases returns_whenSome.mp h with ⟨rfl, rfl⟩ | ⟨owner, rfl, h⟩
  · rfl
  · exact returns_handOnPreviousOwner s h

/-! ## Assignment -/

def assertAssignmentSnapshot (t : Ticket) (dto : AssignTicketDto) : Except HttpException Unit :=
  check (dto.expectedUpdatedAt.all (fun version => version = t.updatedAt) ∧
      dto.expectedStatus.all (fun status => status = t.status) ∧
      dto.expectedAssignedToId.all fun owner => owner = t.assignedToId) (.conflict <|
    "This ticket changed after you opened the assignment window. Refresh the ticket, review the latest details, " ++
      "and try again.")

/-- The staff member is marked Present or OOO today. -/
def isManuallyAssignable (userId : Nat) : Bool :=
  s.attendance userId = some .present || s.attendance userId = some .out_of_office

/-- Once an escalation is accepted, only escalation admins reassign, and only to a configured focal. -/
def assertEscalatedReassignment (t : Ticket) (technicianId : Nat) (actor : Actor) : Except HttpException Unit := do
  check (s.isTicketSettingsFocal actor.role) (.forbidden <|
    "This ticket has an accepted escalation. Only escalation admin role(s) (" ++
      (if s.escalationAdminRoles.isEmpty then "configured escalation focal role(s)"
        else String.intercalate ", " s.escalationAdminRoles) ++ ") can reassign it.")
  check (s.escalationFocals.any fun focal =>
      focal.userId = technicianId && (focal.pool = .type t.ticketType || focal.pool = .all)) (.forbidden <|
    "During an accepted escalation, reassignment is limited to configured escalation focal users for this ticket " ++
      "type.")

/-- Who may assign the ticket, and to whom. -/
def assertAssignable (db : Db) (t : Ticket) (dto : AssignTicketDto) (actor : Actor) : Except HttpException Unit := do
  assertAssignmentSnapshot t dto
  check (t.status ≠ .duplicate ∧ t.status ≠ .cancelled)
    (.forbidden "Cannot assign a technician to a ticket that is marked as Duplicate.")
  check (t.status ≠ .resolved ∧ t.status ≠ .closed) (.forbidden "Resolved or closed tickets cannot be reassigned.")
  assertRequesterAssignmentSeparation t.ticketType dto.assignedToId t.requesterId t.createdById
  let technician ← match s.getUserById dto.assignedToId with
    | some technician => pure technician
    | none => .error (.notFound "Technician not found")
  check (technician.role ≠ .super_admin) (.badRequest "Super Admin accounts cannot be assigned tickets.")
  assertSpecializedAssigneeEligibility s t.ticketType (some technician)
  check (isManuallyAssignable s dto.assignedToId)
    (.badRequest "Manual assignment requires the staff member to be marked Present or OOO.")
  if (db.latestEscalation t.id).any fun e => e.status = .accepted then
    assertEscalatedReassignment s t technician.id actor
  else pure ()
  check (¬ (s.isTechnician actor.role ∧ s.isFocal actor.role = false ∧ s.isFocal technician.role = false))
    (.forbidden "Lower-level technicians may only escalate to focal-level technicians.")
  let busy := busyCount db dto.assignedToId
  check (s.isTicketSettingsFocal actor.role ∨ s.isFocal actor.role ∨ busy = 0) (.badRequest <|
    technician.name ++ " still has " ++ toString busy ++
      " unresolved active ticket(s). Resolve them before assigning a new one.")

/-- The clock of work that begins: a fresh start. -/
def startClock (t : Ticket) (issue : Option TicketIssueType) : Except HttpException Ticket :=
  (calculateTicketSlaDeadline s issue t.issueTypeId t.overtimeSlaDate s.now).map fun slaDeadline =>
    { t with slaStartedAt := some s.now, accumulatedPauseSeconds := 0, slaPausedAt := none, slaDeadline }

/-- Put a ticket on the waiting list; a started clock is paused meanwhile. -/
def enqueue (t : Ticket) : Ticket :=
  { t with
    isSlaWaiting := true
    slaPausedAt := if t.slaStartedAt.isSome then t.slaPausedAt <|> some s.now else t.slaPausedAt }

/-- Hand a ticket to an owner who is free: start its clock, or leave it as the work schedule paused it. -/
def activate (t : Ticket) (issue : Option TicketIssueType) (wasSchedulePaused : Bool) : Except HttpException Ticket :=
  let t := { t with isSlaWaiting := false }
  if t.status = .in_progress ∧ t.slaStartedAt = none then startClock s t issue
  else .ok { t with slaPausedAt := if wasSchedulePaused then t.slaPausedAt else none }

def reassignedStatus (status : TicketStatus) (busy : Nat) : TicketStatus :=
  -- A busy new owner must receive queued work as Assigned, even when it had started already.
  if isLiveStatus status then if busy = 0 then .in_progress else .assigned else status

theorem isTerminalStatus_reassigned {status : TicketStatus} (h : isTerminalStatus status = false) (busy : Nat) :
    isTerminalStatus (reassignedStatus status busy) = false := by
  unfold reassignedStatus
  split_ifs <;> first | rfl | exact h

/-- The entity with its new owner, who has `busy` other tickets. -/
def assignedTicket (t : Ticket) (issue : Option TicketIssueType) (assignedToId busy : Nat) :
    Except HttpException Ticket :=
  let wasSchedulePaused := t.slaPausedAt.isSome && !t.isSlaWaiting
  let t := { t with
    assignedToId := some assignedToId
    lastAssignedAt := some s.now
    overtimeSlaDate := t.overtimeSlaDate <|> t.overtimeDate.filter fun date => date = s.today
    status := reassignedStatus t.status busy }
  if 0 < busy then .ok (enqueue s t) else activate s t issue wasSchedulePaused

/-- What an assignment writes: the entity, and the owner who loses the ticket. -/
structure AssignPlan where
  ticket : Ticket
  previousAssigneeId : Option Nat

def planAssign (db : Db) (row : Ticket) (dto : AssignTicketDto) (actor : Actor) (automaticPool : Option Pool) :
    Except HttpException AssignPlan := do
  let loaded ← loadTicket s db row actor
  assertAssignable s db loaded.ticket dto actor
  let t ← assignedTicket s loaded.ticket loaded.issueTypeConfig dto.assignedToId (busyCount db dto.assignedToId)
  check (automaticPool.all fun pool => canAutomaticallyAssign s dto.assignedToId pool t.requesterId)
    (.conflict "The selected staff member is no longer eligible for automatic assignment.")
  pure { ticket := t, previousAssigneeId := loaded.ticket.assignedToId.filter fun id => id ≠ dto.assignedToId }

theorem activate_eq {t t' : Ticket} {issue : Option TicketIssueType} {wasSchedulePaused : Bool}
    (h : activate s t issue wasSchedulePaused = .ok t') :
    ∃ sla : TicketSla, t' = { t with toTicketSla := sla } ∧ sla.isSlaWaiting = false := by
  unfold activate at h
  dsimp only at h
  split_ifs at h
  · obtain ⟨slaDeadline, -, rfl⟩ := map_eq_ok.mp h
    exact ⟨_, rfl, rfl⟩
  all_goals
    cases h
    exact ⟨_, rfl, rfl⟩

/-- An assignment writes the owner, the status and the SLA columns. -/
theorem assignedTicket_eq {t t' : Ticket} {issue : Option TicketIssueType} {assignedToId busy : Nat}
    (h : assignedTicket s t issue assignedToId busy = .ok t') : ∃ sla : TicketSla,
      t' = { t with
        assignedToId := some assignedToId, lastAssignedAt := some s.now, status := reassignedStatus t.status busy
        toTicketSla := sla } ∧ sla.isSlaWaiting = decide (0 < busy) := by
  unfold assignedTicket at h
  dsimp only at h
  split_ifs at h with hbusy
  · cases h
    exact ⟨_, rfl, by simp [hbusy]⟩
  · obtain ⟨sla, rfl, hwaiting⟩ := activate_eq s h
    exact ⟨sla, rfl, by simp [hwaiting, hbusy]⟩

theorem planAssign_eq_ok {db : Db} {row : Ticket} {dto : AssignTicketDto} {actor : Actor} {pool : Option Pool}
    {plan : AssignPlan} (h : planAssign s db row dto actor pool = .ok plan) :
    ∃ loaded, loadTicket s db row actor = .ok loaded ∧ isTerminalStatus row.status = false ∧
      assignedTicket s loaded.ticket loaded.issueTypeConfig dto.assignedToId (busyCount db dto.assignedToId) =
        .ok plan.ticket ∧
      plan.previousAssigneeId = (enrichTicket db row).assignedToId.filter fun id => id ≠ dto.assignedToId := by
  simp only [planAssign, bind_eq_ok] at h
  obtain ⟨loaded, hload, _, hassert, t, ht, -, -, h⟩ := h
  cases h
  have hloads := loadTicket_loads hload
  simp only [assertAssignable, bind_eq_ok, check_eq_ok] at hassert
  obtain ⟨-, -, -, hduplicate, -, hresolved, -⟩ := hassert
  refine ⟨loaded, hload, ?_, ht, by rw [hloads.assignedToId]⟩
  rw [← hloads.status]
  simp [isTerminalStatus, hduplicate, hresolved]

def commitAssign (plan : AssignPlan) : TicketM Unit := do
  saveTicket plan.ticket
  whenSome plan.previousAssigneeId (handOnPreviousOwner s)

def canAssignTickets (role : Role) : Bool :=
  s.isTicketFocal role || s.isTicketSettingsFocal role || s.isAllTickets role || s.isTechnician role

/-- `assignTicket`, and with a pool the automatic reassignment of an attendance alert. -/
def assignTicketInternal (id : Nat) (dto : AssignTicketDto) (actor : Actor) (automaticPool : Option Pool) :
    TicketM Ticket := do
  throwIf (canAssignTickets s actor.role = false)
    (.forbidden "Only admins, focal persons, and technicians can assign tickets.")
  let db ← get
  let row ← orThrow (db.ticket? id) (.notFound "Ticket not found")
  let plan ← ofExcept (planAssign s db row dto actor automaticPool)
  commitAssign s plan
  pure plan.ticket

theorem returns_assignTicketInternal {id : Nat} {dto : AssignTicketDto} {actor : Actor} {automaticPool : Option Pool}
    {db db' : Db} {t : Ticket} (h : Returns (assignTicketInternal s id dto actor automaticPool) db t db') :
    ∃ row plan, db.ticket? id = some row ∧ planAssign s db row dto actor automaticPool = .ok plan ∧ t = plan.ticket ∧
      FreesQueue s plan.previousAssigneeId (db.save plan.ticket) db' := by
  simp only [assignTicketInternal, returns_bind, returns_throwIf, returns_get, returns_orThrow, returns_ofExcept,
    commitAssign, returns_saveTicket, returns_pure] at h
  obtain ⟨_, _, ⟨-, rfl⟩, _, _, ⟨rfl, rfl⟩, row, _, ⟨hrow, rfl⟩, plan, _, ⟨hplan, rfl⟩, _, _,
    ⟨_, _, rfl, h⟩, rfl, rfl⟩ := h
  exact ⟨row, plan, hrow, hplan, rfl, returns_handOnPreviousOwners s h⟩

/-! ## Corrections -/

def isCorrectableStatus (status : TicketStatus) : Bool :=
  status = .assigned || status = .in_progress || status = .resolved

/-- The requester a correction names. -/
def correctedRequester (dto : CorrectTicketRequesterDto) (actor : Actor) : Except HttpException User := do
  check (s.roleCapability actor.role).isTicketRequesterCorrection
    (.forbidden "Ticket Requester Correction capability is required.")
  check (dto.pendingStaffId.isSome ∨ dto.requesterId.any fun id => 0 < id) (.badRequest "A requester is required.")
  let requester ← match dto.pendingStaffId with
    | some pendingStaffId => (s.previewStaff pendingStaffId).map some
    | none => pure (dto.requesterId.bind s.getUserById)
  match activeStaff requester with
  | none => .error (.badRequest "The selected requester does not exist or is inactive.")
  | some requester =>
    check (requester.role ≠ .super_admin)
      (.badRequest "Super Admin accounts cannot be selected as ticket requesters.")
    assertProxyRequesterAllowed s actor.id (some actor.role) requester
    pure requester

def assertOtherRequester (t : Ticket) (requesterId : Nat) : Except HttpException Unit :=
  check (t.requesterId ≠ requesterId) (.badRequest "The selected person is already the ticket requester.")

def assertOwnerIsNotRequester (t : Ticket) (requesterId : Nat) : Except HttpException Unit :=
  match t.assignedToId with
  | some assignedToId => assertRequesterAssignmentSeparation t.ticketType assignedToId requesterId none
  | none => .ok ()

theorem separated_of_assertOwnerIsNotRequester {t : Ticket} {requesterId : Nat} {u : Unit}
    (h : assertOwnerIsNotRequester t requesterId = .ok u) : Separated t.ticketType t.assignedToId requesterId := by
  unfold assertOwnerIsNotRequester at h
  split at h
  · rename_i owner howner
    rw [howner]
    exact separated_of_assert h
  · rename_i howner
    exact .inr (by simp [howner])

def assertRequesterCorrection (db : Db) (t : Ticket) (requester : User) (dto : CorrectTicketRequesterDto)
    (actor : Actor) : Except HttpException Unit := do
  check (dto.expectedUpdatedAt = t.updatedAt) (.conflict <|
    "This ticket changed after you opened the requester window. Refresh the ticket, review the latest details, " ++
      "and try again.")
  check (isCorrectableStatus t.status)
    (.badRequest "Requester correction is only available for Assigned, In Progress, or Resolved tickets.")
  assertOtherRequester t requester.id
  assertTicketReadAccess s db t actor
  -- Keep proxy filers eligible to be the recorded assignee.
  assertOwnerIsNotRequester t requester.id

/-- The account a pending staff requester becomes, checked like a registered one. -/
def completedRequester (t : Ticket) (pendingStaffId : String) : Except HttpException User := do
  let requester ← s.completeStaff pendingStaffId
  assertOtherRequester t requester.id
  assertOwnerIsNotRequester t requester.id
  pure requester

/-- The row with its corrected requester. -/
def requesterCorrected (t : Ticket) (requester : User) : Ticket :=
  { t with
    requesterId := requester.id
    requesterUnitSnapshot := some (captureTicketUnit s requester .requester_correction) }

def correctTicketRequester (id : Nat) (dto : CorrectTicketRequesterDto) (actor : Actor) : TicketM Unit := do
  let requester ← ofExcept (correctedRequester s dto actor)
  let db ← get
  let t ← orThrow (db.ticket? id) (.notFound "Ticket not found")
  ofExcept (assertRequesterCorrection s db t requester dto actor)
  match dto.pendingStaffId with
  | some pendingStaffId =>
    let requester ← ofExcept (completedRequester s t pendingStaffId)
    updateTicketRow t.id fun row => requesterCorrected s row requester
  | none => saveTicket (requesterCorrected s t requester)

theorem returns_correctTicketRequester {id : Nat} {dto : CorrectTicketRequesterDto} {actor : Actor} {db db' : Db}
    {u : Unit} (h : Returns (correctTicketRequester s id dto actor) db u db') :
    ∃ row requester, db.ticket? id = some row ∧ isCorrectableStatus row.status = true ∧
      Separated row.ticketType row.assignedToId requester.id ∧
      (db' = db.save (requesterCorrected s row requester) ∨
        db' = db.update id fun row => requesterCorrected s row requester) := by
  simp only [correctTicketRequester, returns_bind, returns_get, returns_orThrow, returns_ofExcept] at h
  obtain ⟨requester, _, ⟨-, rfl⟩, _, _, ⟨rfl, rfl⟩, row, _, ⟨hrow, rfl⟩, _, _, ⟨hassert, rfl⟩, h⟩ := h
  simp only [assertRequesterCorrection, bind_eq_ok, check_eq_ok] at hassert
  obtain ⟨-, -, -, hstatus, -, -, -, -, hseparated⟩ := hassert
  cases hpending : dto.pendingStaffId with
  | some pendingStaffId =>
    simp only [hpending, returns_bind, returns_ofExcept, returns_updateTicketRow, Db.id_of_ticket? hrow] at h
    obtain ⟨completed, _, ⟨hcompleted, rfl⟩, rfl⟩ := h
    simp only [completedRequester, bind_eq_ok] at hcompleted
    obtain ⟨_, -, -, -, _, hseparated, hcompleted⟩ := hcompleted
    cases hcompleted
    exact ⟨row, completed, hrow, hstatus, separated_of_assertOwnerIsNotRequester hseparated, .inr rfl⟩
  | none =>
    simp only [hpending, returns_saveTicket] at h
    exact ⟨row, requester, hrow, hstatus, separated_of_assertOwnerIsNotRequester hseparated, .inl h⟩

/-- The capability and the account, checked before the lock is taken. -/
def correctionAssignee (t : Ticket) (dto : CorrectTicketAssigneeDto) (actor : Actor) : Except HttpException User := do
  check (t.ticketType = .specialized_concerns ∨ (actor.id ≠ t.requesterId ∧ t.createdById ≠ some actor.id))
    (.forbidden "You cannot correct Assigned To for a ticket you requested or filed.")
  match (activeStaff (s.getUserById dto.assignedToId)).filter fun user => isDirectAssignableRictmsStaff user.role with
  | none => .error (.badRequest "The selected account is not an active RICTMS staff account.")
  | some assignee =>
    assertSpecializedAssigneeEligibility s t.ticketType (some assignee)
    pure assignee

def assertAssigneeCorrection (t : Ticket) (dto : CorrectTicketAssigneeDto) : Except HttpException Nat := do
  check (dto.expectedUpdatedAt = t.updatedAt) (.conflict <|
    "This ticket changed after you opened the correction window. Refresh the ticket, review the latest details, " ++
      "and try again.")
  check (isCorrectableStatus t.status)
    (.badRequest "Assigned To correction is only available for Assigned, In Progress, or Resolved tickets.")
  match t.assignedToId with
  | none => .error (.badRequest "This ticket has no assigned staff member. Use Assign Ticket instead.")
  | some previousAssigneeId =>
    check (previousAssigneeId ≠ dto.assignedToId)
      (.badRequest "The selected person is already assigned to this ticket.")
    -- A proxy filer may be the person who actually completed the work.
    check (t.ticketType = .specialized_concerns ∨ dto.assignedToId ≠ t.requesterId)
      (.forbidden "A ticket cannot be assigned to the person who requested it.")
    pure previousAssigneeId

/-- An active ticket as its corrected owner, who has `busy` tickets, receives it. -/
def correctedActiveTicket (t : Ticket) (assignedToId busy : Nat) : Except HttpException Ticket :=
  let wasSchedulePaused := t.slaPausedAt.isSome && !t.isSlaWaiting
  let moved := { t with assignedToId := some assignedToId, lastAssignedAt := some s.now }
  -- A queued ticket of a free owner is saved as waiting first and promoted afterwards.
  if 0 < busy ∨ t.isSlaWaiting then .ok (enqueue s { moved with status := .assigned })
  else activate s { moved with status := .in_progress } none wasSchedulePaused

/-- What an assignee correction writes, with the queues it hands on. -/
structure CorrectionPlan where
  ticket : Ticket
  promotes : Option Nat
  previousAssigneeId : Option Nat

def planAssigneeCorrection (db : Db) (t : Ticket) (dto : CorrectTicketAssigneeDto) (actor : Actor) :
    Except HttpException CorrectionPlan := do
  let _ ← correctionAssignee s t dto actor
  let previousAssigneeId ← assertAssigneeCorrection t dto
  if t.status = .resolved then
    -- A historical record fix only.
    pure { ticket := { t with assignedToId := some dto.assignedToId }, promotes := none, previousAssigneeId := none }
  else
    let busy := busyCount db dto.assignedToId
    let ticket ← correctedActiveTicket s t dto.assignedToId busy
    pure { ticket, previousAssigneeId := some previousAssigneeId
           promotes := if busy = 0 && t.isSlaWaiting then some dto.assignedToId else none }

theorem correctedActiveTicket_eq {t t' : Ticket} {assignedToId busy : Nat}
    (h : correctedActiveTicket s t assignedToId busy = .ok t') : ∃ sla : TicketSla,
      t' = { t with
        assignedToId := some assignedToId, lastAssignedAt := some s.now
        status := if 0 < busy ∨ t.isSlaWaiting then .assigned else .in_progress, toTicketSla := sla } ∧
      sla.isSlaWaiting = decide (0 < busy ∨ t.isSlaWaiting) := by
  unfold correctedActiveTicket at h
  dsimp only at h
  split_ifs at h ⊢ with hwaits
  · cases h
    exact ⟨_, rfl, by simp [hwaits]⟩
  · obtain ⟨sla, rfl, hwaiting⟩ := activate_eq s h
    exact ⟨sla, rfl, by simp [hwaiting, hwaits]⟩

/-- An assignee correction: a resolved ticket only changes its record, an active one moves between two queues. -/
theorem planAssigneeCorrection_eq_ok {db : Db} {t : Ticket} {dto : CorrectTicketAssigneeDto} {actor : Actor}
    {plan : CorrectionPlan} (h : planAssigneeCorrection s db t dto actor = .ok plan) :
    ∃ previous, t.assignedToId = some previous ∧ previous ≠ dto.assignedToId ∧ isCorrectableStatus t.status = true ∧
      (t.status = .resolved ∧
          plan = { ticket := { t with assignedToId := some dto.assignedToId }, promotes := none, previousAssigneeId := none } ∨
        t.status ≠ .resolved ∧
          correctedActiveTicket s t dto.assignedToId (busyCount db dto.assignedToId) = .ok plan.ticket ∧
          plan.previousAssigneeId = some previous ∧
          plan.promotes = if busyCount db dto.assignedToId = 0 && t.isSlaWaiting then some dto.assignedToId else none) := by
  simp only [planAssigneeCorrection, bind_eq_ok] at h
  obtain ⟨-, -, previous, hprevious, h⟩ := h
  simp only [assertAssigneeCorrection, bind_eq_ok, check_eq_ok] at hprevious
  obtain ⟨-, -, -, hstatus, hprevious⟩ := hprevious
  split at hprevious
  · cases hprevious
  · rename_i owner howner
    simp only [bind_eq_ok, check_eq_ok] at hprevious
    obtain ⟨-, hne, -, -, hprevious⟩ := hprevious
    cases hprevious
    refine ⟨previous, howner, hne, hstatus, ?_⟩
    by_cases hresolved : t.status = .resolved
    · rw [if_pos hresolved] at h
      cases h
      exact .inl ⟨hresolved, rfl⟩
    · rw [if_neg hresolved] at h
      obtain ⟨ticket, hticket, h⟩ := bind_eq_ok.mp h
      cases h
      exact .inr ⟨hresolved, hticket, rfl, rfl⟩

def commitAssigneeCorrection (plan : CorrectionPlan) : TicketM Unit := do
  saveTicket plan.ticket
  whenSome plan.promotes (handOn s)
  whenSome plan.previousAssigneeId (handOnPreviousOwner s)

def correctTicketAssignee (id : Nat) (dto : CorrectTicketAssigneeDto) (actor : Actor) : TicketM Unit := do
  throwIf ((s.roleCapability actor.role).isTicketRequesterCorrection = false)
    (.forbidden "Ticket Record Correction capability is required.")
  let db ← get
  let t ← orThrow (db.ticket? id) (.notFound "Ticket not found")
  let plan ← ofExcept (planAssigneeCorrection s db t dto actor)
  commitAssigneeCorrection s plan

/-- The promotion of a queued ticket that was corrected to a free owner. -/
def PromotesFor (owner : Option Nat) (db db' : Db) : Prop :=
  match owner with
  | some owner => HandsOn s owner db db'
  | none => db' = db

theorem returns_correctTicketAssignee {id : Nat} {dto : CorrectTicketAssigneeDto} {actor : Actor} {db db' : Db} {u : Unit}
    (h : Returns (correctTicketAssignee s id dto actor) db u db') :
    ∃ row plan db₁, db.ticket? id = some row ∧ planAssigneeCorrection s db row dto actor = .ok plan ∧
      PromotesFor s plan.promotes (db.save plan.ticket) db₁ ∧ FreesQueue s plan.previousAssigneeId db₁ db' := by
  simp only [correctTicketAssignee, returns_bind, returns_throwIf, returns_get, returns_orThrow, returns_ofExcept,
    commitAssigneeCorrection, returns_saveTicket] at h
  obtain ⟨_, _, ⟨-, rfl⟩, _, _, ⟨rfl, rfl⟩, row, _, ⟨hrow, rfl⟩, plan, _, ⟨hplan, rfl⟩, _, _, rfl, _, db₁, h₁, h₂⟩ := h
  refine ⟨row, plan, db₁, hrow, hplan, ?_, returns_handOnPreviousOwners s h₂⟩
  rcases returns_whenSome.mp h₁ with ⟨hp, rfl⟩ | ⟨owner, hp, h₁⟩
  · rw [hp]
    rfl
  · rw [hp]
    exact returns_handOn s h₁

/-! ## Overtime -/

def canClaimOvertime (t : Ticket) (actor : Actor) : Bool :=
  match t.overtimeDate with
  | some date =>
    t.status = .open && t.assignedToId.isNone && t.requesterId ≠ actor.id && isOvertimeStaff actor.role &&
      (t.ticketType ≠ .specialized_concerns || s.isSpecializedSupport actor.role) &&
      s.hasOvertimeClockIn actor.id date
  | none => false

/-- The overtime ticket with its new owner, who has `busy` other tickets. -/
def claimedTicket (t : Ticket) (userId busy : Nat) : Except HttpException Ticket :=
  let t := { t with
    assignedToId := some userId
    lastAssignedAt := some s.now
    overtimeSlaDate := t.overtimeDate.filter fun date => date = s.today
    status := if 0 < busy then .assigned else .in_progress
    isSlaWaiting := 0 < busy
    slaStartedAt := if 0 < busy then none else some s.now }
  if 0 < busy then .ok { t with slaDeadline := none }
  else (calculateTicketSlaDeadline s none t.issueTypeId t.overtimeSlaDate s.now).map fun slaDeadline =>
    { t with slaDeadline }

theorem claimedTicket_eq {t t' : Ticket} {userId busy : Nat} (h : claimedTicket s t userId busy = .ok t') :
    ∃ sla : TicketSla, t' = { t with
      assignedToId := some userId, lastAssignedAt := some s.now, toTicketSla := sla
      status := if 0 < busy then .assigned else .in_progress } ∧
    sla.isSlaWaiting = decide (0 < busy) ∧ sla.slaPausedAt = t.slaPausedAt := by
  unfold claimedTicket at h
  dsimp only at h
  split_ifs at h ⊢ with hbusy
  · cases h
    exact ⟨_, rfl, by simp [hbusy], rfl⟩
  · obtain ⟨slaDeadline, -, rfl⟩ := map_eq_ok.mp h
    exact ⟨_, rfl, by simp [hbusy], rfl⟩

theorem claimedTicket_id {t t' : Ticket} {userId busy : Nat} (h : claimedTicket s t userId busy = .ok t') :
    t'.id = t.id := by
  obtain ⟨_, rfl, -⟩ := claimedTicket_eq s h
  rfl

def claimOvertimeTicket (id : Nat) (actor : Actor) : TicketM Ticket := do
  let db ← get
  let t ← orThrow (db.ticket? id) (.notFound "Ticket not found.")
  throwIf (t.overtimeDate = none ∨ t.status ≠ .open ∨ t.assignedToId ≠ none)
    (.conflict "This ticket has already been acquired or is no longer Open.")
  throwIf ((s.activeUserRow actor.id).all (fun staff => staff.role ≠ actor.role) ∨ canClaimOvertime s t actor = false)
    (.forbidden "A valid clock-in on the original OT day is required; you cannot acquire your own request.")
  let claimed ← ofExcept (claimedTicket s t actor.id (busyCount db actor.id))
  saveTicket claimed
  let acquired ← getTicketById s id actor
  pure acquired.ticket

theorem returns_claimOvertimeTicket {id : Nat} {actor : Actor} {db db' : Db} {t : Ticket}
    (h : Returns (claimOvertimeTicket s id actor) db t db') :
    ∃ row claimed, db.ticket? id = some row ∧ row.overtimeDate ≠ none ∧ row.status = .open ∧
      row.assignedToId = none ∧ canClaimOvertime s row actor = true ∧
      claimedTicket s row actor.id (busyCount db actor.id) = .ok claimed ∧ db' = db.save claimed := by
  simp only [claimOvertimeTicket, returns_bind, returns_throwIf, returns_get, returns_orThrow, returns_ofExcept,
    returns_saveTicket, returns_pure, returns_getTicketById] at h
  obtain ⟨_, _, ⟨rfl, rfl⟩, row, _, ⟨hrow, rfl⟩, _, _, ⟨hopen, rfl⟩, _, _, ⟨hclaims, rfl⟩, claimed, _, ⟨hclaimed, rfl⟩, _, _,
    rfl, _, _, ⟨_, -, -, rfl⟩, -, rfl⟩ := h
  push Not at hopen hclaims
  exact ⟨row, claimed, hrow, hopen.1, hopen.2.1, hopen.2.2, by simpa using hclaims.2, hclaimed, rfl⟩

end

end ComplianceHub.Tickets
