import ComplianceHub.Tickets.StatusChange

/-!
# The plan of an update

What `updateTicket` computes from the loaded entity before it writes.

* `planRequesterUpdate`, `planStaffUpdate` : the checks and the changes of the entity, for the two kinds of actors;
* `updateRouting`, `updateStatus`, `moveTo` : the stages of a staff update;
* `planUpdate` : what is to be written, computed from the tables as they were read;
* `StatusPart`, `RequesterPart` : the plans that are made (`planUpdate_eq_ok`, `planStaffUpdate_eq_ok`).
-/

namespace ComplianceHub.Tickets

open ComplianceHub.Interruption ComplianceHub.Sla

/-- How an update is saved: without a check, under the version check, or as a duplicate. -/
inductive Persist where
  | save
  | checked
  | duplicate (reason : String)
deriving DecidableEq, Repr

/-- What an update writes, from one reading of the tables. -/
structure UpdatePlan where
  ticket : Ticket
  originalStatus : TicketStatus
  persist : Persist
  /-- The justification of a Freeze or a Pause. -/
  justification : Option StatusJustification := none
  /-- Other tickets of the owner, pushed back to the queue. -/
  pushedBack : List Ticket := []
  /-- The status whose `status_changed` event is logged. -/
  loggedStatus : Option TicketStatus := none
  /-- The owner whose queue is handed on. -/
  handoff : Option Nat := none

def trimmedOr (text : Option String) (current : String) : String :=
  match text.filter fun text => text ≠ "" with
  | some text => trim text
  | none => current

section
variable (s : Services)

/-! ## Regular users -/

def requesterOperationalUpdateRequested (dto : UpdateTicketDto) : Bool :=
  dto.priority.isSome || dto.status.any (fun status => status ≠ .closed) || dto.resolutionNotes.isSome ||
    dto.resolutionSteps.isSome || dto.resolutionDate.isDefined || dto.issueTypeId.isDefined ||
    dto.duplicateOfId.isSome || dto.ticketType.isSome || dto.generateKb.isSome || dto.categoryId.isDefined ||
    dto.statusJustification.isSome

theorem requesterOperationalUpdateRequested_eq_false {dto : UpdateTicketDto}
    (h : requesterOperationalUpdateRequested dto = false) :
    dto.ticketType = none ∧ (dto.status = none ∨ dto.status = some .closed) := by
  simp only [requesterOperationalUpdateRequested, Bool.or_eq_false_iff, Option.isSome_eq_false_iff,
    Option.isNone_iff_eq_none] at h
  refine ⟨h.1.1.1.2, ?_⟩
  have hstatus := h.1.1.1.1.1.1.1.1.1.2
  cases hs : dto.status with
  | none => exact .inl rfl
  | some status =>
    rw [hs] at hstatus
    exact .inr (by simpa using hstatus)

/-- Regular users edit their own open tickets, and close their own resolved ones. -/
def planRequesterUpdate (t : Ticket) (dto : UpdateTicketDto) (actor : Actor) : Except HttpException UpdatePlan := do
  check (t.requesterId = actor.id) (.forbidden "You can only update your own tickets.")
  check (requesterOperationalUpdateRequested dto = false)
    (.forbidden "End Users cannot update ticket status, priority, routing, or resolution details.")
  if dto.status = some .closed then
    check (t.status = .resolved) (.forbidden "Tickets can only be self-closed once they are in Resolved status.")
    pure { ticket := { t with status := .closed, userClosed := true, resolvedAt := t.resolvedAt <|> some s.now }
           originalStatus := t.status, persist := .save }
  else
    check (t.status = .open) (.forbidden "You can only edit tickets that are still open.")
    let t := { t with
      subject := trimmedOr dto.subject t.subject, description := trimmedOr dto.description t.description }
    pure { ticket := t, originalStatus := t.status, persist := .checked }

/-! ## Staff -/

/-- The part of an update that stays the same while the entity changes. -/
structure UpdateContext where
  db : Db
  actor : Actor
  original : Ticket
  isOverdue : Bool
  frozenReturnStatus : Option TicketStatus
  latestEscalation : Option TicketEscalation

namespace UpdateContext

variable (c : UpdateContext)

def acceptedEscalation : Option TicketEscalation := c.latestEscalation.filter fun e => e.status = .accepted

def isAcceptedEscalationOperator : Bool :=
  c.acceptedEscalation.any fun e => s.isTicketSettingsFocal c.actor.role || e.escalatedToId = c.actor.id

def isEligibleAssignedOperator : Bool :=
  c.original.assignedToId = some c.actor.id &&
    (c.original.ticketType ≠ .specialized_concerns || s.isSpecializedSupport c.actor.role)

def canUpdateOperationalFields : Bool :=
  if c.acceptedEscalation.isSome then c.isAcceptedEscalationOperator s
  else isTicketStatusAdmin s c.actor.role || c.isEligibleAssignedOperator s

end UpdateContext

def resolutionUpdateRequested (dto : UpdateTicketDto) : Bool :=
  dto.resolutionNotes.isSome || dto.resolutionSteps.isSome || dto.resolutionDate.isDefined || dto.generateKb.isSome

def routingUpdateRequested (dto : UpdateTicketDto) : Bool :=
  dto.ticketType.isSome || dto.categoryId.isDefined || dto.issueTypeId.isDefined

def assertStaffUpdateAccess (c : UpdateContext) (dto : UpdateTicketDto) : Except HttpException Unit := do
  if (s.roleCapability c.actor.role).isTicketModuleAccess = false ∧ isTicketStatusAdmin s c.actor.role = false ∧
      c.isAcceptedEscalationOperator s = false then
    check (c.isEligibleAssignedOperator s)
      (.forbidden "Only the assigned RICTMS staff member can update this ticket.")
    check (dto.subject.isNone ∧ dto.description.isNone ∧ routingUpdateRequested dto = false)
      (.forbidden "Assigned-ticket access is limited to status, priority, and resolution updates.")
  else pure ()
  check (resolutionUpdateRequested dto = false ∨ c.canUpdateOperationalFields s) (.forbidden
    "Only the eligible assigned staff member or an authorized ticket focal can update resolution details.")

/-- Who may change the support type, and to which one under the present owner. -/
def assertTicketTypeChange (c : UpdateContext) (ticketType : TicketType) : Except HttpException Unit := do
  match c.latestEscalation.filter fun e => e.status ≠ .returned with
  | some e =>
    check (s.isTicketSettingsFocal c.actor.role ∨ (e.status = .accepted ∧ e.escalatedToId = c.actor.id))
      (.forbidden "You cannot change the ticket type while the ticket is escalated.")
  | none =>
    check (s.isTicketSettingsFocal c.actor.role ∨ c.original.assignedToId = some c.actor.id)
      (.forbidden "You do not have permission to change the ticket type.")
  check (ticketType ≠ .specialized_concerns ∨
      c.original.assignedToId.all fun id =>
        (assertSpecializedAssigneeEligibility s ticketType (s.getUserById id)).isOk) (.badRequest
    "Assign this ticket to an authorized Specialized Concerns assignee before changing its support type.")

/-- The requested value of a field that may also be cleared or left out. -/
def Patch.getD {α : Type} (patch : Patch α) (current : Option α) : Option α :=
  match patch with
  | .undefined => current
  | .empty => none
  | .value a => some a

/-- The support type, category and issue that an update asks for. A new support type drops the other two. -/
def requestedType (t : Ticket) (dto : UpdateTicketDto) : TicketType := dto.ticketType.getD t.ticketType

def requestedCategory (t : Ticket) (dto : UpdateTicketDto) : Option Nat :=
  dto.categoryId.getD (if requestedType t dto ≠ t.ticketType then none else t.categoryId)

def requestedIssue (t : Ticket) (dto : UpdateTicketDto) : Option Nat :=
  dto.issueTypeId.getD (if requestedType t dto ≠ t.ticketType then none else t.issueTypeId)

theorem requestedIssue_of_not_requested {t : Ticket} {dto : UpdateTicketDto} (h : routingUpdateRequested dto = false) :
    requestedIssue t dto = t.issueTypeId := by
  simp only [routingUpdateRequested, Bool.or_eq_false_iff, Option.isSome_eq_false_iff, Option.isNone_iff_eq_none] at h
  obtain ⟨⟨htype, -⟩, hissue⟩ := h
  have hundefined : dto.issueTypeId = .undefined := by
    cases hs : dto.issueTypeId <;> simp_all [Patch.isDefined]
  simp [requestedIssue, requestedType, htype, hundefined, Patch.getD]

/-- The issue that goes with the next routing. A correction of the support type or the category does not retain
an inherited issue that no longer fits. -/
def nextIssueType (t : Ticket) (dto : UpdateTicketDto) (nextTicketType : TicketType) (nextCategoryId : Option Nat) :
    Except HttpException (Option Nat × Option TicketIssueType) :=
  let ticketTypeChanged := nextTicketType ≠ t.ticketType
  let nextIssueTypeId := dto.issueTypeId.getD (if ticketTypeChanged then none else t.issueTypeId)
  match nextCategoryId with
  | some categoryId =>
    match validateRoutingSelection s nextTicketType categoryId nextIssueTypeId with
    | .ok (_, issueType) => .ok (nextIssueTypeId, issueType)
    | .error e =>
      if nextIssueTypeId.isSome ∧ dto.issueTypeId = .undefined ∧
          (ticketTypeChanged ∨ nextCategoryId ≠ t.categoryId) then
        (validateRoutingSelection s nextTicketType categoryId none).map fun _ => (none, none)
      else .error e
  | none =>
    if nextIssueTypeId.isSome then .error (.badRequest "Select a category before selecting an issue.")
    else .ok (none, none)

/-- The next issue is the one asked for, or an inherited one is cleared that does not fit the new category. -/
theorem nextIssueType_requested {t : Ticket} {dto : UpdateTicketDto} {issueTypeId : Option Nat}
    {issueType : Option TicketIssueType}
    (h : nextIssueType s t dto (requestedType t dto) (requestedCategory t dto) = .ok (issueTypeId, issueType)) :
    issueTypeId = requestedIssue t dto ∨ issueTypeId = none ∧ dto.issueTypeId = .undefined ∧
      requestedCategory t dto ≠ t.categoryId ∧ ∃ categoryId ∈ requestedCategory t dto, ∃ e,
        validateRoutingSelection s (requestedType t dto) categoryId (requestedIssue t dto) = .error e := by
  unfold nextIssueType at h
  dsimp only at h
  rw [show dto.issueTypeId.getD (if requestedType t dto ≠ t.ticketType then none else t.issueTypeId) =
    requestedIssue t dto from rfl] at h
  cases hcategory : requestedCategory t dto with
  | some categoryId =>
    simp only [hcategory] at h
    cases hvalid : validateRoutingSelection s (requestedType t dto) categoryId (requestedIssue t dto) with
    | ok validated =>
      rw [hvalid] at h
      cases h
      exact .inl rfl
    | error e =>
      rw [hvalid] at h
      dsimp only at h
      split_ifs at h with hclears
      obtain ⟨_, -, h⟩ := map_eq_ok.mp h
      cases h
      obtain ⟨hsome, hundefined, hchanged⟩ := hclears
      refine .inr ⟨rfl, hundefined, ?_, categoryId, rfl, e, hvalid⟩
      refine hchanged.resolve_left fun htype => ?_
      simp [requestedIssue, hundefined, Patch.getD, htype] at hsome
  | none =>
    simp only [hcategory] at h
    split_ifs at h with hsome
    cases h
    exact .inl (by simpa using hsome : requestedIssue t dto = none).symm

/-- The next issue depends on the routing only. -/
theorem nextIssueType_congr {t t' : Ticket} (h : t.toTicketRouting = t'.toTicketRouting) (dto : UpdateTicketDto) :
    nextIssueType s t dto (requestedType t dto) (requestedCategory t dto) =
      nextIssueType s t' dto (requestedType t' dto) (requestedCategory t' dto) := by
  have htype : requestedType t dto = requestedType t' dto := by rw [requestedType, requestedType, h]
  have hcategory : requestedCategory t dto = requestedCategory t' dto := by
    rw [requestedCategory, requestedCategory, htype, h]
  unfold nextIssueType
  rw [htype, hcategory, h]

theorem nextIssueType_eq_ok {t : Ticket} {dto : UpdateTicketDto} {nextTicketType : TicketType}
    {nextCategoryId issueTypeId : Option Nat} {issueType : Option TicketIssueType}
    (h : nextIssueType s t dto nextTicketType nextCategoryId = .ok (issueTypeId, issueType)) :
    issueType = issueTypeId.bind s.issueTypes := by
  unfold nextIssueType at h
  dsimp only at h
  generalize dto.issueTypeId.getD (if nextTicketType ≠ t.ticketType then none else t.issueTypeId) = requested at h
  cases nextCategoryId with
  | some categoryId =>
    dsimp only at h
    cases hvalid : validateRoutingSelection s nextTicketType categoryId requested with
    | ok validated =>
      rw [hvalid] at h
      cases h
      exact validateRoutingSelection_issue s hvalid
    | error e =>
      rw [hvalid] at h
      dsimp only at h
      split_ifs at h
      obtain ⟨_, -, h⟩ := map_eq_ok.mp h
      cases h
      rfl
  | none =>
    dsimp only at h
    split_ifs at h
    cases h
    rfl

def assertRoutingChange (c : UpdateContext) (dto : UpdateTicketDto) : Except HttpException Unit :=
  match dto.ticketType with
  | some ticketType => assertTicketTypeChange s c ticketType
  | none => .ok ()

/-- A changed issue moves the deadline. -/
def routedDeadline (t : Ticket) (issueTypeId : Option Nat) (issueType : Option TicketIssueType) :
    Except HttpException (Option Int) :=
  if t.issueTypeId ≠ issueTypeId then recalculateTicketSlaAfterRoutingChange s t issueType else .ok t.slaDeadline

theorem routedDeadline_of_eq {t : Ticket} {issueTypeId : Option Nat} {issueType : Option TicketIssueType}
    (h : t.issueTypeId = issueTypeId) : routedDeadline s t issueTypeId issueType = .ok t.slaDeadline := by
  rw [routedDeadline, if_neg (not_not.mpr h)]

/-- A clock that has not started, or has no owner, gets no deadline. -/
theorem routedDeadline_of_not_started {t : Ticket} {issueTypeId : Option Nat} {issueType : Option TicketIssueType}
    (hstart : t.slaStartedAt = none ∨ t.assignedToId = none) (hdeadline : t.slaDeadline = none) :
    routedDeadline s t issueTypeId issueType = .ok none := by
  unfold routedDeadline
  split_ifs
  · unfold recalculateTicketSlaAfterRoutingChange
    rcases hstart with h | h
    · rw [h]
      cases t.assignedToId <;> rfl
    · rw [h]
  · rw [hdeadline]

def reroute (c : UpdateContext) (t : Ticket) (dto : UpdateTicketDto) :
    Except HttpException (Ticket × Option TicketIssueType) := do
  assertRoutingChange s c dto
  check (dto.categoryId ≠ .empty) (.badRequest "Category is required.")
  let nextTicketType := dto.ticketType.getD t.ticketType
  let nextCategoryId := dto.categoryId.getD (if nextTicketType ≠ t.ticketType then none else t.categoryId)
  let next ← nextIssueType s t dto nextTicketType nextCategoryId
  let slaDeadline ← routedDeadline s t next.1 next.2
  let routing : TicketRouting :=
    { ticketType := nextTicketType, categoryId := nextCategoryId, issueTypeId := next.1
      issueType := (next.2.map TicketIssueType.key).getD "other" }
  pure ({ t with toTicketRouting := routing, slaDeadline }, next.2)

/-- The routing part of an update. -/
def updateRouting (c : UpdateContext) (t : Ticket) (issue : Option TicketIssueType) (dto : UpdateTicketDto) :
    Except HttpException (Ticket × Option TicketIssueType) :=
  if routingUpdateRequested dto then reroute s c t dto else .ok (t, issue)

/-- The routing part writes the routing, and the deadline of a changed issue. -/
theorem updateRouting_eq {c : UpdateContext} {t t' : Ticket} {issue issue' : Option TicketIssueType} {dto : UpdateTicketDto}
    (h : updateRouting s c t issue dto = .ok (t', issue')) :
    ∃ routing slaDeadline, t' = { t with toTicketRouting := routing, slaDeadline } ∧
      routing.ticketType = dto.ticketType.getD t.ticketType ∧
      (routingUpdateRequested dto = false ∧ routing = t.toTicketRouting ∧ slaDeadline = t.slaDeadline ∧ issue' = issue ∨
        routingUpdateRequested dto = true ∧ issue' = routing.issueTypeId.bind s.issueTypes ∧
          nextIssueType s t dto (requestedType t dto) (requestedCategory t dto) = .ok (routing.issueTypeId, issue') ∧
          routedDeadline s t routing.issueTypeId issue' = .ok slaDeadline) := by
  unfold updateRouting at h
  split_ifs at h with hrequested
  · simp only [reroute, bind_eq_ok] at h
    obtain ⟨-, -, -, -, next, hnext, slaDeadline, hdeadline, h⟩ := h
    cases h
    exact ⟨_, _, rfl, rfl, .inr ⟨hrequested, nextIssueType_eq_ok s hnext, hnext, hdeadline⟩⟩
  · cases h
    have hnot := Bool.not_eq_true _ |>.mp hrequested
    refine ⟨_, _, rfl, ?_, .inl ⟨hnot, rfl, rfl, rfl⟩⟩
    simp only [routingUpdateRequested, Bool.or_eq_false_iff, Option.isSome_eq_false_iff, Option.isNone_iff_eq_none] at hnot
    rw [hnot.1.1, Option.getD_none]

def updatePriority (c : UpdateContext) (t : Ticket) (dto : UpdateTicketDto) : Except HttpException Ticket := do
  match dto.priority with
  | some priority =>
    check (c.canUpdateOperationalFields s) (.forbidden
      "Only the assigned RICTMS staff member or an authorized ticket focal can change priority.")
    pure { t with priority := some priority }
  | none => pure t

theorem updatePriority_eq {c : UpdateContext} {t t' : Ticket} {dto : UpdateTicketDto}
    (h : updatePriority s c t dto = .ok t') : ∃ priority, t' = { t with priority } := by
  unfold updatePriority at h
  split at h
  · obtain ⟨-, -, h⟩ := bind_eq_ok.mp h
    cases h
    exact ⟨_, rfl⟩
  · cases h
    exact ⟨_, rfl⟩

def assertStatusAccess (c : UpdateContext) (status : TicketStatus) : Except HttpException Unit := do
  check (status ≠ .duplicate ∨ s.isTicketSettingsFocal c.actor.role)
    (.forbidden "Only a Ticket Admin can mark a ticket as Duplicate.")
  check (status ≠ .duplicate ∨ c.latestEscalation.all fun e => e.status ≠ .pending && e.status ≠ .accepted)
    (.badRequest "Return the active escalation before marking this ticket as Duplicate.")
  check (c.latestEscalation.all fun e => e.status ≠ .pending)
    (.forbidden "Cannot change ticket status while an escalation is pending.")
  if c.acceptedEscalation.isSome then
    check (c.isAcceptedEscalationOperator s) (.forbidden <|
      "This ticket has an accepted escalation. Only the accepting focal, compliance officer, section head, " ++
        "or super admin can change status.")
  else
    check (isTicketStatusAdmin s c.actor.role ∨ c.isEligibleAssignedOperator s)
      (.forbidden "You can only update the status of tickets explicitly assigned to you.")

/-- Fields other than the status, the original and the reason. -/
def hasExtraFields (dto : UpdateTicketDto) : Bool :=
  dto.subject.isSome || dto.description.isSome || dto.priority.isSome || resolutionUpdateRequested dto ||
    routingUpdateRequested dto

def markDuplicate (c : UpdateContext) (t : Ticket) (dto : UpdateTicketDto) : Except HttpException (Ticket × String) := do
  check (hasExtraFields dto = false) (.badRequest "Mark Duplicate cannot be combined with other ticket changes.")
  assertValidDuplicateSource t c.isOverdue
  let reason := trim (dto.statusJustification.getD "")
  check (reason ≠ "" ∧ reason.length ≤ 2000)
    (.badRequest "A reason of 1 to 2000 characters is required when marking a ticket as Duplicate.")
  match dto.duplicateOfId with
  | none => .error (.badRequest "duplicateOfId is required when marking a ticket as Duplicate.")
  | some duplicateOfId =>
    match c.db.ticket? duplicateOfId with
    | none => .error (.badRequest "Original ticket not found.")
    | some original =>
      assertValidDuplicateOriginal t original
      pure ({ t with
        duplicateOfId := some duplicateOfId, status := .duplicate, slaPausedAt := none, isSlaWaiting := false }, reason)

/-- The justification that a Freeze or a Pause needs. -/
def statusJustification (c : UpdateContext) (dto : UpdateTicketDto) (target : TicketStatus) :
    Except HttpException (Option StatusJustification) :=
  if target = .freeze ∨ target = .pause then
    let justification := trim (dto.statusJustification.getD "")
    if justification = "" then
      .error (.badRequest ("A justification is required when setting the status to " ++ target.text.toUpper ++ "."))
    else .ok (some { ticketId := c.original.id, status := target, justification, createdBy := c.actor.id })
  else .ok none

/-- The entity as it enters its new status. -/
def entered (db : Db) (t : Ticket) (target : TicketStatus) : Ticket :=
  let t := { t with status := target }
  match target with
  | .in_progress => unpaused t
  | .open => resetToOpen s db t
  | .resolved => { t with resolvedAt := t.resolvedAt <|> some s.now }
  | _ => t

/-- The entity in its new status, a duplicate apart. -/
def moveTo (db : Db) (t : Ticket) (issue : Option TicketIssueType) (target : TicketStatus) :
    Except HttpException Ticket := do
  let moved ← suspendOrResume s t issue target
  let moved := entered s db moved target
  if target = .resolved ∨ target = .closed then stopClock s moved issue t.status else pure moved

/-- What a move leaves in its status and people columns. -/
structure Moved (t : Ticket) (target : TicketStatus) (t' : Ticket) : Prop where
  eq : t' = { t with
    toTicketSla := t'.toTicketSla, toTicketPeople := t'.toTicketPeople, toTicketOutcome := t'.toTicketOutcome
    status := t'.status }
  people : target ≠ .open → t'.toTicketPeople = t.toTicketPeople
  createdById : t'.createdById = t.createdById
  requesterId : t'.requesterId = t.requesterId
  status : target ≠ .open → t'.status = target
  reset : target = .open → t'.status = if t'.assignedToId.isSome then .assigned else .open
  chosen : target = .open → ∀ owner, t'.assignedToId = some owner →
    canAutomaticallyAssign s owner (.type t.ticketType) t.requesterId = true

theorem moved_entered (db : Db) (t : Ticket) (target : TicketStatus) : Moved s t target (entered s db t target) := by
  cases target
  case «open» =>
    have hchosen := fun owner => @canAutomaticallyAssign_of_resetToOpen s db { t with status := .open } owner
    obtain ⟨owner, lastAssignedAt, h⟩ := resetToOpen_eq s db { t with status := .open }
    rw [show entered s db t .open = resetToOpen s db { t with status := .open } from rfl]
    rw [h] at hchosen ⊢
    exact ⟨rfl, fun h => absurd rfl h, rfl, rfl, fun h => absurd rfl h, fun _ => rfl, fun _ => hchosen⟩
  all_goals exact ⟨rfl, fun _ => rfl, rfl, rfl, fun _ => rfl, fun h => (by cases h), fun h => (by cases h)⟩

/-- The SLA columns of both tickets do not matter. -/
theorem Moved.of_sla {t t' : Ticket} {target : TicketStatus} {before : TicketSla}
    (h : Moved s { t with toTicketSla := before } target t') (after : TicketSla) :
    Moved s t target { t' with toTicketSla := after } := by
  obtain ⟨heq, hpeople, hcreated, hrequester, hstatus, hreset, hchosen⟩ := h
  refine ⟨?_, hpeople, hcreated, hrequester, hstatus, hreset, hchosen⟩
  rw [heq]

theorem moveTo_moved {db : Db} {t t' : Ticket} {issue : Option TicketIssueType} {target : TicketStatus}
    (h : moveTo s db t issue target = .ok t') : Moved s t target t' := by
  obtain ⟨moved, hmoved, h⟩ := bind_eq_ok.mp h
  obtain ⟨before, rfl⟩ := suspendOrResume_eq s hmoved
  have hentered := moved_entered s db { t with toTicketSla := before } target
  dsimp only at h
  split_ifs at h
  · obtain ⟨after, rfl, -⟩ := stopClock_eq s h
    exact hentered.of_sla s _
  · cases h
    exact hentered.of_sla s (entered s db { t with toTicketSla := before } target).toTicketSla

def assertTransition (c : UpdateContext) (t : Ticket) (dto : UpdateTicketDto) (target : TicketStatus) :
    Except HttpException Unit := do
  let allowed := allowedFor s c.actor.role c.frozenReturnStatus t.status target
  check (target ∈ allowed) (.forbidden (transitionMessage t.status target allowed))
  check (target ≠ .in_progress ∨ (dto.priority <|> t.priority).isSome) (.badRequest <|
    "A priority must be set on this ticket before marking it as In Progress. Please tag the priority first.")

def assertResolvable (t : Ticket) (dto : UpdateTicketDto) (target : TicketStatus) : Except HttpException Unit := do
  check (target ≠ .resolved ∨ t.priority.isSome ∨ dto.priority.isSome) (.badRequest <|
    "A priority must be set on this ticket before it can be marked as Resolved. Please set the priority first.")
  check (target ≠ .resolved ∨ t.issueTypeId.isSome)
    (.badRequest "An Issue must be selected before this ticket can be marked as Resolved.")

/-- Freeze and Pause have no event of their own when they are only extended, a duplicate logs its own. -/
def loggedStatus (originalStatus target : TicketStatus) : Option TicketStatus :=
  if target = .duplicate ∨ ((target = .freeze ∨ target = .pause) ∧ originalStatus = target) then none else some target

def isHandoffStatus (status : TicketStatus) : Bool :=
  status = .resolved || status = .closed || status = .duplicate || status = .freeze

def duplicatePlan (c : UpdateContext) (t : Ticket) (dto : UpdateTicketDto) : Except HttpException UpdatePlan := do
  let marked ← markDuplicate c t dto
  pure { ticket := marked.1, originalStatus := t.status, persist := .duplicate marked.2
         handoff := marked.1.assignedToId }

/-- A ticket that leaves Freeze or Pause for In Progress. -/
def resumesWork (status target : TicketStatus) : Bool := target = .in_progress && (status = .freeze || status = .pause)

def movePlan (c : UpdateContext) (t : Ticket) (issue : Option TicketIssueType) (dto : UpdateTicketDto)
    (target : TicketStatus) : Except HttpException UpdatePlan := do
  assertResolvable t dto target
  let justification ← statusJustification c dto target
  let moved ← moveTo s c.db t issue target
  pure {
    ticket := moved
    originalStatus := t.status
    persist := .checked
    justification
    pushedBack := if resumesWork t.status target then pushedBack s c.db moved else []
    loggedStatus := loggedStatus t.status target
    handoff := if isHandoffStatus target then moved.assignedToId else none }

/-- The status part of an update. -/
def updateStatus (c : UpdateContext) (t : Ticket) (issue : Option TicketIssueType) (dto : UpdateTicketDto) :
    Except HttpException UpdatePlan :=
  match dto.status with
  | none => .ok { ticket := t, originalStatus := t.status, persist := .checked }
  | some target => do
    assertStatusAccess s c target
    assertTransition s c t dto target
    if target = .duplicate then duplicatePlan c t dto else movePlan s c t issue dto target

/-- A change of status, other than to Duplicate. -/
structure StatusMove (c : UpdateContext) (t : Ticket) (issue : Option TicketIssueType) (dto : UpdateTicketDto)
    (target : TicketStatus) (plan : UpdatePlan) : Prop where
  not_duplicate : target ≠ .duplicate
  resolvable : target = .resolved → t.issueTypeId.isSome
  moveTo : moveTo s c.db t issue target = .ok plan.ticket
  originalStatus : plan.originalStatus = t.status
  persist : plan.persist = .checked
  pushedBack : plan.pushedBack = if resumesWork t.status target then Tickets.pushedBack s c.db plan.ticket else []
  handoff : plan.handoff = if isHandoffStatus target then plan.ticket.assignedToId else none

theorem movePlan_eq_ok {c : UpdateContext} {t : Ticket} {issue : Option TicketIssueType} {dto : UpdateTicketDto}
    {target : TicketStatus} {plan : UpdatePlan} (hne : target ≠ .duplicate)
    (h : movePlan s c t issue dto target = .ok plan) : StatusMove s c t issue dto target plan := by
  simp only [movePlan, bind_eq_ok] at h
  obtain ⟨_, hresolvable, _, -, moved, hmoved, h⟩ := h
  cases h
  refine ⟨hne, fun htarget => ?_, hmoved, rfl, rfl, rfl, rfl⟩
  simp only [assertResolvable, bind_eq_ok, check_eq_ok] at hresolvable
  obtain ⟨-, -, hissue⟩ := hresolvable
  exact hissue.resolve_left (not_not.mpr htarget)

/-- A ticket marked as a duplicate: it was Open, Assigned or In Progress. -/
structure DuplicateMove (t : Ticket) (plan : UpdatePlan) : Prop where
  isLive : isLiveStatus t.status = true
  ticket : ∃ originalId, plan.ticket = { t with
    duplicateOfId := some originalId, status := .duplicate, slaPausedAt := none, isSlaWaiting := false }
  originalStatus : plan.originalStatus = t.status
  persist : ∃ reason, plan.persist = .duplicate reason
  pushedBack : plan.pushedBack = []
  handoff : plan.handoff = t.assignedToId

theorem duplicatePlan_eq_ok {c : UpdateContext} {t : Ticket} {dto : UpdateTicketDto} {plan : UpdatePlan}
    (h : duplicatePlan c t dto = .ok plan) : DuplicateMove t plan := by
  obtain ⟨marked, hmarked, h⟩ := bind_eq_ok.mp h
  cases h
  simp only [markDuplicate, bind_eq_ok, check_eq_ok] at hmarked
  obtain ⟨-, -, _, hsource, -, -, hmarked⟩ := hmarked
  have hlive : isLiveStatus t.status = true := by
    simp only [assertValidDuplicateSource, bind_eq_ok, check_eq_ok] at hsource
    obtain ⟨-, hlive, -⟩ := hsource
    exact hlive.1
  split at hmarked
  · cases hmarked
  · split at hmarked
    · cases hmarked
    · obtain ⟨-, -, hmarked⟩ := bind_eq_ok.mp hmarked
      cases hmarked
      exact ⟨hlive, ⟨_, rfl⟩, rfl, ⟨_, rfl⟩, rfl, rfl⟩

/-- What the status part does. -/
inductive StatusPart (c : UpdateContext) (t : Ticket) (issue : Option TicketIssueType) (dto : UpdateTicketDto)
    (plan : UpdatePlan) : Prop where
  | none : dto.status = none → plan = { ticket := t, originalStatus := t.status, persist := .checked } →
      StatusPart c t issue dto plan
  | duplicate : dto.status = some .duplicate → assertStatusAccess s c .duplicate = .ok () → DuplicateMove t plan →
      StatusPart c t issue dto plan
  | move {target : TicketStatus} : dto.status = some target → assertStatusAccess s c target = .ok () →
      target ∈ allowedFor s c.actor.role c.frozenReturnStatus t.status target →
      StatusMove s c t issue dto target plan → StatusPart c t issue dto plan

theorem updateStatus_eq_ok {c : UpdateContext} {t : Ticket} {issue : Option TicketIssueType} {dto : UpdateTicketDto}
    {plan : UpdatePlan} (h : updateStatus s c t issue dto = .ok plan) : StatusPart s c t issue dto plan := by
  unfold updateStatus at h
  split at h
  · rename_i hnone
    cases h
    exact .none hnone rfl
  · rename_i target htarget
    simp only [bind_eq_ok] at h
    obtain ⟨_, haccess, _, htransition, h⟩ := h
    simp only [assertTransition, bind_eq_ok, check_eq_ok] at htransition
    obtain ⟨-, hallowed, -⟩ := htransition
    split_ifs at h with hdup
    · exact .duplicate (hdup ▸ htarget) (hdup ▸ haccess) (duplicatePlan_eq_ok h)
    · exact .move htarget haccess hallowed (movePlan_eq_ok s hdup h)

/-- The resolution details, and the mark for knowledge-base generation. -/
def updateResolution (t : TicketContent) (dto : UpdateTicketDto) : Except HttpException TicketContent := do
  let resolutionNotes := dto.resolutionNotes <|> t.resolutionNotes
  let resolutionSteps := match dto.resolutionSteps with
    | some steps => some (trim steps) |>.filter fun steps => steps ≠ ""
    | none => t.resolutionSteps
  let resolutionDate ← match dto.resolutionDate with
    | .undefined => .ok t.resolutionDate
    | .empty => .ok none
    | .value (some date) => .ok (some date)
    | .value none => .error (.badRequest "resolutionDate must be a valid ISO date string.")
  let generates : Bool := dto.status = some .resolved && dto.generateKb = some true &&
    resolutionNotes.any fun notes => notes ≠ ""
  pure { t with
    resolutionNotes, resolutionSteps, resolutionDate, isKbGenerationPending := generates || t.isKbGenerationPending }

/-- The plan with the resolution details, and the ledger of interruptions brought up to date. -/
def recordTransition (plan : UpdatePlan) (content : TicketContent) : UpdatePlan :=
  { plan with ticket := { plan.ticket with
      toTicketContent := content
      interruptionHistory := recordInterruptionTransition plan.ticket.interruptionHistory plan.originalStatus
        plan.ticket.status s.now } }

def planStaffUpdate (c : UpdateContext) (issue : Option TicketIssueType) (dto : UpdateTicketDto) :
    Except HttpException UpdatePlan := do
  let t := c.original
  check (t.status ≠ .duplicate)
    (.forbidden "Duplicate or cancelled tickets are in a terminal state and cannot be updated.")
  assertStaffUpdateAccess s c dto
  let t := { t with subject := trimmedOr dto.subject t.subject, description := trimmedOr dto.description t.description }
  let routed ← updateRouting s c t issue dto
  let t ← updatePriority s c routed.1 dto
  let plan ← updateStatus s c t routed.2 dto
  let content ← updateResolution plan.ticket.toTicketContent dto
  pure (recordTransition s plan content)

/-- The stages of a staff update: the entity is rerouted, then moved, then recorded. -/
theorem planStaffUpdate_eq_ok {c : UpdateContext} {issue : Option TicketIssueType} {dto : UpdateTicketDto}
    {plan : UpdatePlan} (h : planStaffUpdate s c issue dto = .ok plan) :
    ∃ routing slaDeadline issue' content moved content',
      (routingUpdateRequested dto = false ∧ routing = c.original.toTicketRouting ∧
          slaDeadline = c.original.slaDeadline ∧ issue' = issue ∨
        routingUpdateRequested dto = true ∧ issue' = routing.issueTypeId.bind s.issueTypes ∧
          nextIssueType s c.original dto (requestedType c.original dto) (requestedCategory c.original dto) =
            .ok (routing.issueTypeId, issue') ∧
          ∃ content, routedDeadline s { c.original with toTicketContent := content } routing.issueTypeId issue' =
            .ok slaDeadline) ∧
      routing.ticketType = dto.ticketType.getD c.original.ticketType ∧ c.original.status ≠ .duplicate ∧
      StatusPart s c { c.original with toTicketContent := content, toTicketRouting := routing, slaDeadline } issue' dto
        moved ∧
      plan = recordTransition s moved content' := by
  simp only [planStaffUpdate, bind_eq_ok, check_eq_ok] at h
  obtain ⟨-, hdup, -, -, ⟨routed, issue'⟩, hrouted, t, ht, moved, hmoved, content', -, h⟩ := h
  cases h
  obtain ⟨routing, slaDeadline, rfl, htype, hcases⟩ := updateRouting_eq s hrouted
  obtain ⟨priority, rfl⟩ := updatePriority_eq s ht
  refine ⟨routing, slaDeadline, issue', _, moved, content', ?_, htype, hdup, updateStatus_eq_ok s hmoved, rfl⟩
  exact hcases.imp id fun h => ⟨h.1, h.2.1, h.2.2.1, _, h.2.2.2⟩

/-- Where an update starts from, for staff. -/
def updateContext (db : Db) (loaded : LoadedTicket) (actor : Actor) : UpdateContext :=
  { db, actor, original := loaded.ticket, isOverdue := loaded.slaState.isOverdue
    frozenReturnStatus :=
      if loaded.ticket.status = .freeze then some (resolveFrozenReturnStatus db loaded.ticket) else none
    latestEscalation := db.latestEscalation loaded.ticket.id }

/-- What an update is to write. -/
def planUpdate (db : Db) (row : Ticket) (dto : UpdateTicketDto) (actor : Actor) : Except HttpException UpdatePlan := do
  let loaded ← loadTicket s db row actor
  let c := updateContext db loaded actor
  check (c.original.status ≠ .cancelled) (.forbidden "Cancelled tickets cannot be updated.")
  check (dto.status ≠ some .cancelled) (.badRequest "Use Cancel Ticket and supply a cancellation reason.")
  let returning : Bool := c.frozenReturnStatus.isSome && dto.status = c.frozenReturnStatus
  check (isTicketReopening c.original.status dto.status = false ∨ returning ∨ actor.role = .super_admin) (.badRequest <|
    "Reopening a ticket is not permitted. Paused or frozen tickets resume automatically according to their " ++
      "configured limits.")
  if actor.role = .user then planRequesterUpdate s c.original dto actor
  else planStaffUpdate s c loaded.issueTypeConfig dto

/-- A requester's plan: the own resolved ticket closed, or the text of the own open ticket edited. -/
inductive RequesterPart (t : Ticket) (plan : UpdatePlan) : Prop where
  | close : t.status = .resolved → plan = {
      ticket := { t with status := .closed, userClosed := true, resolvedAt := t.resolvedAt <|> some s.now }
      originalStatus := t.status, persist := .save } → RequesterPart t plan
  | edit {content : TicketContent} : t.status = .open → plan = {
      ticket := { t with toTicketContent := content }, originalStatus := t.status, persist := .checked } →
      RequesterPart t plan

theorem planRequesterUpdate_eq_ok {t : Ticket} {dto : UpdateTicketDto} {actor : Actor} {plan : UpdatePlan}
    (h : planRequesterUpdate s t dto actor = .ok plan) :
    RequesterPart s t plan ∧ requesterOperationalUpdateRequested dto = false := by
  simp only [planRequesterUpdate, bind_eq_ok, check_eq_ok] at h
  obtain ⟨-, -, -, hasked, h⟩ := h
  refine ⟨?_, hasked⟩
  split_ifs at h
  · simp only [bind_eq_ok, check_eq_ok] at h
    obtain ⟨-, hstatus, h⟩ := h
    cases h
    exact .close hstatus rfl
  · simp only [bind_eq_ok, check_eq_ok] at h
    obtain ⟨-, hstatus, h⟩ := h
    cases h
    exact .edit hstatus rfl

theorem planUpdate_eq_ok {db : Db} {row : Ticket} {dto : UpdateTicketDto} {actor : Actor} {plan : UpdatePlan}
    (h : planUpdate s db row dto actor = .ok plan) :
    ∃ loaded, loadTicket s db row actor = .ok loaded ∧ loaded.ticket.status ≠ .cancelled ∧
      (RequesterPart s loaded.ticket plan ∧ requesterOperationalUpdateRequested dto = false ∨
        planStaffUpdate s (updateContext db loaded actor) loaded.issueTypeConfig dto = .ok plan) := by
  simp only [planUpdate, bind_eq_ok, check_eq_ok] at h
  obtain ⟨loaded, hload, -, hcancelled, -, -, -, -, h⟩ := h
  refine ⟨loaded, hload, hcancelled, ?_⟩
  split_ifs at h
  · exact .inl (planRequesterUpdate_eq_ok s h)
  · exact .inr h

/-! ## Which rows an update writes -/

/-- Where a plan hands a queue on: it moves a ticket to a status that leaves the active list. -/
structure HandsOff (db : Db) (row : Ticket) (dto : UpdateTicketDto) (actor : Actor) (plan : UpdatePlan) (owner : Nat) :
    Prop where
  isStaff : actor.role ≠ .user
  target : dto.status = some plan.ticket.status
  isHandoff : isHandoffStatus plan.ticket.status = true
  owner : (enrichTicket db row).assignedToId = some owner
  pushedBack : plan.pushedBack = []

theorem isHandoffStatus_ne_open {status : TicketStatus} (h : isHandoffStatus status = true) : status ≠ .open := by
  rintro rfl
  cases h

theorem StatusPart.id {c : UpdateContext} {t : Ticket} {issue : Option TicketIssueType} {dto : UpdateTicketDto}
    {plan : UpdatePlan} (h : StatusPart s c t issue dto plan) : plan.ticket.id = t.id := by
  cases h with
  | none _ hplan => rw [hplan]
  | duplicate _ _ hdup =>
    obtain ⟨_, hticket⟩ := hdup.ticket
    rw [hticket]
  | move _ _ _ hmove => rw [(moveTo_moved s hmove.moveTo).eq]

theorem planUpdate_id {db : Db} {row : Ticket} {dto : UpdateTicketDto} {actor : Actor} {plan : UpdatePlan}
    (h : planUpdate s db row dto actor = .ok plan) : plan.ticket.id = row.id := by
  obtain ⟨loaded, hload, -, ⟨hpart, -⟩ | hstaff⟩ := planUpdate_eq_ok s h
  · rw [← (loadTicket_loads hload).id]
    cases hpart with
    | close _ hplan => rw [hplan]
    | edit _ hplan => rw [hplan]
  · obtain ⟨_, _, _, _, moved, _, -, -, -, hpart, rfl⟩ := planStaffUpdate_eq_ok s hstaff
    exact hpart.id.trans (loadTicket_loads hload).id

theorem planUpdate_handoff {db : Db} {row : Ticket} {dto : UpdateTicketDto} {actor : Actor} {plan : UpdatePlan}
    {owner : Nat} (h : planUpdate s db row dto actor = .ok plan) (howner : plan.handoff = some owner) :
    HandsOff db row dto actor plan owner := by
  have hrole : actor.role ≠ .user := by
    rintro hrole
    simp only [planUpdate, bind_eq_ok] at h
    obtain ⟨_, -, _, -, _, -, _, -, h⟩ := h
    rw [if_pos hrole] at h
    cases (planRequesterUpdate_eq_ok s h).1 with
    | close _ hplan => simp [hplan] at howner
    | edit _ hplan => simp [hplan] at howner
  obtain ⟨loaded, hload, -, ⟨hpart, -⟩ | hstaff⟩ := planUpdate_eq_ok s h
  · cases hpart with
    | close _ hplan => simp [hplan] at howner
    | edit _ hplan => simp [hplan] at howner
  · obtain ⟨_, _, _, _, moved, _, -, -, -, hpart, rfl⟩ := planStaffUpdate_eq_ok s hstaff
    have hloads := loadTicket_loads hload
    cases hpart with
    | none _ hplan => simp [recordTransition, hplan] at howner
    | duplicate htarget _ hdup =>
      obtain ⟨_, hticket⟩ := hdup.ticket
      refine ⟨hrole, by simp [recordTransition, hticket, htarget], by simp [recordTransition, hticket, isHandoffStatus], ?_,
        hdup.pushedBack⟩
      rw [← hloads.assignedToId, ← howner]
      exact hdup.handoff.symm
    | @move target htarget _ _ hmove =>
      have hmoved := moveTo_moved s hmove.moveTo
      have hhandoff : isHandoffStatus target = true := by
        by_contra hnot
        simp [recordTransition, hmove.handoff, hnot] at howner
      have hstatus := hmoved.status (isHandoffStatus_ne_open hhandoff)
      refine ⟨hrole, htarget.trans (congrArg some hstatus.symm), ?_, ?_, ?_⟩
      · exact (congrArg isHandoffStatus hstatus).trans hhandoff
      · have hpeople := hmoved.people (isHandoffStatus_ne_open hhandoff)
        have hrow : moved.ticket.assignedToId = (enrichTicket db row).assignedToId := by
          rw [hpeople]
          exact hloads.assignedToId
        rw [← hrow, ← howner]
        exact ((hmove.handoff.trans (if_pos hhandoff))).symm
      · have hne : ∀ status, resumesWork status target ≠ true := by
          cases target <;> simp_all [resumesWork, isHandoffStatus]
        exact hmove.pushedBack.trans (if_neg (hne _))

/-- The tickets an update pushes back are other rows of the table. -/
theorem planUpdate_pushedBack {db : Db} {row : Ticket} {dto : UpdateTicketDto} {actor : Actor} {plan : UpdatePlan}
    (h : planUpdate s db row dto actor = .ok plan) :
    (plan.pushedBack.map Ticket.id).Nodup ∧ ∀ t ∈ plan.pushedBack, ∃ other ∈ db.tickets, other.id ≠ row.id ∧
      other.status = .assigned ∧ other.isSlaWaiting = false ∧
      t = { other with isSlaWaiting := true, slaPausedAt := other.slaPausedAt <|> some s.now } := by
  have hnil : plan.pushedBack = [] → (plan.pushedBack.map Ticket.id).Nodup ∧ ∀ t ∈ plan.pushedBack,
      ∃ other ∈ db.tickets, other.id ≠ row.id ∧ other.status = .assigned ∧ other.isSlaWaiting = false ∧
      t = { other with isSlaWaiting := true, slaPausedAt := other.slaPausedAt <|> some s.now } := by
    intro hnil
    simp [hnil]
  obtain ⟨loaded, hload, -, ⟨hpart, -⟩ | hstaff⟩ := planUpdate_eq_ok s h
  · cases hpart with
    | close _ hplan => exact hnil (by rw [hplan])
    | edit _ hplan => exact hnil (by rw [hplan])
  · obtain ⟨_, _, _, _, moved, _, -, -, -, hpart, rfl⟩ := planStaffUpdate_eq_ok s hstaff
    have hid : moved.ticket.id = row.id := hpart.id.trans (loadTicket_loads hload).id
    cases hpart with
    | none _ hplan => exact hnil (by simp [recordTransition, hplan])
    | duplicate _ _ hdup => exact hnil (by simp [recordTransition, hdup.pushedBack])
    | move _ _ _ hmove =>
      have hpushed := hmove.pushedBack
      split_ifs at hpushed
      swap
      · exact hnil (by simp [recordTransition, hpushed])
      simp only [recordTransition, hpushed, Tickets.pushedBack]
      split
      · rename_i owner howner
        rw [List.map_map]
        refine ⟨(List.filter_sublist.map _).nodup db.primaryKey, fun t ht => ?_⟩
        obtain ⟨other, hother, rfl⟩ := List.mem_map.mp ht
        obtain ⟨hmem, hp⟩ := List.mem_filter.mp hother
        simp only [Bool.and_eq_true, decide_eq_true_eq, Bool.not_eq_true', hid] at hp
        exact ⟨other, hmem, hp.1.2, hp.1.1.2, hp.2, rfl⟩
      · simp

/-! ## What an update keeps of its row -/

theorem entered_duplicateOfId (db : Db) (t : Ticket) (target : TicketStatus) :
    (entered s db t target).duplicateOfId = t.duplicateOfId := by
  cases target
  case «open» =>
    obtain ⟨owner, lastAssignedAt, h⟩ := resetToOpen_eq s db { t with status := .open }
    exact (congrArg (fun t : Ticket => t.duplicateOfId) h).trans rfl
  all_goals rfl

theorem moveTo_duplicateOfId {t t' : Ticket} {issue : Option TicketIssueType} {target : TicketStatus}
    (h : moveTo s db t issue target = .ok t') : t'.duplicateOfId = t.duplicateOfId := by
  obtain ⟨moved, hmoved, h⟩ := bind_eq_ok.mp h
  obtain ⟨before, rfl⟩ := suspendOrResume_eq s hmoved
  have hentered := entered_duplicateOfId s db { t with toTicketSla := before } target
  dsimp only at h
  split_ifs at h
  · obtain ⟨after, rfl, -⟩ := stopClock_eq s h
    exact hentered
  · cases h
    exact hentered

theorem Moved.status_ne_duplicate {t t' : Ticket} {target : TicketStatus} (h : Moved s t target t')
    (hne : target ≠ .duplicate) : t'.status ≠ .duplicate := by
  by_cases hopen : target = .open
  · rw [h.reset hopen]
    split_ifs <;> simp
  · rw [h.status hopen]
    exact hne

/-- What an update saves of the row it has loaded: its version, and under a version check its link. -/
structure KeepsRow (row : Ticket) (plan : UpdatePlan) : Prop where
  id : plan.ticket.id = row.id
  createdAt : plan.ticket.createdAt = row.createdAt
  updatedAt : plan.ticket.updatedAt = row.updatedAt
  duplicateOfId : plan.persist = .checked → plan.ticket.duplicateOfId = row.duplicateOfId
  status : plan.persist = .checked → plan.ticket.status ≠ .duplicate

theorem StatusPart.keepsRow {c : UpdateContext} {t : Ticket} {issue : Option TicketIssueType} {dto : UpdateTicketDto}
    {plan : UpdatePlan} (h : StatusPart s c t issue dto plan) (ht : t.status ≠ .duplicate) : KeepsRow t plan := by
  cases h with
  | none _ hplan =>
    rw [hplan]
    exact ⟨rfl, rfl, rfl, fun _ => rfl, fun _ => ht⟩
  | duplicate _ _ hdup =>
    obtain ⟨_, hticket⟩ := hdup.ticket
    obtain ⟨_, hpersist⟩ := hdup.persist
    refine ⟨by rw [hticket], by rw [hticket], by rw [hticket], fun h => ?_, fun h => ?_⟩
    all_goals
      rw [hpersist] at h
      cases h
  | move _ _ _ hmove =>
    have hmoved := moveTo_moved s hmove.moveTo
    exact ⟨by rw [hmoved.eq], by rw [hmoved.eq], by rw [hmoved.eq], fun _ => moveTo_duplicateOfId s hmove.moveTo,
      fun _ => hmoved.status_ne_duplicate s hmove.not_duplicate⟩

theorem planUpdate_keepsRow {db : Db} {row : Ticket} {dto : UpdateTicketDto} {actor : Actor} {plan : UpdatePlan}
    (h : planUpdate s db row dto actor = .ok plan) : KeepsRow row plan := by
  obtain ⟨loaded, hload, -, hpart⟩ := planUpdate_eq_ok s h
  have hloads := loadTicket_loads hload
  suffices hkeeps : KeepsRow loaded.ticket plan from
    ⟨hkeeps.id.trans hloads.id, hkeeps.createdAt.trans hloads.createdAt, hkeeps.updatedAt.trans hloads.updatedAt,
      fun hp => (hkeeps.duplicateOfId hp).trans (congrArg TicketOutcome.duplicateOfId hloads.outcome), hkeeps.status⟩
  rcases hpart with ⟨hpart, -⟩ | hstaff
  · cases hpart with
    | close _ hplan =>
      rw [hplan]
      exact ⟨rfl, rfl, rfl, fun _ => rfl, fun _ => by simp⟩
    | edit hopen hplan =>
      rw [hplan]
      exact ⟨rfl, rfl, rfl, fun _ => rfl, fun _ => by simp [hopen]⟩
  · obtain ⟨_, _, _, _, moved, _, -, -, hdup, hpart, rfl⟩ := planStaffUpdate_eq_ok s hstaff
    have hkeeps := hpart.keepsRow s hdup
    exact ⟨hkeeps.id, hkeeps.createdAt, hkeeps.updatedAt, hkeeps.duplicateOfId, hkeeps.status⟩

end

end ComplianceHub.Tickets
