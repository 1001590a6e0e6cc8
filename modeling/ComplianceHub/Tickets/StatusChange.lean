import ComplianceHub.Tickets.Queue
import ComplianceHub.Tickets.Read

/-!
# The status part of an update

What `updateTicket` checks of a requested status, and what it does to the loaded entity.

* `resolveFrozenReturnStatus`, `allowedTransitions` : the transition matrix, with the way out of Freeze;
* `suspendOrResume`, `creditSuspension` : the SLA clock at a status change;
* `resetToOpen` : the release of the owner, with the search for a new one;
* `pushedBack` : the queue push-back before a resumed ticket;
* `assertValidDuplicateSource`, `assertValidDuplicateOriginal` : what may be marked as a duplicate, and of what.
-/

namespace ComplianceHub.Tickets

open ComplianceHub.Interruption ComplianceHub.Sla

/-! ## The transition matrix -/

def isValidReturnStatus (status : TicketStatus) : Bool :=
  status = .open || status = .assigned || status = .in_progress || status = .resolved

/-- The status a frozen ticket returns to: the one its last freeze left, for older events the latest one before
that, else by its owner. -/
def resolveFrozenReturnStatus (db : Db) (t : Ticket) : TicketStatus :=
  let statusEvents := (db.statusEvents.filter fun event => event.ticketId = t.id).reverse.take 50
  let recorded := match statusEvents.dropWhile fun event => event.toStatus ≠ .freeze with
    | [] => none
    | freeze :: earlier => freeze.fromStatus.filter isValidReturnStatus <|>
        (earlier.map StatusEvent.toStatus).find? isValidReturnStatus
  recorded.getD (if t.assignedToId.isSome then .in_progress else .open)

theorem isValidReturnStatus_resolveFrozenReturnStatus (db : Db) (t : Ticket) :
    isValidReturnStatus (resolveFrozenReturnStatus db t) = true := by
  have hgetD : ∀ recorded : Option TicketStatus, (∀ status ∈ recorded, isValidReturnStatus status = true) →
      isValidReturnStatus (recorded.getD (if t.assignedToId.isSome then .in_progress else .open)) = true := by
    intro recorded hvalid
    cases recorded with
    | none => rw [Option.getD_none]; split_ifs <;> rfl
    | some status => exact hvalid status rfl
  refine hgetD _ fun status hstatus => ?_
  split at hstatus
  · cases hstatus
  · rcases orElse_eq_some.mp hstatus with h | ⟨-, h⟩
    · exact (Option.filter_eq_some_iff.mp h).2
    · exact List.find?_some h

def isTicketReopening (currentStatus : TicketStatus) (requestedStatus : Option TicketStatus) : Bool :=
  requestedStatus = some .open && currentStatus ≠ .open

def isTicketStatusAdmin (s : Services) (role : Role) : Bool := s.isTicketSettingsFocal role || s.isTicketFocal role

/-- `ALLOWED_TRANSITIONS`. -/
def allowedTransitions (isTicketStatusAdmin canMarkDuplicate : Bool) (frozenReturnStatus : Option TicketStatus) :
    TicketStatus → List TicketStatus
  | .open => if isTicketStatusAdmin then .freeze :: (if canMarkDuplicate then [.duplicate] else []) else []
  | .assigned =>
    if isTicketStatusAdmin then
      [.in_progress, .freeze] ++ (if canMarkDuplicate then [.duplicate] else []) ++ [.open]
    else [.in_progress]
  | .in_progress =>
    if isTicketStatusAdmin then [.resolved, .pause, .freeze] ++ (if canMarkDuplicate then [.duplicate] else [])
    else [.resolved, .pause]
  | .pause => [.in_progress, .resolved]
  | .resolved => [.closed]
  | .freeze =>
    if isTicketStatusAdmin then [.open, .assigned, .in_progress, .resolved] else frozenReturnStatus.toList
  | .closed => []
  | .duplicate => []
  | .cancelled => []

/-- The matrix for one actor: only a super admin reopens, a return from Freeze apart. -/
def allowedFor (s : Services) (role : Role) (frozenReturnStatus : Option TicketStatus) (current target : TicketStatus) :
    List TicketStatus :=
  let allowed := allowedTransitions (isTicketStatusAdmin s role) (s.isTicketSettingsFocal role) frozenReturnStatus current
  let returning : Bool := current = .freeze && frozenReturnStatus = some target
  if role = .super_admin || returning then allowed else allowed.erase .open

theorem mem_allowedTransitions_of_terminal {admin duplicates : Bool} {frozenReturnStatus : Option TicketStatus}
    {current target : TicketStatus} (hterminal : isTerminalStatus current = true)
    (h : target ∈ allowedTransitions admin duplicates frozenReturnStatus current) :
    current = .resolved ∧ target = .closed := by
  cases current <;> simp_all [isTerminalStatus, allowedTransitions]

theorem mem_allowedTransitions_of_allowedFor {s : Services} {role : Role} {frozenReturnStatus : Option TicketStatus}
    {current target asked : TicketStatus} (h : target ∈ allowedFor s role frozenReturnStatus current asked) :
    target ∈ allowedTransitions (isTicketStatusAdmin s role) (s.isTicketSettingsFocal role) frozenReturnStatus current := by
  unfold allowedFor at h
  dsimp only at h
  split_ifs at h
  · exact h
  · exact List.mem_of_mem_erase h

/-- Only a resolved ticket is closed. -/
theorem eq_resolved_of_closed_mem_allowedTransitions {admin duplicates : Bool}
    {frozenReturnStatus : Option TicketStatus} {current : TicketStatus}
    (hfrozen : ∀ status ∈ frozenReturnStatus, isValidReturnStatus status = true)
    (h : .closed ∈ allowedTransitions admin duplicates frozenReturnStatus current) : current = .resolved := by
  cases current
  case freeze =>
    cases admin with
    | true => simp [allowedTransitions] at h
    | false =>
      have hvalid := hfrozen .closed (by simpa [allowedTransitions] using h)
      cases hvalid
  all_goals cases admin <;> cases duplicates <;> simp_all [allowedTransitions]

def transitionMessage (current target : TicketStatus) (allowed : List TicketStatus) : String :=
  "Cannot transition ticket from '" ++ current.text ++ "' to '" ++ target.text ++ "'. " ++
    if allowed.isEmpty then "This status is terminal."
    else "Allowed: " ++ String.intercalate ", " (allowed.map TicketStatus.text) ++ "."

/-! ## Duplicates -/

def assertValidDuplicateSource (t : Ticket) (isOverdue : Bool) : Except HttpException Unit := do
  check (isLiveStatus t.status ∧ t.resolvedAt = none ∧ t.resolutionTimeOverride = none)
    (.badRequest "Only unresolved Open, Assigned, or In Progress tickets can be marked as Duplicate.")
  check (isOverdue = false) (.badRequest "An overdue ticket cannot be marked as Duplicate.")

def assertValidDuplicateOriginal (t original : Ticket) : Except HttpException Unit := do
  check (original.id ≠ t.id) (.badRequest "A ticket cannot be marked as a duplicate of itself.")
  check (original.status ≠ .duplicate ∧ original.duplicateOfId = none)
    (.badRequest "The selected original ticket is itself a duplicate. Select its original ticket instead.")
  check (original.status ≠ .closed ∧ original.status ≠ .cancelled)
    (.badRequest "A closed or cancelled ticket cannot be selected as the original.")
  check (original.requesterId = t.requesterId)
    (.badRequest "The original and duplicate tickets must have the same requester.")
  check (original.createdAt < t.createdAt)
    (.badRequest "The original ticket must have been created before the duplicate ticket.")

section
variable (s : Services)

/-! ## The SLA clock at a status change -/

/-- Freeze, Pause and Open: the statuses whose clock stands still. -/
def isPausedStatus (status : TicketStatus) : Bool := status = .freeze || status = .pause || status = .open

/-- Row 1 of `ticketing_configs`, where the source dereferences it. -/
def ticketingConfig : Except HttpException TicketingConfig :=
  match s.config with
  | some config => .ok config
  | none => .error (.internalServerError "Internal server error")

/-- Credit the suspension that began at `pausedAt` and ends now, capped after a manual pause. -/
def creditSuspension (t : Ticket) (issue : Option TicketIssueType) (originalStatus : TicketStatus) (pausedAt : Int) :
    Except HttpException Ticket := do
  let config ← ticketingConfig s
  let seconds ← calculateBusinessSeconds s.isOfficeDay (ticketCalendar config t.overtimeSlaDate) pausedAt s.now
  let seconds := capManualPauseBusinessSeconds originalStatus seconds (issue.map TicketIssueType.allowablePauseHours)
  pure { t with toTicketSla := creditTicketPause t.toTicketSla pausedAt s.now seconds }

/-- The deadline after a credit, for an issue with an SLA. -/
def deadlineAfterCredit (t : Ticket) (issue : Option TicketIssueType) : Except HttpException (Option Int) :=
  match issueSlaHours issue with
  | some slaHours => do
    let config ← ticketingConfig s
    (creditedDeadline s t config slaHours t.accumulatedPauseSeconds).map some
  | none => .ok t.slaDeadline

/-- The clock from one status to the next: a first start, a suspension, or the end of one. -/
def suspendOrResume (t : Ticket) (issue : Option TicketIssueType) (target : TicketStatus) :
    Except HttpException Ticket :=
  let wasPaused := isPausedStatus t.status || t.isSlaWaiting
  let willBePaused := isPausedStatus target
  if target = .in_progress ∧ t.slaStartedAt = none then do
    let slaDeadline ← calculateTicketSlaDeadline s issue t.issueTypeId t.overtimeSlaDate s.now
    pure { t with
      slaStartedAt := some s.now, accumulatedPauseSeconds := 0, slaPausedAt := none, isSlaWaiting := false, slaDeadline }
  else if willBePaused ∧ wasPaused = false then .ok { t with slaPausedAt := some s.now }
  else if wasPaused ∧ willBePaused = false then
    match t.slaPausedAt with
    | some pausedAt => do
      let t ← creditSuspension s t issue t.status pausedAt
      let slaDeadline ← deadlineAfterCredit s t issue
      pure { t with slaDeadline, slaPausedAt := none, isSlaWaiting := false }
    | none => .ok t
  else .ok t

/-- A clock without a pause or a place in the queue. -/
def unpaused (t : Ticket) : Ticket := { t with slaPausedAt := none, isSlaWaiting := false }

/-- Credit the last suspension of a ticket whose clock stops. -/
def creditLast (t : Ticket) (issue : Option TicketIssueType) (originalStatus : TicketStatus) (pausedAt : Int) :
    Except HttpException Ticket := do
  let t ← creditSuspension s t issue originalStatus pausedAt
  if t.slaDeadline.isSome then (deadlineAfterCredit s t issue).map fun slaDeadline => { t with slaDeadline }
  else pure t

/-- Unpause the clock of a ticket that moves to Resolved or Closed. -/
def stopClock (t : Ticket) (issue : Option TicketIssueType) (originalStatus : TicketStatus) :
    Except HttpException Ticket :=
  match t.slaPausedAt with
  | some pausedAt => (creditLast s t issue originalStatus pausedAt).map unpaused
  | none => .ok (unpaused t)

/-! The clock functions write the SLA columns and nothing else. -/

theorem creditSuspension_eq {t t' : Ticket} {issue : Option TicketIssueType} {originalStatus : TicketStatus}
    {pausedAt : Int} (h : creditSuspension s t issue originalStatus pausedAt = .ok t') :
    ∃ config seconds, s.config = some config ∧
      calculateBusinessSeconds s.isOfficeDay (ticketCalendar config t.overtimeSlaDate) pausedAt s.now = .ok seconds ∧
      t' = { t with
        toTicketSla := creditTicketPause t.toTicketSla pausedAt s.now
          (capManualPauseBusinessSeconds originalStatus seconds (issue.map TicketIssueType.allowablePauseHours) : Int) } := by
  obtain ⟨config, hconfig, h⟩ := bind_eq_ok.mp h
  obtain ⟨seconds, hseconds, h⟩ := bind_eq_ok.mp h
  cases h
  refine ⟨config, seconds, ?_, hseconds, rfl⟩
  unfold ticketingConfig at hconfig
  split at hconfig
  · cases hconfig
    assumption
  · cases hconfig

theorem suspendOrResume_eq {t t' : Ticket} {issue : Option TicketIssueType} {target : TicketStatus}
    (h : suspendOrResume s t issue target = .ok t') : ∃ sla : TicketSla, t' = { t with toTicketSla := sla } := by
  unfold suspendOrResume at h
  dsimp only at h
  split_ifs at h
  · obtain ⟨slaDeadline, -, h⟩ := bind_eq_ok.mp h
    cases h
    exact ⟨_, rfl⟩
  · cases h
    exact ⟨_, rfl⟩
  · split at h
    · obtain ⟨credited, hcredit, h⟩ := bind_eq_ok.mp h
      obtain ⟨_, _, -, -, rfl⟩ := creditSuspension_eq s hcredit
      obtain ⟨slaDeadline, -, h⟩ := bind_eq_ok.mp h
      cases h
      exact ⟨_, rfl⟩
    · cases h
      exact ⟨_, rfl⟩
  · cases h
    exact ⟨_, rfl⟩

theorem creditLast_eq {t t' : Ticket} {issue : Option TicketIssueType} {originalStatus : TicketStatus} {pausedAt : Int}
    (h : creditLast s t issue originalStatus pausedAt = .ok t') : ∃ sla : TicketSla, t' = { t with toTicketSla := sla } := by
  obtain ⟨credited, hcredit, h⟩ := bind_eq_ok.mp h
  obtain ⟨_, _, -, -, rfl⟩ := creditSuspension_eq s hcredit
  split_ifs at h
  · obtain ⟨slaDeadline, -, rfl⟩ := map_eq_ok.mp h
    exact ⟨_, rfl⟩
  · cases h
    exact ⟨_, rfl⟩

theorem stopClock_eq {t t' : Ticket} {issue : Option TicketIssueType} {originalStatus : TicketStatus}
    (h : stopClock s t issue originalStatus = .ok t') :
    ∃ sla : TicketSla, t' = { t with toTicketSla := sla } ∧ sla.slaPausedAt = none ∧ sla.isSlaWaiting = false := by
  unfold stopClock at h
  split at h
  · obtain ⟨credited, hcredited, rfl⟩ := map_eq_ok.mp h
    obtain ⟨sla, rfl⟩ := creditLast_eq s hcredited
    exact ⟨_, rfl, rfl, rfl⟩
  · cases h
    exact ⟨_, rfl, rfl, rfl⟩

/-! The start of the clock, and a deadline that is not there, stay. -/

theorem creditSuspension_clock {t t' : Ticket} {issue : Option TicketIssueType} {originalStatus : TicketStatus}
    {pausedAt : Int} (h : creditSuspension s t issue originalStatus pausedAt = .ok t') :
    t'.slaStartedAt = t.slaStartedAt ∧ t'.slaDeadline = t.slaDeadline := by
  obtain ⟨_, _, -, -, rfl⟩ := creditSuspension_eq s h
  exact ⟨creditTicketPause_slaStartedAt _ _ _ _, creditTicketPause_slaDeadline _ _ _ _⟩

theorem suspendOrResume_clock {t t' : Ticket} {issue : Option TicketIssueType} {target : TicketStatus}
    (h : suspendOrResume s t issue target = .ok t') (htarget : target ≠ .in_progress) :
    t'.slaStartedAt = t.slaStartedAt ∧
      (t.slaDeadline = none → t.slaPausedAt = none ∨ issueSlaHours issue = none → t'.slaDeadline = none) := by
  unfold suspendOrResume at h
  dsimp only at h
  split_ifs at h with hstart
  · exact absurd hstart.1 htarget
  · cases h
    exact ⟨rfl, fun hd _ => hd⟩
  · split at h
    · rename_i pausedAt hpaused
      obtain ⟨credited, hcredit, h⟩ := bind_eq_ok.mp h
      obtain ⟨hstarted, hdeadline⟩ := creditSuspension_clock s hcredit
      obtain ⟨slaDeadline, hd, h⟩ := bind_eq_ok.mp h
      cases h
      refine ⟨hstarted, fun hnone hor => ?_⟩
      have hhours := hor.resolve_left (by simp [hpaused])
      rw [deadlineAfterCredit, hhours, Except.ok.injEq] at hd
      exact hd.symm.trans (hdeadline.trans hnone)
    · cases h
      exact ⟨rfl, fun hd _ => hd⟩
  · cases h
    exact ⟨rfl, fun hd _ => hd⟩

theorem stopClock_clock {t t' : Ticket} {issue : Option TicketIssueType} {originalStatus : TicketStatus}
    (h : stopClock s t issue originalStatus = .ok t') :
    t'.slaStartedAt = t.slaStartedAt ∧ (t.slaDeadline = none → t'.slaDeadline = none) := by
  unfold stopClock at h
  split at h
  · obtain ⟨last, hlast, rfl⟩ := map_eq_ok.mp h
    obtain ⟨credited, hcredit, hlast⟩ := bind_eq_ok.mp hlast
    obtain ⟨hstarted, hdeadline⟩ := creditSuspension_clock s hcredit
    split_ifs at hlast with hsome
    · obtain ⟨_, -, rfl⟩ := map_eq_ok.mp hlast
      exact ⟨hstarted, fun hnone => absurd (hdeadline ▸ hsome) (by simp [hnone])⟩
    · cases hlast
      exact ⟨hstarted, fun hnone => hdeadline.trans hnone⟩
  · cases h
    exact ⟨rfl, id⟩

/-! ## Back to Open -/

/-- The technician for a ticket that returns to Open; senior focal roles are never eligible. -/
def reopenAssignee (db : Db) (ticketType : TicketType) : Option User :=
  if ticketType ≠ .specialized_concerns ∧ (ticketType = .pantawid_ict_support ∨ s.isOfficeDay s.today) then
    let eligibleTechs := (s.getAutoAssignmentTechnicians (.type ticketType)).filter fun tech => !s.isSeniorTech tech.role
    if isCappedRoundRobin s.config then leastRecentlyAssigned s db eligibleTechs else leastLoaded db eligibleTechs
  else none

def releaseOwner (t : Ticket) : Ticket :=
  { t with
    assignedToId := none, lastAssignedAt := none, isSlaWaiting := false, slaDeadline := none
    accumulatedPauseSeconds := 0, slaPausedAt := none }

/-- Remove the owner; if there is an available technician, assign immediately. -/
def resetToOpen (db : Db) (t : Ticket) : Ticket :=
  let t := releaseOwner t
  match (reopenAssignee s db t.ticketType).filter fun tech =>
      canAutomaticallyAssign s tech.id (.type t.ticketType) t.requesterId with
  | some tech => { t with assignedToId := some tech.id, status := .assigned, lastAssignedAt := some s.now }
  | none => t

/-- A reset ticket has no owner and is Open, or has the owner found for it and is Assigned. -/
theorem resetToOpen_eq (db : Db) (t : Ticket) :
    ∃ owner lastAssignedAt, resetToOpen s db t = { releaseOwner t with
        assignedToId := owner, lastAssignedAt, status := if owner.isSome then .assigned else t.status } := by
  unfold resetToOpen
  dsimp only
  split
  · rename_i tech _
    exact ⟨some tech.id, some s.now, rfl⟩
  · exact ⟨none, none, rfl⟩

theorem canAutomaticallyAssign_of_resetToOpen {db : Db} {t : Ticket} {owner : Nat}
    (h : (resetToOpen s db t).assignedToId = some owner) :
    canAutomaticallyAssign s owner (.type t.ticketType) t.requesterId = true := by
  unfold resetToOpen at h
  dsimp only at h
  split at h
  · rename_i tech htech
    obtain rfl := Option.some.inj h
    exact (Option.filter_eq_some_iff.mp htech).2
  · cases h

/-! ## Queue push-back -/

/-- The Assigned work in hand of the owner, as it goes back to the queue when a ticket resumes. Only Assigned
tickets are pushed back, so that several In Progress tickets can run concurrently. -/
def pushedBack (db : Db) (t : Ticket) : List Ticket :=
  match t.assignedToId with
  | some assignedToId =>
    (db.tickets.filter fun active => active.assignedToId = some assignedToId && active.status = .assigned &&
        active.id ≠ t.id && !active.isSlaWaiting).map fun active =>
      { active with isSlaWaiting := true, slaPausedAt := active.slaPausedAt <|> some s.now }
  | none => []

end

end ComplianceHub.Tickets
