import ComplianceHub.Tickets.Queue
import ComplianceHub.Tickets.Read

/-!
# Filing a ticket

`createTicket`, with its keyword routing and its assignment on the spot.

* `ticketRequester`, `filedRouting` : who asks, and for what;
* `autoAssignee` : the fallback chain of the automatic assignment;
* `initialAssignment` : the owner a ticket is filed with, and whether the work starts at once;
* `filedTicket` : the row that is inserted.
-/

namespace ComplianceHub.Tickets

open ComplianceHub.Interruption ComplianceHub.Sla

section
variable (s : Services) (db : Db)

/-- A short users-service outage must not turn a valid requester into a false 400: the read-only view answers. -/
def ticketRequester (dto : CreateTicketDto) (caller : Actor) : Except HttpException (Nat × User) :=
  match dto.pendingStaffId with
  | some pendingStaffId => (s.previewStaff pendingStaffId).map fun requester => (requester.id, requester)
  | none =>
    let requesterId := (dto.requesterId.filter fun id => id ≠ 0).getD caller.id
    match s.getUserById requesterId <|> s.activeUserRow requesterId with
    | some requester => .ok (requesterId, requester)
    | none => .error (.badRequest "Requester not found")

/-- The routing of the request after the keyword rules. -/
def filedRouting (dto : CreateTicketDto) (caller : Actor) : Except HttpException TicketRouting := do
  check (caller.role = .user ∨ dto.issueTypeId.isSome)
    (.badRequest "Issue is required when an RICTMS staff member creates a ticket.")
  -- End users never select an issue in the UI. Ignore a stale or crafted issueTypeId.
  let issueTypeId := if caller.role = .user then none else dto.issueTypeId
  check (issueTypeId.all fun id => (s.issueTypes id).any fun issue => !issue.isDeleted && issue.isActive)
    (.badRequest "Selected issue type is invalid or inactive.")
  -- Keyword rules must never replace the routing of Specialized Concerns.
  let matchedRule := if dto.ticketType = .specialized_concerns then none
    else s.matchKeywordRules (dto.subject ++ " " ++ dto.description) dto.ticketType
  let ticketType := (matchedRule.map KeywordTarget.targetTicketType).getD dto.ticketType
  let issueTypeId := matchedRule.bind KeywordTarget.targetIssueTypeId <|> issueTypeId
  match matchedRule.bind KeywordTarget.targetCategoryId <|> dto.categoryId with
  | none => .error (.badRequest "No matching category found. Please select an appropriate category")
  | some categoryId =>
    let (_, issueType) ← validateRoutingSelection s ticketType categoryId issueTypeId
    pure { ticketType, categoryId := some categoryId, issueTypeId
           issueType := (issueType.map TicketIssueType.key).getD "other" }

/-! ## Assignment -/

def fallbackChain : TicketType → List Pool
  | .it_support => [.type .it_support, .type .desktop_support, .type .pantawid_ict_support]
  | .desktop_support => [.type .desktop_support, .type .it_support, .type .pantawid_ict_support]
  | .pantawid_ict_support => [.type .pantawid_ict_support, .all]
  | .specialized_concerns => [.type .specialized_concerns]

/-- The technician a pool offers. Pantawid works regardless of office days. -/
def poolTechnician (requesterId : Nat) (pool : Pool) : Option User :=
  if pool ≠ .type .pantawid_ict_support ∧ s.isOfficeDay s.today = false then none
  else
    let eligibleTechs := (s.getAutoAssignmentTechnicians pool).filter fun tech =>
      !s.isSeniorTech tech.role && tech.id ≠ requesterId
    if s.config.any TicketingConfig.isFlagCeremonyPaused then none
    else if isCappedRoundRobin s.config then leastRecentlyAssigned s db eligibleTechs
    else eligibleTechs.find? fun tech => openCount db tech.id = 0

def autoAssignee (ticketType : TicketType) (requesterId : Nat) : Option (User × Pool) :=
  (fallbackChain ticketType).findSome? fun pool => (poolTechnician s db requesterId pool).map fun tech => (tech, pool)

/-- The owner a ticket is filed with. -/
structure InitialAssignment where
  assignedToId : Option Nat := none
  shouldStartInProgress : Bool := false
  isSlaWaiting : Bool := false
  automaticAssignmentPool : Option Pool := none

/-- Work starts at once for a free owner, and for one with a breached ticket. -/
def assignTo (assignedToId : Nat) (pool : Option Pool) : InitialAssignment :=
  let busy := busyCount db assignedToId
  let breached := hasBreachedActiveTicket s db assignedToId
  { assignedToId := some assignedToId, shouldStartInProgress := busy = 0 || breached
    isSlaWaiting := 0 < busy && !breached, automaticAssignmentPool := pool }

def isOvertimeFiler (overtimeDate : Option Int) (requesterId : Nat) (caller : Actor) : Bool :=
  overtimeDate.isSome && isOvertimeStaff caller.role && requesterId ≠ caller.id

def initialAssignment (dto : CreateTicketDto) (caller : Actor) (requesterId : Nat) (ticketType : TicketType)
    (overtimeDate : Option Int) : Except HttpException InitialAssignment :=
  let overtimeFiler := isOvertimeFiler overtimeDate requesterId caller
  match overtimeDate, dto.assignedToId with
  | some _, _ => do
    check (dto.assignedToId = none ∨ (overtimeFiler ∧ dto.assignedToId = some caller.id)) (.badRequest
      "OT proxy requests belong to the staff filer; personal requests remain Open for another OT participant.")
    if overtimeFiler then
      check (activeStaff (s.getUserById caller.id)).isSome (.forbidden "The filer is not an active staff member.")
      assertSpecializedAssigneeEligibility s ticketType (s.getUserById caller.id)
      let busy := busyCount db caller.id
      pure { assignedToId := some caller.id, shouldStartInProgress := busy = 0, isSlaWaiting := 0 < busy }
    else pure {}
  | none, some assignedToId => do
    check (s.isTicketSettingsFocal caller.role)
      (.forbidden "Only Ticket Administrators can assign a technician during ticket creation.")
    assertRequesterAssignmentSeparation ticketType assignedToId requesterId (some caller.id)
    check (activeStaff (s.getUserById assignedToId)).isSome
      (.badRequest "The selected technician does not exist or is inactive.")
    check ((s.getUserById assignedToId).any fun tech => isDirectAssignableRictmsStaff tech.role)
      (.badRequest "The selected account is not an active RICTMS staff account.")
    assertSpecializedAssigneeEligibility s ticketType (s.getUserById assignedToId)
    check (s.attendance assignedToId = some .present ∨ s.attendance assignedToId = some .out_of_office)
      (.badRequest "Manual assignment requires the staff member to be marked Present or OOO.")
    pure (assignTo s db assignedToId none)
  | none, none =>
    if ticketType = .specialized_concerns then .ok {}
    else match autoAssignee s db ticketType requesterId with
      | some (tech, pool) => .ok (assignTo s db tech.id (some pool))
      | none => .ok {}

/-- What an initial assignment promises: work that does not start at once waits behind other work of its owner. -/
structure InitialAssignment.Valid (db : Db) (a : InitialAssignment) : Prop where
  starts : a.shouldStartInProgress = true → a.isSlaWaiting = false
  waits : ∀ owner ∈ a.assignedToId, a.shouldStartInProgress = false → a.isSlaWaiting = true ∧ 0 < busyCount db owner

theorem valid_unassigned : ({} : InitialAssignment).Valid db := by
  constructor <;> simp

theorem valid_assignTo (owner : Nat) (pool : Option Pool) : (assignTo s db owner pool).Valid db := by
  constructor <;> simp [assignTo, Nat.pos_iff_ne_zero]
  · rintro (h | h) <;> simp [h]
  · exact fun h hb => ⟨⟨h, hb⟩, h⟩

theorem valid_initialAssignment {dto : CreateTicketDto} {caller : Actor} {requesterId : Nat} {ticketType : TicketType}
    {overtimeDate : Option Int} {a : InitialAssignment}
    (h : initialAssignment s db dto caller requesterId ticketType overtimeDate = .ok a) : a.Valid db := by
  unfold initialAssignment at h
  dsimp only at h
  split at h
  · obtain ⟨-, -, h⟩ := bind_eq_ok.mp h
    split_ifs at h
    · simp only [bind_eq_ok] at h
      obtain ⟨-, -, -, -, h⟩ := h
      cases h
      constructor <;> simp [Nat.pos_iff_ne_zero]
    · cases h
      exact valid_unassigned db
  · simp only [bind_eq_ok] at h
    obtain ⟨-, -, -, -, -, -, -, -, -, -, -, -, h⟩ := h
    cases h
    exact valid_assignTo s db _ _
  · split_ifs at h
    · cases h
      exact valid_unassigned db
    · split at h
      · cases h
        exact valid_assignTo s db _ _
      · cases h
        exact valid_unassigned db

/-! ## The new row -/

def InitialAssignment.status (a : InitialAssignment) : TicketStatus :=
  match a.assignedToId with
  | none => .open
  | some _ => if a.shouldStartInProgress then .in_progress else .assigned

/-- The automatic choice is dropped when its technician has left the pool. -/
def dropStaleAssignment (dto : CreateTicketDto) (requesterId : Nat) (a : InitialAssignment) : InitialAssignment :=
  match dto.assignedToId, a.assignedToId, a.automaticAssignmentPool with
  | none, some assignedToId, some pool => if canAutomaticallyAssign s assignedToId pool requesterId then a else {}
  | _, _, _ => a

/-- The row of a new ticket; an unassigned one is on the waiting list. -/
def filedTicket (dto : CreateTicketDto) (caller : Actor) (requesterId : Nat) (requester : User) (routing : TicketRouting)
    (overtimeDate overtimeSlaDate slaDeadline : Option Int) (a : InitialAssignment) : Ticket :=
  { id := 0
    subject := trim dto.subject
    description := trim dto.description
    priority := dto.priority
    toTicketRouting := routing
    createdById := some caller.id
    requesterId
    requesterUnitSnapshot := some (captureTicketUnit s requester .filing)
    assignedToId := a.assignedToId
    lastAssignedAt := if a.assignedToId.isSome then some s.now else none
    overtimeDate, overtimeSlaDate
    slaDeadline := if a.status = .in_progress then slaDeadline else none
    slaStartedAt := if a.status = .in_progress then some s.now else none
    isSlaWaiting := a.assignedToId.isNone || a.isSlaWaiting
    status := a.status
    interruptionHistory := some (newInterruptionHistory s.now)
    createdAt := s.now }

/-- The deadline of work that starts at once. -/
def initialDeadline (a : InitialAssignment) (issueTypeId : Option Nat) (overtimeSlaDate : Option Int) :
    Except HttpException (Option Int) :=
  if a.status = .in_progress then calculateTicketSlaDeadline s none issueTypeId overtimeSlaDate s.now else .ok none

/-- A pending staff requester becomes an account when the ticket is saved. -/
def savedRequester (dto : CreateTicketDto) (caller : Actor) (ticketType : TicketType) (assignedToId : Option Nat)
    (requester : Nat × User) : Except HttpException (Nat × User) :=
  match dto.pendingStaffId with
  | some pendingStaffId => do
    let completed ← s.completeStaff pendingStaffId
    match assignedToId with
    | some assignedToId =>
      assertRequesterAssignmentSeparation ticketType assignedToId completed.id (some caller.id)
    | none => pure ()
    pure (completed.id, completed)
  | none => .ok requester

def createTicketInternal (dto : CreateTicketDto) (caller : Actor) : Except HttpException Ticket := do
  let requester ← ticketRequester s dto caller
  assertProxyRequesterAllowed s caller.id (some caller.role) requester.2
  let routing ← filedRouting s dto caller
  let overtimeDate := if s.isOvertimeDay s.today then some s.today else none
  let overtimeSlaDate := if isOvertimeFiler overtimeDate requester.1 caller then overtimeDate else none
  let a ← initialAssignment s db dto caller requester.1 routing.ticketType overtimeDate
  let slaDeadline ← initialDeadline s a routing.issueTypeId overtimeSlaDate
  let a := dropStaleAssignment s dto requester.1 a
  let requester ← savedRequester s dto caller routing.ticketType a.assignedToId requester
  pure (filedTicket s dto caller requester.1 requester.2 routing overtimeDate overtimeSlaDate slaDeadline a)

/-- A row as it is filed. -/
structure Filed (t : Ticket) : Prop where
  separated : Separated t.ticketType t.assignedToId t.requesterId
  interruptionHistory : t.interruptionHistory = some (newInterruptionHistory s.now)
  createdAt : t.createdAt = s.now
  slaPausedAt : t.slaPausedAt = none
  accumulatedPauseSeconds : t.accumulatedPauseSeconds = 0
  slaPauseLedger : t.slaPauseLedger = none
  owner : t.status = .open ∧ t.assignedToId = none ∧ t.slaStartedAt = none ∧ t.slaDeadline = none ∨
    t.status = .assigned ∧ (∃ owner, t.assignedToId = some owner ∧ 0 < busyCount db owner) ∧ t.slaStartedAt = none ∧
      t.slaDeadline = none ∧ t.isSlaWaiting = true ∨
    t.status = .in_progress ∧ t.assignedToId.isSome ∧ t.slaStartedAt = some s.now ∧ t.isSlaWaiting = false ∧
      calculateTicketSlaDeadline s none t.issueTypeId t.overtimeSlaDate s.now = .ok t.slaDeadline

/-- The owner a ticket is filed with did not ask for it. -/
theorem separated_initialAssignment {dto : CreateTicketDto} {caller : Actor} {requesterId : Nat} {ticketType : TicketType}
    {overtimeDate : Option Int} {a : InitialAssignment}
    (h : initialAssignment s db dto caller requesterId ticketType overtimeDate = .ok a) :
    Separated ticketType (dropStaleAssignment s dto requesterId a).assignedToId requesterId := by
  have hdrop : Separated ticketType a.assignedToId requesterId →
      Separated ticketType (dropStaleAssignment s dto requesterId a).assignedToId requesterId := by
    intro ha
    unfold dropStaleAssignment
    split
    · split_ifs
      · exact ha
      · exact .inr (by simp)
    · exact ha
  unfold initialAssignment at h
  dsimp only at h
  split at h
  · obtain ⟨-, -, h⟩ := bind_eq_ok.mp h
    split_ifs at h with hfiler
    · simp only [bind_eq_ok] at h
      obtain ⟨-, -, -, -, h⟩ := h
      cases h
      simp only [isOvertimeFiler, Bool.and_eq_true, decide_eq_true_eq] at hfiler
      exact hdrop (.inr fun heq => hfiler.2 (Option.some.inj heq).symm)
    · cases h
      exact hdrop (.inr (by simp))
  · simp only [bind_eq_ok] at h
    obtain ⟨-, -, _, hseparated, -, -, -, -, -, -, -, -, h⟩ := h
    cases h
    exact hdrop (separated_of_assert hseparated)
  · rename_i hmanual
    split_ifs at h
    · cases h
      exact hdrop (.inr (by simp))
    · split at h
      · cases h
        -- the automatic choice is checked when the tickets are locked
        simp only [dropStaleAssignment, assignTo, hmanual]
        split_ifs with hgate
        · exact .inr fun heq => ne_requester_of_canAutomaticallyAssign s hgate (Option.some.inj heq)
        · exact .inr (by simp)
      · cases h
        exact hdrop (.inr (by simp))

/-- An account that a pending requester becomes is checked again. -/
theorem separated_savedRequester {dto : CreateTicketDto} {caller : Actor} {ticketType : TicketType} {owner : Option Nat}
    {requester saved : Nat × User} (hsaved : savedRequester s dto caller ticketType owner requester = .ok saved)
    (h : Separated ticketType owner requester.1) : Separated ticketType owner saved.1 := by
  unfold savedRequester at hsaved
  split at hsaved
  · obtain ⟨completed, -, hsaved⟩ := bind_eq_ok.mp hsaved
    cases owner with
    | none => exact .inr (by simp)
    | some owner =>
      obtain ⟨_, hcheck, hsaved⟩ := bind_eq_ok.mp hsaved
      cases hsaved
      exact separated_of_assert hcheck
  · cases hsaved
    exact h

theorem filed_filedTicket {dto : CreateTicketDto} {caller : Actor} {requesterId : Nat} {requester : User}
    {routing : TicketRouting} {overtimeDate overtimeSlaDate slaDeadline : Option Int} {a : InitialAssignment}
    (ha : a.Valid db) (hs : Separated routing.ticketType a.assignedToId requesterId) (hd : a.status = .in_progress →
      calculateTicketSlaDeadline s none routing.issueTypeId overtimeSlaDate s.now = .ok slaDeadline) :
    Filed s db (filedTicket s dto caller requesterId requester routing overtimeDate overtimeSlaDate slaDeadline a) := by
  refine ⟨hs, rfl, rfl, rfl, rfl, rfl, ?_⟩
  cases howner : a.assignedToId with
  | none =>
    have hstatus : a.status = .open := by simp [InitialAssignment.status, howner]
    left
    simp [filedTicket, hstatus, howner]
  | some owner =>
    cases hstarts : a.shouldStartInProgress with
    | true =>
      have hstatus : a.status = .in_progress := by simp [InitialAssignment.status, howner, hstarts]
      right; right
      simp [filedTicket, hstatus, howner, ha.starts hstarts, hd hstatus]
    | false =>
      have hstatus : a.status = .assigned := by simp [InitialAssignment.status, howner, hstarts]
      obtain ⟨hwaits, hbusy⟩ := ha.waits owner howner hstarts
      right; left
      simp [filedTicket, hstatus, howner, hwaits, hbusy]

theorem valid_dropStaleAssignment (dto : CreateTicketDto) (requesterId : Nat) {a : InitialAssignment} (h : a.Valid db) :
    (dropStaleAssignment s dto requesterId a).Valid db ∧
      ((dropStaleAssignment s dto requesterId a).status = .in_progress → a.status = .in_progress) := by
  unfold dropStaleAssignment
  split
  · split_ifs
    · exact ⟨h, id⟩
    · exact ⟨valid_unassigned db, by simp [InitialAssignment.status]⟩
  · exact ⟨h, id⟩

theorem createTicketInternal_filed {dto : CreateTicketDto} {caller : Actor} {t : Ticket}
    (h : createTicketInternal s db dto caller = .ok t) : Filed s db t := by
  simp only [createTicketInternal, bind_eq_ok] at h
  obtain ⟨requester, -, -, -, routing, -, a, ha, slaDeadline, hd, saved, hsaved, h⟩ := h
  cases h
  obtain ⟨hvalid, hkept⟩ := valid_dropStaleAssignment s db dto requester.1
    (valid_initialAssignment s db ha)
  have hseparated := separated_savedRequester s hsaved (separated_initialAssignment s db ha)
  refine filed_filedTicket s db hvalid hseparated fun hstatus => ?_
  rwa [initialDeadline, if_pos (hkept hstatus)] at hd

end

/-- File a ticket; the table gives it its id. -/
def createTicket (s : Services) (dto : CreateTicketDto) (caller : Actor) : TicketM Nat := do
  let db ← get
  let ticket ← ofExcept (createTicketInternal s db dto caller)
  modify fun db => db.insertTicket ticket
  pure db.nextId

theorem returns_createTicket {s : Services} {dto : CreateTicketDto} {caller : Actor} {db db' : Db} {id : Nat}
    (h : Returns (createTicket s dto caller) db id db') :
    ∃ t, Filed s db { t with id := db.nextId } ∧ db' = db.insertTicket t := by
  simp only [createTicket, returns_bind, returns_get, returns_ofExcept, returns_modify, returns_pure] at h
  obtain ⟨_, _, ⟨rfl, rfl⟩, t, _, ⟨ht, rfl⟩, _, _, rfl, -, rfl⟩ := h
  obtain ⟨⟩ := createTicketInternal_filed s db ht
  exact ⟨t, by constructor <;> assumption, rfl⟩

end ComplianceHub.Tickets
