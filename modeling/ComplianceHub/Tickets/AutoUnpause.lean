import ComplianceHub.Tickets.Finality
import ComplianceHub.Tickets.TextEdit

/-!
# The resume at the pause limit

`TicketCronService.processAutoUnpause`: a ticket that has been paused for its allowance is resumed by an ordinary
update, made for its owner as a super admin.

* `pauseLimitReached`, `unpause`, `processAutoUnpause` : the tickets that are due, the update of each, and the job;
* `ResumeAdmitted` : what the update asks of a paused ticket (`planUpdate_unpause_iff`);
* `unpauses_iff` : the update resumes a paused ticket exactly when it is admitted;
* `processAutoUnpause_resumes` : the job resumes every due ticket that is admitted.
-/

namespace ComplianceHub.Tickets

open ComplianceHub.Sla

section
variable (s : Services)

/-- `(issueTypeConfig?.allowablePauseHours ?? 48) * 60 * 60`. -/
def allowableSeconds (t : Ticket) : Int :=
  ((issueTypeConfig s t.toTicketRouting).map TicketIssueType.allowablePauseHours).getD 48 * 60 * 60

/-- The ticket has a category, and its working time since it was paused has reached its allowance. -/
def pauseLimitReached (config : TicketingConfig) (t : Ticket) : Except HttpException Bool :=
  match t.slaPausedAt, t.categoryId.bind s.categories with
  | some slaPausedAt, some _ => do
    let pausedBusinessSeconds ←
      calculateBusinessSeconds s.isOfficeDay (ticketCalendar config t.overtimeSlaDate) slaPausedAt s.now
    pure (allowableSeconds s t ≤ pausedBusinessSeconds)
  | _, _ => .ok false

/-- `ticket.assignedToId || 1`, as a super admin. -/
def unpauser (t : Ticket) : Actor := { id := (t.assignedToId.filter fun id => id ≠ 0).getD 1, role := .super_admin }

def unpauseDto : UpdateTicketDto := { status := some .in_progress }

def unpause (t : Ticket) : TicketM Ticket := updateTicket s t.id unpauseDto (unpauser t)

/-- One paused ticket; an update that fails is logged, and the job goes on. -/
def unpauseAtLimit (config : TicketingConfig) (t : Ticket) : TicketM Unit := do
  let reached ← ofExcept (pauseLimitReached s config t)
  if reached then tryCatch (ignored (unpause s t)) fun _ => pure () else pure ()

def processAutoUnpause : TicketM Unit := do
  let db ← get
  match s.config with
  | some config => (db.tickets.filter fun t => t.status = .pause).forM (unpauseAtLimit s config)
  | none => pure ()

/-! ## What the update asks of the ticket -/

/-- The calendar gives the deadline that is shown of the ticket, and the one it resumes with. -/
structure ClockAnswers (row : Ticket) : Prop where
  shown : ∃ shown, projectTicketSlaState s row (issueTypeConfig s row.toTicketRouting) s.config = .ok shown
  resumed : ∃ t, suspendOrResume s row (issueTypeConfig s row.toTicketRouting) .in_progress = .ok t

/-- A paused ticket that its update resumes: its actor may read and work on it, no answer to an escalation is awaited,
and it has its priority. -/
structure ResumeAdmitted (db : Db) (row : Ticket) : Prop where
  readable : assertTicketReadAccess s db (enrichTicket db row) (unpauser row) = .ok ()
  answered : ∀ e, db.latestEscalation row.id = some e → e.status ≠ .pending
  escalated : ∀ e, db.latestEscalation row.id = some e → e.status = .accepted →
    s.isTicketSettingsFocal .super_admin = true ∨ e.escalatedToId = (unpauser row).id
  owned : (∀ e, db.latestEscalation row.id = some e → e.status ≠ .accepted) →
    isTicketStatusAdmin s .super_admin = true ∨ (enrichTicket db row).assignedToId = some (unpauser row).id ∧
      (row.ticketType ≠ .specialized_concerns ∨ s.isSpecializedSupport .super_admin = true)
  priority : row.priority.isSome = true
  clock : ClockAnswers s row

end

variable {s : Services} {db db' : Db} {row t : Ticket} {viewer : Actor}

/-! ## What a read shows of a paused ticket -/

theorem isOk_map {α β : Type} (f : α → β) (x : Except HttpException α) : (x.map f).isOk = x.isOk := by
  cases x <;> rfl

theorem isOk_iff {α : Type} {x : Except HttpException α} : x.isOk = true ↔ ∃ a, x = .ok a := by
  cases x <;> simp [Except.isOk, Except.toBool]

/-- A projection does not look at the owner and the unread flag. -/
theorem isOk_projectTicketSlaState (t : Ticket) (owner : Option Nat) (unread : Bool) (issue : Option TicketIssueType)
    (config : Option TicketingConfig) :
    (projectTicketSlaState s { t with assignedToId := owner, hasUnreadTechnician := unread } issue config).isOk =
      (projectTicketSlaState s t issue config).isOk := by
  unfold projectTicketSlaState
  dsimp only
  by_cases hterminal : t.status = .duplicate ∨ t.status = .cancelled
  · rw [if_pos hterminal, if_pos hterminal]
    rfl
  rw [if_neg hterminal, if_neg hterminal]
  generalize config.map (fun config => ticketCalendar config t.overtimeSlaDate) = calendar
  rw [show slaResumeAt s { t with assignedToId := owner, hasUnreadTechnician := unread } issue calendar =
    slaResumeAt s t issue calendar from rfl]
  cases slaResumeAt s t issue calendar with
  | error e => rfl
  | ok resumeAt =>
    cases t.slaStartedAt with
    | none => rfl
    | some _ =>
      cases t.slaDeadline with
      | none => rfl
      | some _ =>
        change (projectedDeadline s t issue calendar resumeAt >>= _).isOk =
          (projectedDeadline s t issue calendar resumeAt >>= _).isOk
        cases projectedDeadline s t issue calendar resumeAt <;> rfl

/-- A credit does not look at the owner, the unread flag and the deadline. -/
theorem creditSuspension_shown (t : Ticket) (owner : Option Nat) (unread : Bool) (d : Option Int)
    (issue : Option TicketIssueType) (status : TicketStatus) (pausedAt : Int) :
    creditSuspension s { t with assignedToId := owner, hasUnreadTechnician := unread, slaDeadline := d } issue status
        pausedAt =
      (creditSuspension s t issue status pausedAt).map fun credited =>
        { credited with assignedToId := owner, hasUnreadTechnician := unread, slaDeadline := d } := by
  unfold creditSuspension
  cases ticketingConfig s with
  | error e => rfl
  | ok config =>
    simp only [bind, Except.bind]
    cases calculateBusinessSeconds s.isOfficeDay (ticketCalendar config t.overtimeSlaDate) pausedAt s.now with
    | error e => rfl
    | ok seconds =>
      dsimp only [pure, Except.pure, Except.map]
      unfold creditTicketPause
      rw [show usablePauseLedger { t.toTicketSla with slaDeadline := d } = usablePauseLedger t.toTicketSla from rfl]
      dsimp only
      split <;> rfl

theorem isOk_deadlineAfterCredit (t : Ticket) (owner : Option Nat) (unread : Bool) (d : Option Int)
    (issue : Option TicketIssueType) :
    (deadlineAfterCredit s { t with assignedToId := owner, hasUnreadTechnician := unread, slaDeadline := d } issue).isOk =
      (deadlineAfterCredit s t issue).isOk := by
  unfold deadlineAfterCredit
  cases issueSlaHours issue <;> rfl

theorem suspendOrResume_first_start {issue : Option TicketIssueType} (hstarted : t.slaStartedAt = none) :
    suspendOrResume s t issue .in_progress =
      (calculateTicketSlaDeadline s issue t.issueTypeId t.overtimeSlaDate s.now).map fun slaDeadline =>
        { t with
          slaStartedAt := some s.now, accumulatedPauseSeconds := 0, slaPausedAt := none, isSlaWaiting := false,
          slaDeadline } := by
  unfold suspendOrResume
  dsimp only
  rw [if_pos ⟨rfl, hstarted⟩]
  cases calculateTicketSlaDeadline s issue t.issueTypeId t.overtimeSlaDate s.now <;> rfl

theorem suspendOrResume_resume {issue : Option TicketIssueType} {pausedAt : Int} (hstarted : t.slaStartedAt ≠ none)
    (hstatus : t.status = .pause) (hpaused : t.slaPausedAt = some pausedAt) :
    suspendOrResume s t issue .in_progress = (creditSuspension s t issue .pause pausedAt).bind fun credited =>
      (deadlineAfterCredit s credited issue).map fun slaDeadline =>
        { credited with slaDeadline, slaPausedAt := none, isSlaWaiting := false } := by
  unfold suspendOrResume
  dsimp only
  rw [if_neg fun h => hstarted h.2, if_neg fun h => Bool.false_ne_true h.1, hstatus, if_pos ⟨rfl, rfl⟩, hpaused]
  change (creditSuspension s t issue .pause pausedAt >>= fun credited => deadlineAfterCredit s credited issue >>= _) = _
  refine congrArg (Except.bind (creditSuspension s t issue .pause pausedAt)) (funext fun credited => ?_)
  cases deadlineAfterCredit s credited issue <;> rfl

/-- Whether a paused ticket can resume does not depend on them either. -/
theorem isOk_suspendOrResume (owner : Option Nat) (unread : Bool) (d : Option Int) (issue : Option TicketIssueType)
    {pausedAt : Int} (hstatus : t.status = .pause) (hpaused : t.slaPausedAt = some pausedAt) :
    (suspendOrResume s { t with assignedToId := owner, hasUnreadTechnician := unread, slaDeadline := d } issue
      .in_progress).isOk = (suspendOrResume s t issue .in_progress).isOk := by
  by_cases hstarted : t.slaStartedAt = none
  · rw [suspendOrResume_first_start hstarted, suspendOrResume_first_start (by exact hstarted)]
    cases calculateTicketSlaDeadline s issue t.issueTypeId t.overtimeSlaDate s.now <;> rfl
  · rw [suspendOrResume_resume hstarted hstatus hpaused,
      suspendOrResume_resume (by exact hstarted) (by exact hstatus) (by exact hpaused), creditSuspension_shown]
    cases creditSuspension s t issue .pause pausedAt with
    | error e => rfl
    | ok credited =>
      exact (isOk_map _ _).trans ((isOk_deadlineAfterCredit credited owner unread d issue).trans (isOk_map _ _).symm)

theorem loadTicket_paused {loaded : LoadedTicket} (hstatus : row.status = .pause) :
    loadTicket s db row viewer = .ok loaded ↔ assertTicketReadAccess s db (enrichTicket db row) viewer = .ok () ∧
      ∃ shown, projectTicketSlaState s (clearUnread viewer (enrichTicket db row))
          (issueTypeConfig s row.toTicketRouting) s.config = .ok shown ∧
        loaded = { ticket := shown.1, issueTypeConfig := issueTypeConfig s row.toTicketRouting, slaState := shown.2 } := by
  have hpaused : (enrichTicket db row).status = .pause := (loads_enrichTicket db row).status.trans hstatus
  have hrepaired : repairDeadline s (issueTypeConfig s row.toTicketRouting)
      (repairStart (repairWaiting (enrichTicket db row))) = .ok (enrichTicket db row) := by
    simp [repairDeadline, repairWaiting, repairStart, hpaused]
  simp only [loadTicket, hrepaired, bind_eq_ok, Except.ok.injEq, exists_eq_left']
  constructor
  · rintro ⟨_, hread, shown, hshown, h⟩
    cases h
    exact ⟨hread, shown, hshown, rfl⟩
  · rintro ⟨hread, shown, hshown, rfl⟩
    exact ⟨(), hread, shown, hshown, rfl⟩

/-- The entity the job's update starts from. -/
theorem loadTicket_unpauser_iff (hstatus : row.status = .pause) :
    (∃ loaded, loadTicket s db row (unpauser row) = .ok loaded) ↔
      assertTicketReadAccess s db (enrichTicket db row) (unpauser row) = .ok () ∧
      ∃ shown, projectTicketSlaState s row (issueTypeConfig s row.toTicketRouting) s.config = .ok shown := by
  have hcleared : clearUnread (unpauser row) (enrichTicket db row) =
      { row with assignedToId := (enrichTicket db row).assignedToId, hasUnreadTechnician := false } := by
    rw [enrichTicket_eq]
    rfl
  simp only [loadTicket_paused hstatus, hcleared]
  rw [← isOk_iff, ← isOk_projectTicketSlaState row (enrichTicket db row).assignedToId false, isOk_iff]
  constructor
  · rintro ⟨loaded, hread, shown, hshown, -⟩
    exact ⟨hread, shown, hshown⟩
  · rintro ⟨hread, shown, hshown⟩
    exact ⟨_, hread, shown, hshown, rfl⟩

/-! ## The plan of the update -/

theorem moveTo_in_progress {issue : Option TicketIssueType} :
    moveTo s db t issue .in_progress =
      (suspendOrResume s t issue .in_progress).map fun moved => unpaused { moved with status := .in_progress } := by
  unfold moveTo
  cases suspendOrResume s t issue .in_progress <;> rfl

/-- A paused ticket may always move to In Progress. -/
theorem assertTransition_unpause {c : UpdateContext} (hstatus : t.status = .pause) :
    assertTransition s c t unpauseDto .in_progress = .ok () ↔ t.priority.isSome = true := by
  have hallowed : TicketStatus.in_progress ∈ allowedFor s c.actor.role c.frozenReturnStatus t.status .in_progress := by
    rw [hstatus]
    unfold allowedFor
    dsimp only
    split_ifs <;> simp [allowedTransitions]
  simp [assertTransition, bind_eq_ok, check_eq_ok, hallowed, unpauseDto]

theorem updateStatus_unpause_iff {c : UpdateContext} {issue : Option TicketIssueType} (hstatus : t.status = .pause) :
    (∃ plan, updateStatus s c t issue unpauseDto = .ok plan) ↔
      assertStatusAccess s c .in_progress = .ok () ∧ t.priority.isSome = true ∧
        ∃ t', suspendOrResume s t issue .in_progress = .ok t' := by
  have hupdate : updateStatus s c t issue unpauseDto = assertStatusAccess s c .in_progress >>= fun _ =>
      assertTransition s c t unpauseDto .in_progress >>= fun _ => movePlan s c t issue unpauseDto .in_progress := rfl
  have hresolvable : assertResolvable t unpauseDto .in_progress = .ok () := rfl
  have hjustified : statusJustification c unpauseDto .in_progress = .ok none := rfl
  simp only [hupdate, movePlan, hresolvable, hjustified, moveTo_in_progress, bind_eq_ok, map_eq_ok]
  constructor
  · rintro ⟨plan, _, haccess, _, htransition, -, -, -, -, _, ⟨moved, hmoved, -⟩, -⟩
    exact ⟨haccess, (assertTransition_unpause hstatus).mp htransition, moved, hmoved⟩
  · rintro ⟨haccess, hpriority, moved, hmoved⟩
    exact ⟨_, (), haccess, (), (assertTransition_unpause hstatus).mpr hpriority, (), trivial, none, rfl, _,
      ⟨moved, hmoved, rfl⟩, rfl⟩

/-- The plan of the job's update, from the loaded entity. -/
theorem planStaffUpdate_unpause_iff {c : UpdateContext} {issue : Option TicketIssueType}
    (hstatus : c.original.status = .pause) :
    (∃ plan, planStaffUpdate s c issue unpauseDto = .ok plan) ↔
      assertStaffUpdateAccess s c unpauseDto = .ok () ∧ assertStatusAccess s c .in_progress = .ok () ∧
        c.original.priority.isSome = true ∧ ∃ t, suspendOrResume s c.original issue .in_progress = .ok t := by
  have hne : c.original.status ≠ .duplicate := by simp [hstatus]
  rw [← updateStatus_unpause_iff hstatus]
  simp only [planStaffUpdate, bind_eq_ok, check_eq_ok]
  constructor
  · rintro ⟨plan, -, -, _, hstaff, routed, hrouted, t, ht, moved, hmoved, -⟩
    cases hrouted
    cases ht
    exact ⟨hstaff, moved, hmoved⟩
  · rintro ⟨hstaff, moved, hmoved⟩
    exact ⟨_, (), hne, (), hstaff, (c.original, issue), rfl, c.original, rfl, moved, hmoved, _, rfl, rfl⟩

theorem assertStatusAccess_unpause_iff {c : UpdateContext} :
    assertStatusAccess s c .in_progress = .ok () ↔
      (∀ e, c.latestEscalation = some e → e.status ≠ .pending) ∧
      (∀ e, c.latestEscalation = some e → e.status = .accepted →
        s.isTicketSettingsFocal c.actor.role = true ∨ e.escalatedToId = c.actor.id) ∧
      ((∀ e, c.latestEscalation = some e → e.status ≠ .accepted) →
        isTicketStatusAdmin s c.actor.role = true ∨ c.isEligibleAssignedOperator s = true) := by
  unfold assertStatusAccess UpdateContext.isAcceptedEscalationOperator UpdateContext.acceptedEscalation
  cases c.latestEscalation with
  | none => simp [bind_eq_ok, check_eq_ok]
  | some e =>
    by_cases haccepted : e.status = .accepted
    · simp [bind_eq_ok, check_eq_ok, haccepted]
    · simp [bind_eq_ok, check_eq_ok, haccepted]

/-- Who may change the status may make the update. -/
theorem assertStaffUpdateAccess_unpause {c : UpdateContext} (h : assertStatusAccess s c .in_progress = .ok ()) :
    assertStaffUpdateAccess s c unpauseDto = .ok () := by
  have hresolution : resolutionUpdateRequested unpauseDto = false := rfl
  have hrouting : routingUpdateRequested unpauseDto = false := rfl
  have hwritten : unpauseDto.subject.isNone = true ∧ unpauseDto.description.isNone = true := ⟨rfl, rfl⟩
  unfold assertStaffUpdateAccess
  split_ifs with hlimited
  · obtain ⟨-, hadmin, hoperator⟩ := hlimited
    obtain ⟨-, hescalated, howned⟩ := assertStatusAccess_unpause_iff.mp h
    have heligible : c.isEligibleAssignedOperator s = true := by
      refine (howned fun e he haccepted => ?_).resolve_left (by simp [hadmin])
      have hmay : c.isAcceptedEscalationOperator s = true := by
        simpa [UpdateContext.isAcceptedEscalationOperator, UpdateContext.acceptedEscalation, he, haccepted] using
          hescalated e he haccepted
      rw [hoperator] at hmay
      cases hmay
    simp [bind_eq_ok, check_eq_ok, heligible, hresolution, hrouting, hwritten]
  · simp [check_eq_ok, hresolution]

/-- The checks before the staff part let the job's update through. -/
theorem planUpdate_unpause {plan : UpdatePlan} (hstatus : row.status = .pause) :
    planUpdate s db row unpauseDto (unpauser row) = .ok plan ↔
      ∃ loaded, loadTicket s db row (unpauser row) = .ok loaded ∧
        planStaffUpdate s (updateContext db loaded (unpauser row)) loaded.issueTypeConfig unpauseDto = .ok plan := by
  have hrole : (unpauser row).role = .super_admin := rfl
  have hcancels : unpauseDto.status ≠ some .cancelled := by decide
  rw [planUpdate, bind_eq_ok]
  refine exists_congr fun loaded => and_congr_right fun hload => ?_
  have hcancelled : (updateContext db loaded (unpauser row)).original.status ≠ .cancelled := by
    rw [show (updateContext db loaded (unpauser row)).original.status = .pause from
      (loadTicket_loads hload).status.trans hstatus]
    decide
  simp [bind_eq_ok, check_eq_ok, hcancelled, hcancels, hrole]

section
variable {loaded : LoadedTicket}

theorem planStaffUpdate_unpauser_iff {pausedAt : Int} (hstatus : row.status = .pause)
    (hpaused : row.slaPausedAt = some pausedAt) (hload : loadTicket s db row (unpauser row) = .ok loaded) :
    (∃ plan, planStaffUpdate s (updateContext db loaded (unpauser row)) loaded.issueTypeConfig unpauseDto = .ok plan) ↔
      assertStatusAccess s (updateContext db loaded (unpauser row)) .in_progress = .ok () ∧ row.priority.isSome = true ∧
        ∃ t, suspendOrResume s row (issueTypeConfig s row.toTicketRouting) .in_progress = .ok t := by
  have hpause : (updateContext db loaded (unpauser row)).original.status = .pause :=
    (loadTicket_loads hload).status.trans hstatus
  obtain ⟨d, -, -, hticket⟩ := loadTicket_eq_of_ne_in_progress hload (by simp [hstatus])
  have hshown : loaded.ticket = { row with
      assignedToId := (enrichTicket db row).assignedToId, hasUnreadTechnician := false, slaDeadline := d } := by
    rw [hticket, enrichTicket_eq]
    rfl
  rw [planStaffUpdate_unpause_iff hpause, loadTicket_issueTypeConfig hload, ← isOk_iff, ← isOk_iff]
  change _ ∧ _ ∧ loaded.ticket.priority.isSome = true ∧ (suspendOrResume s loaded.ticket _ .in_progress).isOk = true ↔ _
  rw [hshown, isOk_suspendOrResume _ _ _ _ hstatus hpaused]
  exact ⟨fun h => h.2, fun h => ⟨assertStaffUpdateAccess_unpause h.1, h⟩⟩

theorem assertStatusAccess_unpauser_iff (hload : loadTicket s db row (unpauser row) = .ok loaded) :
    assertStatusAccess s (updateContext db loaded (unpauser row)) .in_progress = .ok () ↔
      (∀ e, db.latestEscalation row.id = some e → e.status ≠ .pending) ∧
      (∀ e, db.latestEscalation row.id = some e → e.status = .accepted →
        s.isTicketSettingsFocal .super_admin = true ∨ e.escalatedToId = (unpauser row).id) ∧
      ((∀ e, db.latestEscalation row.id = some e → e.status ≠ .accepted) →
        isTicketStatusAdmin s .super_admin = true ∨ (enrichTicket db row).assignedToId = some (unpauser row).id ∧
          (row.ticketType ≠ .specialized_concerns ∨ s.isSpecializedSupport .super_admin = true)) := by
  have hloads := loadTicket_loads hload
  have hlatest : (updateContext db loaded (unpauser row)).latestEscalation = db.latestEscalation row.id :=
    congrArg db.latestEscalation hloads.id
  have hrole : (updateContext db loaded (unpauser row)).actor.role = .super_admin := rfl
  have heligible : (updateContext db loaded (unpauser row)).isEligibleAssignedOperator s = true ↔
      (enrichTicket db row).assignedToId = some (unpauser row).id ∧
        (row.ticketType ≠ .specialized_concerns ∨ s.isSpecializedSupport .super_admin = true) := by
    rw [← hloads.assignedToId, show row.ticketType = loaded.ticket.ticketType from
      congrArg TicketRouting.ticketType hloads.routing.symm]
    simp [UpdateContext.isEligibleAssignedOperator, updateContext, unpauser]
  rw [assertStatusAccess_unpause_iff, hlatest, hrole, heligible]
  rfl

end

/-- **The resume is admitted exactly so.** -/
theorem planUpdate_unpause_iff {pausedAt : Int} (hstatus : row.status = .pause) (hpaused : row.slaPausedAt = some pausedAt) :
    (∃ plan, planUpdate s db row unpauseDto (unpauser row) = .ok plan) ↔ ResumeAdmitted s db row := by
  simp only [planUpdate_unpause hstatus]
  constructor
  · rintro ⟨plan, loaded, hload, hplan⟩
    obtain ⟨hread, hshown⟩ := (loadTicket_unpauser_iff hstatus).mp ⟨loaded, hload⟩
    obtain ⟨haccess, hpriority, hresumed⟩ := (planStaffUpdate_unpauser_iff hstatus hpaused hload).mp ⟨plan, hplan⟩
    obtain ⟨hanswered, hescalated, howned⟩ := (assertStatusAccess_unpauser_iff hload).mp haccess
    exact ⟨hread, hanswered, hescalated, howned, hpriority, hshown, hresumed⟩
  · rintro ⟨hread, hanswered, hescalated, howned, hpriority, hshown, hresumed⟩
    obtain ⟨loaded, hload⟩ := (loadTicket_unpauser_iff hstatus).mpr ⟨hread, hshown⟩
    have haccess := (assertStatusAccess_unpauser_iff hload).mpr ⟨hanswered, hescalated, howned⟩
    obtain ⟨plan, hplan⟩ := (planStaffUpdate_unpauser_iff hstatus hpaused hload).mpr ⟨haccess, hpriority, hresumed⟩
    exact ⟨plan, loaded, hload, hplan⟩

/-! ## The update -/

/-- The update saves the ticket In Progress, under the version check, and hands no queue on. -/
theorem planUpdate_unpause_moves {plan : UpdatePlan} (hstatus : row.status = .pause)
    (hplan : planUpdate s db row unpauseDto (unpauser row) = .ok plan) :
    plan.persist = .checked ∧ plan.handoff = none ∧ plan.ticket.status = .in_progress := by
  obtain ⟨loaded, hload, hstaff⟩ := (planUpdate_unpause hstatus).mp hplan
  obtain ⟨_, _, _, _, moved, _, -, -, -, hpart, rfl⟩ := planStaffUpdate_eq_ok s hstaff
  cases hpart with
  | none hnone _ => cases hnone
  | duplicate hduplicate _ _ => cases hduplicate
  | move htarget _ _ hmove =>
    cases htarget
    exact ⟨hmove.persist, hmove.handoff, (moveTo_moved s hmove.moveTo).status (by decide)⟩

theorem returns_updateTicket_checked {id : Nat} {dto : UpdateTicketDto} {actor : Actor} {plan : UpdatePlan}
    (hrow : db.ticket? id = some row) (hplan : planUpdate s db row dto actor = .ok plan) (hpersist : plan.persist = .checked)
    (hhandoff : plan.handoff = none) (hcancelled : row.status ≠ .cancelled) :
    Returns (updateTicket s id dto actor) db plan.ticket (((db.beforeSave plan).save plan.ticket).logUpdate plan) := by
  have hbefore : (db.beforeSave plan).ticket? plan.ticket.id = some row := ticket?_beforeSave s hrow hplan
  have hversion : row.updatedAt = plan.ticket.updatedAt := (planUpdate_keepsRow s hplan).updatedAt.symm
  have hsave : Returns (persistUpdate s plan actor) (db.beforeSave plan) () ((db.beforeSave plan).save plan.ticket) := by
    unfold persistUpdate
    rw [hpersist]
    simp only [persistTicketUpdate, returns_bind, returns_get, returns_orThrow, returns_throwIf, returns_saveTicket]
    exact ⟨_, _, ⟨rfl, rfl⟩, row, _, ⟨hbefore, rfl⟩, (), _, ⟨hcancelled, rfl⟩, (), _, ⟨not_not.mpr hversion, rfl⟩, rfl⟩
  have hcommit : Returns (commitUpdate s plan actor) db () (((db.beforeSave plan).save plan.ticket).logUpdate plan) := by
    unfold commitUpdate
    simp only [returns_bind, returns_modify, returns_forM_saveTicket, returns_whenSome]
    exact ⟨(), _, rfl, (), _, rfl, (), _, hsave, (), _, rfl, .inl ⟨hhandoff, rfl⟩⟩
  unfold updateTicket
  simp only [returns_bind, returns_get, returns_orThrow, returns_ofExcept, returns_pure]
  exact ⟨db, db, ⟨rfl, rfl⟩, row, db, ⟨hrow, rfl⟩, plan, db, ⟨hplan, rfl⟩, (), _, hcommit, rfl, rfl⟩

/-- The update is accepted, and leaves the ticket In Progress. -/
def Unpauses (s : Services) (db : Db) (row : Ticket) : Prop :=
  ∃ t db', Returns (unpause s row) db t db' ∧ ∃ row', db'.ticket? row.id = some row' ∧ row'.status = .in_progress

theorem ticket?_logUpdate (db : Db) (plan : UpdatePlan) (id : Nat) : (db.logUpdate plan).ticket? id = db.ticket? id := by
  unfold Db.logUpdate
  split <;> rfl

/-- **A paused ticket is resumed exactly when its update is admitted.** -/
theorem unpauses_iff {pausedAt : Int} (hrow : row ∈ db.tickets) (hstatus : row.status = .pause)
    (hpaused : row.slaPausedAt = some pausedAt) : Unpauses s db row ↔ ResumeAdmitted s db row := by
  rw [← planUpdate_unpause_iff hstatus hpaused]
  constructor
  · rintro ⟨t, db', h, -⟩
    obtain ⟨row', plan, -, hrow', hplan, -⟩ := returns_updateTicket s h
    rw [Db.ticket?_of_mem hrow, Option.some.injEq] at hrow'
    exact ⟨plan, hrow' ▸ hplan⟩
  · rintro ⟨plan, hplan⟩
    obtain ⟨hpersist, hhandoff, hmoved⟩ := planUpdate_unpause_moves hstatus hplan
    refine ⟨_, _, returns_updateTicket_checked (Db.ticket?_of_mem hrow) hplan hpersist hhandoff (by simp [hstatus]),
      savedRow row plan.ticket, ?_, (savedRow_status _ _).trans hmoved⟩
    have hbefore : (db.beforeSave plan).ticket? plan.ticket.id = some row :=
      ticket?_beforeSave s (Db.ticket?_of_mem hrow) hplan
    have hid : plan.ticket.id = row.id := planUpdate_id s hplan
    obtain ⟨version, hv⟩ := savedRow_eq row plan.ticket
    rw [ticket?_logUpdate, Db.save, hbefore, Db.ticket?_setTicket, hv, ← hid, if_pos rfl, hbefore]
    rfl

/-! ## The job -/

/-- An update that is refused has written nothing. -/
theorem updateTicket_refused {id : Nat} {dto : UpdateTicketDto} {actor : Actor} {e : HttpException}
    (hrow : db.ticket? id = some row) (h : planUpdate s db row dto actor = .error e) :
    (updateTicket s id dto actor).run db = .error e db := by
  change EStateM.run (orThrow (db.ticket? id) (.notFound "Ticket not found") >>= fun row =>
    ofExcept (planUpdate s db row dto actor) >>= fun plan => commitUpdate s plan actor >>= fun _ => pure plan.ticket) db = _
  rw [hrow]
  change EStateM.run (ofExcept (planUpdate s db row dto actor) >>= fun plan => _) db = _
  rw [h]
  rfl

theorem returns_swallowed {m : TicketM Unit} {u : Unit} (h : Returns (tryCatch m fun _ => pure ()) db u db') :
    Returns m db () db' ∨ ∃ e, m.run db = .error e db' := by
  simp only [Returns, EStateM.run, tryCatch, tryCatchThe, MonadExceptOf.tryCatch, EStateM.tryCatch] at h ⊢
  cases hm : m db with
  | ok a db₁ =>
    rw [hm] at h
    exact .inl h
  | error e db₁ =>
    rw [hm] at h
    cases h
    exact .inr ⟨e, rfl⟩

theorem slaPausedAt_of_pauseLimitReached {config : TicketingConfig} (h : pauseLimitReached s config t = .ok true) :
    ∃ pausedAt, t.slaPausedAt = some pausedAt := by
  unfold pauseLimitReached at h
  split at h
  · exact ⟨_, ‹_›⟩
  · cases h

theorem ResumeAdmitted.congr (h : ResumeAdmitted s db row) (hsame : db'.escalations = db.escalations) :
    ResumeAdmitted s db' row := by
  have henriched : enrichTicket db' row = enrichTicket db row := by
    simp only [enrichTicket, Db.acceptedEscalation, Db.escalationsOf, hsame]
  have haccess : canAccessTicketByEscalation db' = canAccessTicketByEscalation db := by
    funext ticketId viewerId
    rw [canAccessTicketByEscalation, hsame, canAccessTicketByEscalation]
  have hread : assertTicketReadAccess s db' (enrichTicket db' row) (unpauser row) = .ok () := by
    rw [← h.readable, henriched]
    unfold assertTicketReadAccess
    rw [haccess]
  have hlatest := latestEscalation_congr hsame row.id
  refine ⟨hread, ?_, ?_, ?_, h.priority, h.clock⟩
  · rw [hlatest]
    exact h.answered
  · rw [hlatest]
    exact h.escalated
  · rw [hlatest, henriched]
    exact h.owned

/-- The update of one paused ticket leaves every other ticket that is paused or In Progress as it is. -/
theorem ticket?_unpause {u t' : Ticket} (h : Returns (unpause s u) db t' db') (hrow : db.ticket? t.id = some t)
    (hne : t.id ≠ u.id) (hstatus : t.status = .pause ∨ t.status = .in_progress) : db'.ticket? t.id = some t := by
  have hrows := rowsStep_updateTicket h t.id
  rw [hrow] at hrows
  cases hlater : db'.ticket? t.id with
  | none => simp [hlater] at hrows
  | some later =>
    rw [hlater] at hrows
    cases Option.rel_some_some.mp hrows with
    | refl => rfl
    | single hstep =>
      exfalso
      have hnot : t.status ≠ .assigned ∧ t.status ≠ .open := by rcases hstatus with h | h <;> simp [h]
      cases hstep with
      | updated hread _ _ => exact hne (Db.id_of_ticket? hread)
      | markedDuplicate hread _ _ => exact hne (Db.id_of_ticket? hread)
      | pushedBack hassigned _ => exact hnot.1 hassigned
      | pickedUp hp => exact hnot.2 hp.isOpen
      | promoted hover _ _ =>
        cases hover with
        | update _ _ htarget hhandoff _ _ =>
          cases htarget
          cases hhandoff
      | resumed hop _ _ => cases hop

theorem unpauseAtLimit_spec {config : TicketingConfig} {u : Ticket} {r : Unit} (hrow : db.ticket? u.id = some u)
    (hstatus : u.status = .pause) (h : Returns (unpauseAtLimit s config u) db r db') :
    db'.escalations = db.escalations ∧
      (∀ t, db.ticket? t.id = some t → t.id ≠ u.id → t.status = .pause ∨ t.status = .in_progress →
        db'.ticket? t.id = some t) ∧
      (pauseLimitReached s config u = .ok true → ResumeAdmitted s db u →
        ∃ row', db'.ticket? u.id = some row' ∧ row'.status = .in_progress) := by
  simp only [unpauseAtLimit, returns_bind, returns_ofExcept] at h
  obtain ⟨reached, _, ⟨hreached, rfl⟩, h⟩ := h
  by_cases hlimit : reached = true
  swap
  · rw [if_neg hlimit, returns_pure] at h
    obtain ⟨-, rfl⟩ := h
    refine ⟨rfl, fun t ht _ _ => ht, fun hok => ?_⟩
    rw [hreached, Except.ok.injEq] at hok
    exact absurd hok hlimit
  rw [if_pos hlimit] at h
  obtain ⟨pausedAt, hpaused⟩ := slaPausedAt_of_pauseLimitReached (hlimit ▸ hreached)
  rcases returns_swallowed h with h | ⟨e, h⟩
  · obtain ⟨t', h⟩ := returns_ignored.mp h
    refine ⟨escalations_updateTicket h, fun t ht hne hst => ticket?_unpause h ht hne hst, fun _ hadmitted => ?_⟩
    obtain ⟨t'', db'', hreturns, hresumed⟩ :=
      (unpauses_iff (Db.mem_of_ticket? hrow) hstatus hpaused).mpr hadmitted
    rw [Returns, h] at hreturns
    cases hreturns
    exact hresumed
  · -- the update was refused, so it has written nothing, and its ticket was not admitted
    replace h : (unpause s u).run db = .error e db' := by
      simp only [ignored, EStateM.run, bind, EStateM.bind] at h ⊢
      cases hm : unpause s u db with
      | ok _ _ =>
        rw [hm] at h
        cases h
      | error _ _ =>
        rw [hm] at h
        cases h
        rfl
    cases hplan : planUpdate s db u unpauseDto (unpauser u) with
    | ok plan =>
      obtain ⟨hpersist, hhandoff, -⟩ := planUpdate_unpause_moves hstatus hplan
      have hreturns := returns_updateTicket_checked hrow hplan hpersist hhandoff (by simp [hstatus])
      rw [Returns, show updateTicket s u.id unpauseDto (unpauser u) = unpause s u from rfl, h] at hreturns
      cases hreturns
    | error e' =>
      have hrefused := updateTicket_refused hrow hplan
      rw [show updateTicket s u.id unpauseDto (unpauser u) = unpause s u from rfl, h] at hrefused
      cases hrefused
      refine ⟨rfl, fun t ht _ _ => ht, fun _ hadmitted => ?_⟩
      obtain ⟨plan, hok⟩ := (planUpdate_unpause_iff hstatus hpaused).mpr hadmitted
      rw [hplan] at hok
      cases hok

/-- **The job resumes every due ticket that is admitted**, whatever becomes of the others. -/
theorem processAutoUnpause_resumes {config : TicketingConfig} {r : Unit} (hconfig : s.config = some config)
    (h : Returns (processAutoUnpause s) db r db') :
    ∀ row ∈ db.tickets, row.status = .pause → pauseLimitReached s config row = .ok true → ResumeAdmitted s db row →
      ∃ row', db'.ticket? row.id = some row' ∧ row'.status = .in_progress := by
  simp only [processAutoUnpause, hconfig, returns_bind, returns_get] at h
  obtain ⟨_, _, ⟨rfl, rfl⟩, h⟩ := h
  -- over the tickets that are left: each is as it was read, and those before it that were resumed stay In Progress
  suffices hrest : ∀ (rest : List Ticket) (db₁ : Db), (rest.map Ticket.id).Nodup →
      (∀ u ∈ rest, db₁.ticket? u.id = some u ∧ u.status = .pause) → Returns (rest.forM (unpauseAtLimit s config)) db₁ r db' →
      (∀ t, db₁.ticket? t.id = some t → t.status = .in_progress → db'.ticket? t.id = some t) ∧
        ∀ row ∈ rest, pauseLimitReached s config row = .ok true → ResumeAdmitted s db₁ row →
          ∃ row', db'.ticket? row.id = some row' ∧ row'.status = .in_progress by
    intro row hrow hstatus hreached hadmitted
    refine (hrest _ db ((List.filter_sublist.map _).nodup db.primaryKey) (fun u hu => ?_) h).2 row ?_ hreached hadmitted
    · obtain ⟨hmem, hpause⟩ := List.mem_filter.mp hu
      exact ⟨Db.ticket?_of_mem hmem, by simpa using hpause⟩
    · exact List.mem_filter.mpr ⟨hrow, by simpa using hstatus⟩
  clear h hconfig
  intro rest
  induction rest with
  | nil =>
    intro db₁ _ _ h
    rw [show ([] : List Ticket).forM (unpauseAtLimit s config) = pure () from rfl, returns_pure] at h
    obtain ⟨-, rfl⟩ := h
    exact ⟨fun t ht _ => ht, by simp⟩
  | cons u rest ih =>
    intro db₁ hnodup hread h
    obtain ⟨hnot, hnodup⟩ := List.nodup_cons.mp hnodup
    rw [List.forM_eq_forM, List.forM_cons, returns_bind] at h
    obtain ⟨_, db₂, hfirst, h⟩ := h
    obtain ⟨hu, hpause⟩ := hread u List.mem_cons_self
    obtain ⟨hescalations, hframe, hresumes⟩ := unpauseAtLimit_spec hu hpause hfirst
    have hother : ∀ v ∈ rest, v.id ≠ u.id := fun v hv hid => hnot (hid ▸ List.mem_map_of_mem hv)
    obtain ⟨hkeeps, hlater⟩ := ih db₂ hnodup (fun v hv => by
      obtain ⟨hv₁, hv₂⟩ := hread v (List.mem_cons_of_mem _ hv)
      exact ⟨hframe v hv₁ (hother v hv) (.inl hv₂), hv₂⟩) h
    refine ⟨fun t ht hst => hkeeps t (hframe t ht (fun hid => ?_) (.inr hst)) hst, fun row hrow hreached hadmitted => ?_⟩
    · rw [hid, hu, Option.some.injEq] at ht
      rw [← ht, hpause] at hst
      cases hst
    · rcases List.mem_cons.mp hrow with rfl | hrow
      · obtain ⟨row', hrow', hst⟩ := hresumes hreached hadmitted
        have hid := Db.id_of_ticket? hrow'
        exact ⟨row', hid ▸ hkeeps row' (hid ▸ hrow') hst, hst⟩
      · exact hlater row hrow hreached (hadmitted.congr hescalations)

end ComplianceHub.Tickets
