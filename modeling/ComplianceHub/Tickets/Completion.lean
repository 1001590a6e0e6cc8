import ComplianceHub.Tickets.Steps
import ComplianceHub.Tickets.Verdict

/-!
# The clock of a completed ticket

* `Settled`, `SameClock` : the clock of a completed ticket stands still, and stays as it is;
* `KeepsVerdict` : the updates that leave it, by what they read. Rerouting a completed ticket to another issue moves
  its deadline, and resolving a ticket that never started may give it one;
* `RowStep.sameClock`, `RowStep.settles` : one step;
* `completed_sla_verdict_is_fixed` : every run of such steps.
-/

namespace ComplianceHub.Tickets

open ComplianceHub.Lib ComplianceHub.Sla

def isCompletedStatus (status : TicketStatus) : Bool := status = .resolved || status = .closed

theorem isTerminalStatus_of_completed {status : TicketStatus} (h : isCompletedStatus status = true) :
    isTerminalStatus status = true := by
  cases status <;> simp_all [isCompletedStatus, isTerminalStatus]

/-- The clock of a completed ticket: it neither stands paused nor waits, and a deadline comes with a start. -/
structure Settled (t : Ticket) : Prop where
  slaPausedAt : t.slaPausedAt = none
  isSlaWaiting : t.isSlaWaiting = false
  resolvedAt : t.resolvedAt.isSome
  started : t.slaDeadline.isSome → t.slaStartedAt.isSome

/-- A completed ticket that keeps its clock and its completion. -/
structure SameClock (row t : Ticket) : Prop where
  isCompleted : isCompletedStatus t.status = true
  slaStartedAt : t.slaStartedAt = row.slaStartedAt
  slaDeadline : t.slaDeadline = row.slaDeadline
  accumulatedPauseSeconds : t.accumulatedPauseSeconds = row.accumulatedPauseSeconds
  slaPauseLedger : t.slaPauseLedger = row.slaPauseLedger
  slaPausedAt : t.slaPausedAt = row.slaPausedAt
  isSlaWaiting : t.isSlaWaiting = row.isSlaWaiting
  resolvedAt : t.resolvedAt = row.resolvedAt

/-- The update leaves the issue: the same one is asked for, and a category that changes has it. -/
def KeepsIssue (s : Services) (row : Ticket) (dto : UpdateTicketDto) : Prop :=
  requestedIssue row dto = row.issueTypeId ∧
    (dto.issueTypeId = .undefined → requestedCategory row dto ≠ row.categoryId →
      ∀ categoryId ∈ requestedCategory row dto,
        (validateRoutingSelection s (requestedType row dto) categoryId (requestedIssue row dto)).isOk = true)

/-- A ticket is not resolved with a deadline but without a start. -/
def ResolvesStarted (s : Services) (row : Ticket) (dto : UpdateTicketDto) : Prop :=
  dto.status = some .resolved → row.status ≠ .in_progress → row.slaStartedAt = none → row.slaDeadline = none ∧
    (row.slaPausedAt = none ∨ issueSlaHours ((requestedIssue row dto).bind s.issueTypes) = none)

/-- A ticket that another issue gives no deadline either. -/
def HasNoClock (row : Ticket) : Prop := row.slaDeadline = none ∧ (row.slaStartedAt = none ∨ row.assignedToId = none)

/-- The steps that leave the clock of a completed ticket. -/
def KeepsVerdict (s : Services) (db : Db) : Op → Prop
  | .updateTicket id dto _ => ∀ row ∈ db.ticket? id,
      (isCompletedStatus row.status = true → HasNoClock row ∨ KeepsIssue s row dto) ∧ ResolvesStarted s row dto
  | _ => True

instance (s : Services) (row : Ticket) (dto : UpdateTicketDto) : Decidable (KeepsIssue s row dto) :=
  inferInstanceAs (Decidable (_ ∧ (_ → _ → ∀ categoryId ∈ requestedCategory row dto, _)))

instance (s : Services) (row : Ticket) (dto : UpdateTicketDto) : Decidable (ResolvesStarted s row dto) :=
  inferInstanceAs (Decidable (_ → _ → _ → _ ∧ (_ ∨ _)))

instance (s : Services) (db : Db) : (op : Op) → Decidable (KeepsVerdict s db op)
  | .updateTicket .. => inferInstanceAs (Decidable (∀ row ∈ db.ticket? _, (_ → (_ ∧ (_ ∨ _)) ∨ KeepsIssue ..) ∧
      ResolvesStarted ..))
  | .createTicket .. | .assignTicketInternal .. | .correctTicketRequester .. | .correctTicketAssignee ..
  | .claimOvertimeTicket .. | .markTicketViewed .. | .submitSatisfaction .. | .cancelTicket .. | .escalate ..
  | .acceptEscalation .. | .returnEscalation .. | .overrideResolutionTime .. | .assignPendingTicketsOnLogin ..
  | .unpauseNextWaitingTicketAndSetInProgress .. | .pauseAllActiveTickets .. | .resumeAllActiveTickets ..
  | .resumeCwwPresentTechnicianTickets | .processOvertimeSlaSchedule | .recalculateActiveSlaDeadlines => .isTrue trivial

section
variable {s : Services} {db : Db} {op : Op} {row t : Ticket}

theorem KeepsIssue.eq {dto : UpdateTicketDto} {issueTypeId : Option Nat} {issueType : Option TicketIssueType}
    (hkeeps : KeepsIssue s row dto)
    (h : nextIssueType s row dto (requestedType row dto) (requestedCategory row dto) = .ok (issueTypeId, issueType)) :
    issueTypeId = row.issueTypeId := by
  rcases nextIssueType_requested s h with heq | ⟨-, hundefined, hcategory, categoryId, hmem, e, hinvalid⟩
  · exact heq.trans hkeeps.1
  · have hvalid := hkeeps.2 hundefined hcategory categoryId hmem
    rw [hinvalid] at hvalid
    cases hvalid

theorem SameClock.settled (h : SameClock row t) (hrow : Settled row) : Settled t where
  slaPausedAt := h.slaPausedAt.trans hrow.slaPausedAt
  isSlaWaiting := h.isSlaWaiting.trans hrow.isSlaWaiting
  resolvedAt := h.resolvedAt ▸ hrow.resolvedAt
  started hdeadline := h.slaStartedAt ▸ hrow.started (h.slaDeadline ▸ hdeadline)

theorem SameClock.of_eq (hcompleted : isCompletedStatus t.status = true) (hsla : t.toTicketSla = row.toTicketSla)
    (hresolvedAt : t.resolvedAt = row.resolvedAt) : SameClock row t := by
  constructor
  · exact hcompleted
  all_goals first | exact hresolvedAt | rw [hsla]

theorem SameClock.trans {a b c : Ticket} (h₁ : SameClock a b) (h₂ : SameClock b c) : SameClock a c where
  isCompleted := h₂.isCompleted
  slaStartedAt := h₂.slaStartedAt.trans h₁.slaStartedAt
  slaDeadline := h₂.slaDeadline.trans h₁.slaDeadline
  accumulatedPauseSeconds := h₂.accumulatedPauseSeconds.trans h₁.accumulatedPauseSeconds
  slaPauseLedger := h₂.slaPauseLedger.trans h₁.slaPauseLedger
  slaPausedAt := h₂.slaPausedAt.trans h₁.slaPausedAt
  isSlaWaiting := h₂.isSlaWaiting.trans h₁.isSlaWaiting
  resolvedAt := h₂.resolvedAt.trans h₁.resolvedAt

theorem SameClock.savedRow (h : SameClock row t) (stored : Ticket) : SameClock row (savedRow stored t) := by
  obtain ⟨version, hv⟩ := savedRow_eq stored t
  rw [hv]
  obtain ⟨⟩ := h
  constructor <;> assumption

/-! ## An update of a completed ticket -/

/-- The clock of a completed ticket is loaded as it is stored. -/
theorem loadTicket_completed {viewer : Actor} {e : LoadedTicket} (h : loadTicket s db row viewer = .ok e)
    (hcompleted : isCompletedStatus row.status = true) (hpaused : row.slaPausedAt = none) :
    e.ticket.toTicketSla = row.toTicketSla := by
  have hstatus : row.status ≠ .in_progress := by
    rintro hs
    simp [hs, isCompletedStatus] at hcompleted
  obtain ⟨d, hd, hsla, -⟩ := loadTicket_eq_of_ne_in_progress h hstatus
  obtain rfl := hd.resolve_right (by simp [hpaused])
  exact hsla

/-- Closing a resolved ticket leaves its clock. -/
theorem moveTo_closed {t' : Ticket} {issue : Option TicketIssueType} (h : moveTo s db t issue .closed = .ok t')
    (hstatus : t.status = .resolved) (hpaused : t.slaPausedAt = none) (hwaiting : t.isSlaWaiting = false) :
    t' = unpaused { t with status := .closed } := by
  obtain ⟨moved, hmoved, h⟩ := bind_eq_ok.mp h
  have hsame : suspendOrResume s t issue .closed = .ok t := by
    simp [suspendOrResume, isPausedStatus, hstatus, hwaiting]
  rw [hsame, Except.ok.injEq] at hmoved
  subst hmoved
  have hstop : stopClock s { t with status := .closed } issue t.status = .ok t' := h
  rw [stopClock] at hstop
  simp only [hpaused, Except.ok.injEq] at hstop
  exact hstop.symm

theorem sameClock_updated {dto : UpdateTicketDto} {actor : Actor} {plan : UpdatePlan}
    (h : planUpdate s db row dto actor = .ok plan) (hsaved : ∀ reason, plan.persist ≠ .duplicate reason)
    (hcompleted : isCompletedStatus row.status = true) (hsettled : Settled row)
    (hkeeps : HasNoClock row ∨ KeepsIssue s row dto) :
    SameClock row plan.ticket ∧ plan.ticket.resolutionTimeOverride = row.resolutionTimeOverride := by
  obtain ⟨loaded, hload, -, ⟨hpart, -⟩ | hstaff⟩ := planUpdate_eq_ok s h
  · have hloads := loadTicket_loads hload
    have hsla := loadTicket_completed hload hcompleted hsettled.slaPausedAt
    cases hpart with
    | close _ hplan =>
      rw [hplan]
      obtain ⟨resolvedAt, hresolved⟩ := Option.isSome_iff_exists.mp hsettled.resolvedAt
      refine ⟨.of_eq rfl hsla ?_, ?_⟩
      · dsimp only
        rw [hloads.outcome, hresolved]
        rfl
      · dsimp only
        rw [hloads.outcome]
    | edit hopen _ =>
      rw [hloads.status] at hopen
      simp [hopen, isCompletedStatus] at hcompleted
  · obtain ⟨routing, slaDeadline, issue, content, moved, _, hrouted, -, -, hpart, rfl⟩ := planStaffUpdate_eq_ok s hstaff
    have hloads := loadTicket_loads hload
    have hsla : loaded.ticket.toTicketSla = row.toTicketSla :=
      loadTicket_completed hload hcompleted hsettled.slaPausedAt
    -- the issue stays, so the deadline does
    have hdeadline : slaDeadline = row.slaDeadline := by
      rcases hrouted with ⟨-, -, hd, -⟩ | ⟨-, -, hnext, content, hd⟩
      · rw [← hsla]
        exact hd
      rcases hkeeps with ⟨hnone, hclock⟩ | hkeeps
      · have howner : loaded.ticket.assignedToId = row.assignedToId := by
          rw [hloads.assignedToId, enrichTicket_of_terminal db (isTerminalStatus_of_completed hcompleted)]
        have hroutes : routedDeadline s { loaded.ticket with toTicketContent := content } routing.issueTypeId issue =
            .ok none := routedDeadline_of_not_started s
          (hclock.imp (fun h => (congrArg TicketSla.slaStartedAt hsla).trans h) howner.trans)
          ((congrArg TicketSla.slaDeadline hsla).trans hnone)
        rw [hnone]
        exact Except.ok.inj (hd.symm.trans hroutes)
      · change nextIssueType s loaded.ticket dto (requestedType loaded.ticket dto) (requestedCategory loaded.ticket dto) =
          _ at hnext
        rw [nextIssueType_congr s hloads.routing] at hnext
        have hissue : loaded.ticket.issueTypeId = routing.issueTypeId := by
          rw [hloads.routing, hkeeps.eq hnext]
        rw [← hsla]
        exact (Except.ok.inj ((routedDeadline_of_eq s hissue).symm.trans hd)).symm
    subst hdeadline
    have hstatus : loaded.ticket.status = row.status := hloads.status
    have houtcome : loaded.ticket.toTicketOutcome = row.toTicketOutcome := hloads.outcome
    have hrouted : { loaded.ticket.toTicketSla with slaDeadline := row.slaDeadline } = row.toTicketSla := by rw [hsla]
    suffices hmoved : SameClock row moved.ticket ∧
        moved.ticket.resolutionTimeOverride = row.resolutionTimeOverride by
      obtain ⟨⟨⟩, hoverride⟩ := hmoved
      refine ⟨?_, hoverride⟩
      constructor <;> assumption
    cases hpart with
    | none _ hplan =>
      rw [hplan]
      refine ⟨.of_eq ?_ hrouted ?_, ?_⟩
      · exact hstatus ▸ hcompleted
      · exact congrArg TicketOutcome.resolvedAt houtcome
      · exact congrArg TicketOutcome.resolutionTimeOverride houtcome
    | duplicate _ _ hdup =>
      obtain ⟨reason, hpersist⟩ := hdup.persist
      exact absurd hpersist (hsaved reason)
    | @move target _ _ hallowed hmove =>
      have hmem := mem_allowedTransitions_of_allowedFor hallowed
      change target ∈ allowedTransitions _ _ _ loaded.ticket.status at hmem
      rw [hstatus] at hmem
      obtain ⟨hresolved, rfl⟩ := mem_allowedTransitions_of_terminal (isTerminalStatus_of_completed hcompleted) hmem
      have hsame : ∀ {α : Type} (f : TicketSla → α), f loaded.ticket.toTicketSla = f row.toTicketSla :=
        fun f => congrArg f hsla
      have hclosed := moveTo_closed hmove.moveTo (hstatus.trans hresolved)
        ((hsame (·.slaPausedAt)).trans hsettled.slaPausedAt) ((hsame (·.isSlaWaiting)).trans hsettled.isSlaWaiting)
      rw [hclosed]
      refine ⟨⟨rfl, hsame (·.slaStartedAt), rfl, hsame (·.accumulatedPauseSeconds), hsame (·.slaPauseLedger),
        hsettled.slaPausedAt.symm, hsettled.isSlaWaiting.symm, congrArg TicketOutcome.resolvedAt houtcome⟩, ?_⟩
      exact congrArg TicketOutcome.resolutionTimeOverride houtcome

/-! ## The update that resolves a ticket -/

/-- A ticket that enters Resolved has a completion, and a clock that neither stands paused nor waits. -/
theorem settled_moveTo_resolved {t' : Ticket} {issue : Option TicketIssueType} (h : moveTo s db t issue .resolved = .ok t')
    (hstarted : t.slaStartedAt = none →
      t.slaDeadline = none ∧ (t.slaPausedAt = none ∨ issueSlaHours issue = none)) : Settled t' := by
  obtain ⟨moved, hmoved, h⟩ := bind_eq_ok.mp h
  obtain ⟨hstart, hdeadline⟩ := suspendOrResume_clock s hmoved (by decide)
  have hstop : stopClock s { moved with status := .resolved, resolvedAt := moved.resolvedAt <|> some s.now } issue
      t.status = .ok t' := h
  obtain ⟨hstart', hdeadline'⟩ := stopClock_clock s hstop
  obtain ⟨sla, rfl, hpaused, hwaiting⟩ := stopClock_eq s hstop
  refine ⟨hpaused, hwaiting, ?_, fun hsome => ?_⟩
  · cases moved.resolvedAt <;> rfl
  · have hstart'' : sla.slaStartedAt = t.slaStartedAt := hstart'.trans hstart
    by_contra hnone
    change ¬ sla.slaStartedAt.isSome = true at hnone
    rw [hstart'', Option.not_isSome_iff_eq_none] at hnone
    obtain ⟨hd, hor⟩ := hstarted hnone
    have hgone : sla.slaDeadline = none := hdeadline' (hdeadline hd hor)
    change sla.slaDeadline.isSome = true at hsome
    simp [hgone] at hsome

theorem settled_updated {dto : UpdateTicketDto} {actor : Actor} {plan : UpdatePlan}
    (h : planUpdate s db row dto actor = .ok plan) (hsaved : ∀ reason, plan.persist ≠ .duplicate reason)
    (hactive : isCompletedStatus row.status = false) (hcompleted : isCompletedStatus plan.ticket.status = true)
    (hstarted : ResolvesStarted s row dto) : Settled plan.ticket := by
  obtain ⟨loaded, hload, -, ⟨hpart, -⟩ | hstaff⟩ := planUpdate_eq_ok s h
  · have hstatus := (loadTicket_loads hload).status
    cases hpart with
    | close hresolved _ =>
      rw [← hstatus, hresolved] at hactive
      cases hactive
    | edit hopen hplan =>
      rw [hplan] at hcompleted
      change isCompletedStatus loaded.ticket.status = true at hcompleted
      rw [hopen] at hcompleted
      cases hcompleted
  · obtain ⟨routing, slaDeadline, issue, content, moved, _, hrouted, -, -, hpart, rfl⟩ := planStaffUpdate_eq_ok s hstaff
    have hstatus : loaded.ticket.status = row.status := (loadTicket_loads hload).status
    suffices hmoved : Settled moved.ticket by
      obtain ⟨⟩ := hmoved
      constructor <;> assumption
    change isCompletedStatus moved.ticket.status = true at hcompleted
    cases hpart with
    | none _ hplan =>
      rw [hplan] at hcompleted
      change isCompletedStatus loaded.ticket.status = true at hcompleted
      rw [hstatus, hactive] at hcompleted
      cases hcompleted
    | duplicate _ _ hdup =>
      obtain ⟨reason, hpersist⟩ := hdup.persist
      exact absurd hpersist (hsaved reason)
    | @move target htarget _ hallowed hmove =>
      have hmoved := moveTo_moved s hmove.moveTo
      have hopen : target ≠ .open := by
        rintro rfl
        rw [hmoved.reset rfl] at hcompleted
        split_ifs at hcompleted <;> cases hcompleted
      rw [hmoved.status hopen] at hcompleted
      obtain rfl : target = .resolved := by
        by_contra hne
        obtain rfl : target = .closed := by
          cases target <;> simp_all [isCompletedStatus]
        have hresolved := eq_resolved_of_closed_mem_allowedTransitions ?_ (mem_allowedTransitions_of_allowedFor hallowed)
        · change loaded.ticket.status = .resolved at hresolved
          rw [← hstatus, hresolved] at hactive
          cases hactive
        · intro status hfrozen
          change (if loaded.ticket.status = .freeze then some (resolveFrozenReturnStatus db loaded.ticket) else none) =
            some status at hfrozen
          split_ifs at hfrozen
          cases hfrozen
          exact isValidReturnStatus_resolveFrozenReturnStatus db loaded.ticket
      refine settled_moveTo_resolved hmove.moveTo fun hnone => ?_
      change loaded.ticket.slaStartedAt = none at hnone
      have hstatus' : row.status ≠ .in_progress := fun hs => by
        simpa [hnone] using loadTicket_started hload hs
      obtain ⟨d, hd, hsla, -⟩ := loadTicket_eq_of_ne_in_progress hload hstatus'
      have hstart : row.slaStartedAt = none := by rw [← hnone, hsla]
      obtain ⟨hdeadline, hor⟩ := hstarted htarget hstatus' hstart
      have hloaded : loaded.ticket.slaDeadline = none := by
        rw [hsla]
        exact (hd.resolve_right (by simp [hstart])).trans hdeadline
      have hpaused : loaded.ticket.slaPausedAt = row.slaPausedAt := by rw [hsla]
      -- the issue of a ticket that is resolved is the one asked for
      have hissue : slaDeadline = none ∧ issue = (requestedIssue row dto).bind s.issueTypes := by
        have hrouting := (loadTicket_loads hload).routing
        rcases hrouted with ⟨hnot, -, hd, hissue⟩ | ⟨-, hissue, hnext, _, hd⟩
        · refine ⟨hd.trans hloaded, ?_⟩
          rw [hissue, loadTicket_issueTypeConfig hload, issueTypeConfig, requestedIssue_of_not_requested hnot]
        · refine ⟨Except.ok.inj (hd.symm.trans (routedDeadline_of_not_started s (.inl hnone) hloaded)), ?_⟩
          change nextIssueType s loaded.ticket dto (requestedType loaded.ticket dto)
            (requestedCategory loaded.ticket dto) = _ at hnext
          rw [nextIssueType_congr s hrouting] at hnext
          rcases nextIssueType_requested s hnext with heq | ⟨hcleared, -⟩
          · rw [hissue, heq]
          · have hsome := hmove.resolvable rfl
            change routing.issueTypeId.isSome = true at hsome
            simp [hcleared] at hsome
      refine ⟨hissue.1, ?_⟩
      rw [hissue.2]
      exact hor.imp hpaused.trans id

/-! ## One step -/

theorem Settled.savedRow (h : Settled t) (stored : Ticket) : Settled (savedRow stored t) := by
  obtain ⟨version, hv⟩ := savedRow_eq stored t
  rw [hv]
  obtain ⟨⟩ := h
  constructor <;> assumption

theorem isCompletedStatus_of_not_terminal {status : TicketStatus} (h : isTerminalStatus status = false) :
    isCompletedStatus status = false := by
  cases status <;> simp_all [isCompletedStatus, isTerminalStatus]

/-- The completed ticket that is taken over changes its owner. -/
theorem takenOver_completed {actorId : Nat} (h : takenOver s row actorId = .ok t)
    (hcompleted : isCompletedStatus row.status = true) :
    t = { row with assignedToId := some actorId, lastAssignedAt := some s.now, isSlaWaiting := false } := by
  have hdone : row.status = .resolved ∨ row.status = .closed := by simpa [isCompletedStatus] using hcompleted
  unfold takenOver at h
  dsimp only at h
  rw [if_pos hdone] at h
  exact (Except.ok.inj h).symm

/-- The steps that find a completed ticket. -/
theorem RowStep.sameClock (h : RowStep s db op row t) (hcompleted : isCompletedStatus row.status = true)
    (hsettled : Settled row) (hkeeps : KeepsVerdict s db op) :
    SameClock row t ∧ ((∀ body actor, op ≠ .overrideResolutionTime row.id body actor) →
      t.resolutionTimeOverride = row.resolutionTimeOverride) := by
  have hterminal := isTerminalStatus_of_completed hcompleted
  have hactive : ∀ status, row.status = status → isCompletedStatus status = true := fun _ h => h ▸ hcompleted
  -- a step that keeps the override of the row
  suffices hstep : (SameClock row t ∧ t.resolutionTimeOverride = row.resolutionTimeOverride) ∨
      ∃ body actor, op = .overrideResolutionTime row.id body actor ∧ SameClock row t by
    rcases hstep with ⟨hclock, heq⟩ | ⟨body, actor, hop, hclock⟩
    · exact ⟨hclock, fun _ => heq⟩
    · exact ⟨hclock, fun hno => absurd hop (hno body actor)⟩
  have hsave : ∀ {t : Ticket}, SameClock row t → t.resolutionTimeOverride = row.resolutionTimeOverride →
      SameClock row (savedRow row t) ∧ (savedRow row t).resolutionTimeOverride = row.resolutionTimeOverride := by
    intro t hclock heq
    refine ⟨hclock.savedRow row, ?_⟩
    obtain ⟨version, hv⟩ := savedRow_eq row t
    rw [hv]
    exact heq
  cases h with
  | updated hid hplan hsaved =>
    obtain ⟨hclock, heq⟩ := sameClock_updated hplan hsaved hcompleted hsettled ((hkeeps row hid).1 hcompleted)
    exact .inl (hsave hclock heq)
  | markedDuplicate _ hlive _ =>
    rw [isTerminalStatus_of_live hlive] at hterminal
    cases hterminal
  | pushedBack hassigned _ => exact absurd (hactive _ hassigned) (by decide)
  | pickedUp hp => exact absurd (hactive _ hp.isOpen) (by decide)
  | promoted _ _ hp =>
    have hwaits := hp.waits
    cases hs : row.status <;> simp_all [waitsFor, isWaitingStatus, isCompletedStatus]
  | assigned _ hplan =>
    obtain ⟨_, -, hnot, -⟩ := planAssign_eq_ok s hplan
    rw [hterminal] at hnot
    cases hnot
  | requesterSaved _ _ =>
    refine .inl (hsave (.of_eq hcompleted ?_ ?_) ?_)
    all_goals rfl
  | requesterUpdated _ _ => exact .inl ⟨.of_eq hcompleted rfl rfl, rfl⟩
  | assigneeCorrected _ hplan _ =>
    obtain ⟨_, -, -, hstatus, ⟨-, rfl⟩ | ⟨hresolved, -⟩⟩ := planAssigneeCorrection_eq_ok s hplan
    · refine .inl (hsave (.of_eq hcompleted ?_ ?_) ?_)
      all_goals rfl
    · cases hs : row.status <;> simp_all [isCorrectableStatus, isCompletedStatus]
  | correctedAndPromoted _ hplan hpromotes _ =>
    obtain ⟨_, -, -, hstatus, ⟨-, rfl⟩ | ⟨hresolved, -⟩⟩ := planAssigneeCorrection_eq_ok s hplan
    · cases hpromotes
    · cases hs : row.status <;> simp_all [isCorrectableStatus, isCompletedStatus]
  | claimed hopen _ _ _ => exact absurd (hactive _ hopen) (by decide)
  | unreadCleared =>
    unfold updatedRow clearUnreadColumn
    refine .inl ?_
    split_ifs <;> exact ⟨.of_eq hcompleted rfl rfl, rfl⟩
  | viewed _ hload hopens _ =>
    simp only [opensTicket, Bool.and_eq_true, decide_eq_true_eq, (loadTicket_loads hload).status] at hopens
    exact absurd (hactive _ hopens.1.1.1) (by decide)
  | rated ht =>
    obtain ⟨-, _, _, rfl⟩ := ratedTicket_eq s ht
    rw [enrichTicket_of_terminal db hterminal]
    refine .inl (hsave (.of_eq rfl ?_ ?_) ?_)
    all_goals rfl
  | cancelled _ hlive =>
    rw [isTerminalStatus_of_live hlive] at hterminal
    cases hterminal
  | takenOver _ _ _ _ _ ht =>
    obtain rfl := takenOver_completed ht hcompleted
    refine .inl (hsave ⟨hcompleted, ?_, ?_, ?_, ?_, ?_, ?_, ?_⟩ ?_)
    all_goals first | rfl | exact hsettled.isSlaWaiting.symm
  | resolutionTimeOverridden hid _ =>
    refine .inr ⟨_, _, by rw [Db.id_of_ticket? hid], ?_⟩
    exact .of_eq hcompleted rfl rfl
  | pickedUpOnLogin hopen _ _ _ => exact absurd (hactive _ hopen) (by decide)
  | schedulePaused hrunning _ =>
    simp only [isRunningClock, Bool.and_eq_true, decide_eq_true_eq] at hrunning
    exact absurd (hactive _ hrunning.1.1.1) (by decide)
  | overtimePaused hrunning =>
    simp only [isRunningClock, Bool.and_eq_true, decide_eq_true_eq] at hrunning
    exact absurd (hactive _ hrunning.1.1.1) (by decide)
  | resumed _ hpaused _ =>
    simp only [isPausedClock, Bool.and_eq_true, decide_eq_true_eq] at hpaused
    exact absurd (hactive _ hpaused.1.1) (by decide)
  | recalculated hstatus _ => exact absurd (hactive _ hstatus) (by decide)

/-- Only an update completes a ticket. -/
theorem RowStep.settles (h : RowStep s db op row t) (hactive : isCompletedStatus row.status = false)
    (hcompleted : isCompletedStatus t.status = true) (hkeeps : KeepsVerdict s db op) : Settled t := by
  have hnot : ∀ status, t.status = status → isCompletedStatus status = true := fun _ h => h ▸ hcompleted
  cases h with
  | updated hid hplan hsaved =>
    rw [savedRow_status] at hcompleted
    exact (settled_updated hplan hsaved hactive hcompleted (hkeeps row hid).2).savedRow row
  | markedDuplicate _ _ _ => exact absurd (hnot .duplicate rfl) (by decide)
  | pushedBack hassigned _ => exact absurd (hnot _ ((savedRow_status _ _).trans hassigned)) (by decide)
  | pickedUp hp =>
    obtain ⟨_, -, rfl⟩ := hp.eq
    exact absurd (hnot .in_progress (savedRow_status _ _)) (by decide)
  | promoted _ _ hp =>
    obtain ⟨_, -, rfl⟩ := hp.eq
    exact absurd (hnot .in_progress rfl) (by decide)
  | assigned _ hplan =>
    obtain ⟨loaded, hload, hterminal, hassigned, -⟩ := planAssign_eq_ok s hplan
    obtain ⟨_, hticket, -⟩ := assignedTicket_eq s hassigned
    rw [savedRow_status, hticket] at hcompleted
    have hloaded : isTerminalStatus loaded.ticket.status = false := (loadTicket_loads hload).status ▸ hterminal
    rw [isCompletedStatus_of_not_terminal (isTerminalStatus_reassigned hloaded _)] at hcompleted
    cases hcompleted
  | requesterSaved _ _ => exact absurd (hnot row.status (savedRow_status _ _)) (by simp [hactive])
  | requesterUpdated _ _ => exact absurd (hnot row.status rfl) (by simp [hactive])
  | assigneeCorrected _ hplan _ =>
    obtain ⟨_, -, -, -, ⟨hresolved, -⟩ | ⟨-, hcorrected, -⟩⟩ := planAssigneeCorrection_eq_ok s hplan
    · rw [hresolved] at hactive
      cases hactive
    · obtain ⟨_, hticket, -⟩ := correctedActiveTicket_eq s hcorrected
      rw [savedRow_status, hticket] at hcompleted
      dsimp only at hcompleted
      split_ifs at hcompleted <;> cases hcompleted
  | correctedAndPromoted _ _ _ hp =>
    obtain ⟨_, -, rfl⟩ := hp.eq
    exact absurd (hnot .in_progress rfl) (by decide)
  | claimed _ _ _ ht =>
    obtain ⟨_, rfl, -⟩ := claimedTicket_eq s ht
    rw [savedRow_status] at hcompleted
    dsimp only at hcompleted
    split_ifs at hcompleted <;> cases hcompleted
  | unreadCleared =>
    refine absurd (hnot row.status ?_) (by simp [hactive])
    unfold updatedRow clearUnreadColumn
    split_ifs <;> rfl
  | viewed _ _ _ ht =>
    obtain ⟨_, -, rfl⟩ := map_eq_ok.mp ht
    exact absurd (hnot .in_progress (savedRow_status _ _)) (by decide)
  | rated ht =>
    obtain ⟨hdone, -⟩ := ratedTicket_eq s ht
    rw [(loads_enrichTicket db row).status] at hdone
    rcases hdone with h | h <;> simp [h, isCompletedStatus] at hactive
  | cancelled _ _ => exact absurd (hnot .cancelled rfl) (by decide)
  | takenOver _ _ _ _ _ ht =>
    obtain ⟨_, -, rfl⟩ := takenOver_eq s ht
    rw [savedRow_status] at hcompleted
    dsimp only at hcompleted
    split_ifs at hcompleted with hdone
    · rw [hactive] at hcompleted
      cases hcompleted
    · cases hcompleted
  | resolutionTimeOverridden _ _ => exact absurd (hnot row.status rfl) (by simp [hactive])
  | pickedUpOnLogin _ _ _ ht =>
    obtain ⟨_, rfl, -⟩ := pickedUpTicket_eq s ht
    rw [savedRow_status] at hcompleted
    dsimp only at hcompleted
    split_ifs at hcompleted <;> cases hcompleted
  | schedulePaused _ _ =>
    refine absurd (hnot row.status ?_) (by simp [hactive])
    exact (savedRow_status _ _).trans (loads_enrichTicket db row).status
  | overtimePaused _ => exact absurd (hnot row.status (savedRow_status _ _)) (by simp [hactive])
  | resumed _ _ hr =>
    obtain ⟨_, _, -, hr⟩ := hr
    obtain ⟨_, -, _, rfl, -⟩ := applySlaResume_eq s hr
    exact absurd (hnot row.status (savedRow_status _ _)) (by simp [hactive])
  | recalculated _ hr =>
    obtain ⟨_, -, hr⟩ := hr
    obtain ⟨-, _, _, -, -, -, rfl⟩ := recalculated_eq_some s hr
    exact absurd (hnot row.status (savedRow_status _ _)) (by simp [hactive])

/-! ## Runs -/

/-- Every completed ticket is settled. -/
def CompletedSettled (db : Db) : Prop := ∀ t ∈ db.tickets, isCompletedStatus t.status = true → Settled t

theorem CompletedSettled.step {db' : Db} (hinv : CompletedSettled db) (h : op.Completes s db db')
    (hkeeps : KeepsVerdict s db op) : CompletedSettled db' := by
  intro t ht hcompleted
  rcases h.earlier ht with ⟨hfiled, -⟩ | ⟨row, hrow, -, rfl | hstep⟩
  · rcases hfiled.owner with ⟨hs, -⟩ | ⟨hs, -⟩ | ⟨hs, -⟩ <;> simp [hs, isCompletedStatus] at hcompleted
  · exact hinv t hrow hcompleted
  · cases hrowCompleted : isCompletedStatus row.status with
    | false => exact hstep.settles hrowCompleted hcompleted hkeeps
    | true =>
      have hsettled := hinv row hrow hrowCompleted
      exact (hstep.sameClock hrowCompleted hsettled hkeeps).1.settled hsettled

theorem run_completedSettled {history : List (Transition State (Services × Op))} {st : State}
    (h : Run ticketing history st) (hkeeps : ∀ e ∈ history, KeepsVerdict e.label.1 e.before.db e.label.2) :
    CompletedSettled st.db := by
  refine Run.always (I := fun st => CompletedSettled st.db) (fun st hinit t ht => ?_) ?_ h hkeeps
  · rw [show st.db = {} from hinit] at ht
    cases ht
  · intro _ _ _ hinv hs hk
    exact hinv.step (ticketing_step hs).2.1 hk

/-- The page of a ticket, the reports and the report builder give the same verdict. -/
def VerdictIs (s : Services) (t : Ticket) (met : Bool) : Prop :=
  (∀ issue config, ∃ state, projectTicketSlaState s t issue config = .ok (t, state) ∧ state.isOverdue = !met) ∧
    (∀ activeHours slaHours, hasMetResolvedTicketSla t activeHours slaHours = met) ∧
    ∀ issue stop config result, getBuilderSlaResult s t issue stop config = .ok result → result.met = some met

theorem Settled.getEffectiveResolvedAt (h : Settled t) :
    ∃ completedAt, Tickets.getEffectiveResolvedAt t.toTicketOutcome = some completedAt := by
  obtain ⟨resolvedAt, hresolved⟩ := Option.isSome_iff_exists.mp h.resolvedAt
  cases hoverride : t.resolutionTimeOverride with
  | none => exact ⟨resolvedAt, by simp [Tickets.getEffectiveResolvedAt, hoverride, hresolved]⟩
  | some verified => exact ⟨verified, by simp [Tickets.getEffectiveResolvedAt, hoverride]⟩

theorem Settled.verdictIs (h : Settled t) (hcompleted : isCompletedStatus t.status = true) {completedAt deadline : Int}
    (hat : Tickets.getEffectiveResolvedAt t.toTicketOutcome = some completedAt) (hdeadline : t.slaDeadline = some deadline) :
    VerdictIs s t (decide (completedAt ≤ deadline)) := by
  refine ⟨fun issue config => ?_, fun activeHours slaHours => ?_, fun issue stop config result hresult => ?_⟩
  · have hstatus : t.status ≠ .duplicate ∧ t.status ≠ .cancelled := by
      constructor <;> rintro hs <;> simp [hs, isCompletedStatus] at hcompleted
    obtain ⟨state, hstate, hoverdue⟩ := projectTicketSlaState_completed hat hdeadline
      (h.started (by simp [hdeadline])) h.slaPausedAt h.isSlaWaiting hstatus issue config
    refine ⟨state, hstate, hoverdue.trans ?_⟩
    rw [← decide_not, decide_eq_decide]
    exact Int.not_le.symm
  · exact hasMetResolvedTicketSla_of_deadline hat hdeadline activeHours slaHours
  · exact getBuilderSlaResult_met hat hdeadline hresult

/-- One step of a run after a ticket was completed. -/
theorem SameClock.step {db' : Db} {row : Ticket} {unapproved : Prop} (hinv : CompletedSettled db)
    (h : op.Completes s db db') (hkeeps : KeepsVerdict s db op)
    (hop : unapproved → ∀ body actor, op ≠ .overrideResolutionTime row.id body actor)
    (hrow : ∃ t ∈ db.tickets, t.id = row.id ∧ SameClock row t ∧
      (unapproved → t.resolutionTimeOverride = row.resolutionTimeOverride)) :
    ∃ t ∈ db'.tickets, t.id = row.id ∧ SameClock row t ∧
      (unapproved → t.resolutionTimeOverride = row.resolutionTimeOverride) := by
  obtain ⟨t, ht, hid, hclock, hoverride⟩ := hrow
  obtain ⟨t', ht', hid', rfl | hstep⟩ := h.later ht
  · exact ⟨t', ht', hid, hclock, hoverride⟩
  · obtain ⟨hclock', hoverride'⟩ := hstep.sameClock hclock.isCompleted (hinv t ht hclock.isCompleted) hkeeps
    refine ⟨t', ht', hid'.trans hid, hclock.trans hclock', fun hun => ?_⟩
    rw [hoverride' (hid ▸ hop hun), hoverride hun]

end

/-- **The SLA verdict of a completed ticket is fixed**, in every run whose updates keep it: from its completion on the
clock stands still as it is, only an approved override moves the completion, and every reader gives the same verdict. -/
theorem completed_sla_verdict_is_fixed {first rest : List (Transition State (Services × Op))} {mid st : State}
    (hfirst : Run ticketing first mid) (hrest : Segment ticketing mid rest st)
    (hkeeps : ∀ e ∈ first ++ rest, KeepsVerdict e.label.1 e.before.db e.label.2) :
    (∀ row ∈ mid.db.tickets, isCompletedStatus row.status = true →
      ∃ t ∈ st.db.tickets, t.id = row.id ∧ SameClock row t ∧
        ((∀ e ∈ rest, ∀ body actor, e.label.2 ≠ .overrideResolutionTime row.id body actor) →
          t.resolutionTimeOverride = row.resolutionTimeOverride)) ∧
      ∀ t ∈ st.db.tickets, isCompletedStatus t.status = true → Settled t ∧
        ∀ deadline, t.slaDeadline = some deadline →
          ∃ completedAt, getEffectiveResolvedAt t.toTicketOutcome = some completedAt ∧
            ∀ s, VerdictIs s t (decide (completedAt ≤ deadline)) := by
  have hmid := run_completedSettled hfirst fun e he => hkeeps e (List.mem_append_left _ he)
  have hafter : ∀ e ∈ rest, KeepsVerdict e.label.1 e.before.db e.label.2 := fun e he =>
    hkeeps e (List.mem_append_right _ he)
  refine ⟨fun row hrow hcompleted => ?_, fun t ht hcompleted => ?_⟩
  · let unapproved := ∀ e ∈ rest, ∀ body actor, e.label.2 ≠ .overrideResolutionTime row.id body actor
    refine (hrest.always (P := fun e => KeepsVerdict e.label.1 e.before.db e.label.2 ∧
      (unapproved → ∀ body actor, e.label.2 ≠ .overrideResolutionTime row.id body actor))
      (I := fun st => CompletedSettled st.db ∧ ∃ t ∈ st.db.tickets, t.id = row.id ∧ SameClock row t ∧
        (unapproved → t.resolutionTimeOverride = row.resolutionTimeOverride)) ?_ ?_ ?_).1.2
    · rintro _ _ _ ⟨hinv, hheld⟩ hs ⟨hk, hop⟩
      have hcompletes := (ticketing_step hs).2.1
      exact ⟨hinv.step hcompletes hk, SameClock.step hinv hcompletes hk hop hheld⟩
    · exact ⟨hmid, row, hrow, rfl, .of_eq hcompleted rfl rfl, fun _ => rfl⟩
    · exact fun e he => ⟨hafter e he, fun hun => hun e he⟩
  · have hsettled : CompletedSettled st.db := by
      refine (hrest.always (I := fun st => CompletedSettled st.db) (fun _ _ _ hinv hs hk => ?_) hmid hafter).1
      exact hinv.step (ticketing_step hs).2.1 hk
    obtain ⟨completedAt, hat⟩ := (hsettled t ht hcompleted).getEffectiveResolvedAt
    refine ⟨hsettled t ht hcompleted, fun deadline hdeadline => ⟨completedAt, hat, fun s => ?_⟩⟩
    exact (hsettled t ht hcompleted).verdictIs hcompleted hat hdeadline

/-- The office with issue 2 of eight SLA hours, and roles that may verify a resolution time. -/
def reroutingOffice (now : Int) : Services :=
  { office now with
    issueTypes := fun id =>
      if id = 2 then some { id, key := "cabling", slaHours := some 8, categoryId := some 1 } else (office now).issueTypes id
    roleCapability := fun role => { officeCapability role with isTicketResolutionTimeOverride := true } }

/-- A request with an issue that is worked on and resolved. -/
def completedRun : List (Services × Op) :=
  [(office 0, .createTicket request (officeActor 1)),
   (office 1000, .assignTicketInternal 1 { assignedToId := 2 } (officeActor 4) none),
   (office 2000, .updateTicket 1 { priority := some .high, issueTypeId := .value 1, status := some .resolved }
     (officeActor 4))]

/-- The administrator gives the resolved ticket another issue. -/
def reroutedRun : List (Services × Op) :=
  completedRun ++ [(reroutingOffice 3000, .updateTicket 1 { issueTypeId := .value 2 } (officeActor 4))]

theorem rerouted_after_completion : ¬ ∀ (history : List (Transition State (Services × Op))) (st : State),
    Run ticketing history st → ∀ e ∈ history, ∀ row ∈ e.before.db.tickets, row.status = .resolved →
      ∀ t ∈ st.db.tickets, t.id = row.id → t.slaDeadline = row.slaDeadline := by
  intro h
  have hany : ((execute reroutedRun).any fun log => ∃ e ∈ log.1, ∃ row ∈ e.before.db.tickets, row.status = .resolved ∧
      ∃ t ∈ log.2.db.tickets, t.id = row.id ∧ t.slaDeadline ≠ row.slaDeadline) = true := by decide +kernel
  obtain ⟨log, hlog, hmoved⟩ := (Option.any_eq_true _ _).mp hany
  obtain ⟨e, he, row, hrow, hresolved, t, ht, hid, hne⟩ := of_decide_eq_true hmoved
  exact hne (h _ _ (run_of_execute hlog) e he row hrow hresolved t ht hid)

/-- The completion is verified, the ticket edited and rated. -/
def verifiedRun : List (Services × Op) :=
  completedRun ++
    [(reroutingOffice 3000, .overrideResolutionTime 1 ⟨some 1500, "Seen in the log", 1⟩ (officeActor 4)),
     (office 4000, .updateTicket 1 { priority := some .low, issueTypeId := .value 1 } (officeActor 4)),
     (office 5000, .submitSatisfaction 1 { rating := some 5 } 1)]

theorem completed_sla_verdict_is_fixed_verified : ∃ log, execute verifiedRun = some log ∧ ∃ mid,
    Run ticketing (log.1.take 3) mid ∧
      (∀ row ∈ mid.db.tickets, isCompletedStatus row.status = true →
        ∃ t ∈ log.2.db.tickets, t.id = row.id ∧ SameClock row t ∧
          ((∀ e ∈ log.1.drop 3, ∀ body actor, e.label.2 ≠ .overrideResolutionTime row.id body actor) →
            t.resolutionTimeOverride = row.resolutionTimeOverride)) ∧
        ∀ t ∈ log.2.db.tickets, isCompletedStatus t.status = true → Settled t ∧
          ∀ deadline, t.slaDeadline = some deadline →
            ∃ completedAt, getEffectiveResolvedAt t.toTicketOutcome = some completedAt ∧
              ∀ s, VerdictIs s t (decide (completedAt ≤ deadline)) := by
  have hany : ((execute verifiedRun).any fun log => ∀ e ∈ log.1, KeepsVerdict e.label.1 e.before.db e.label.2) = true := by
    decide +kernel
  obtain ⟨log, hlog, hkeeps⟩ := (Option.any_eq_true _ _).mp hany
  have hkeeps := of_decide_eq_true hkeeps
  rw [← List.take_append_drop 3 log.1] at hkeeps
  obtain ⟨mid, hfirst, hrest⟩ := (run_of_execute hlog).split (List.take_append_drop 3 log.1).symm
  exact ⟨log, hlog, mid, hfirst, completed_sla_verdict_is_fixed hfirst hrest hkeeps⟩

end ComplianceHub.Tickets
