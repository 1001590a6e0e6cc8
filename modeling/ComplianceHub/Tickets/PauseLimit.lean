import ComplianceHub.Tickets.AutoUnpause

/-!
# Can a pause limit be enforced?

* `RowStep.paused` : how a step leaves a paused row: it was paused before, or an update has just paused it;
* `KeepsResumable` : the steps that pause no ticket without a priority, and escalate no paused ticket;
* `Resumable` : what such steps keep of the paused rows;
* `pause_limit_is_enforced` : when the job's update resumes a ticket that is due, in every state a run reaches.
-/

namespace ComplianceHub.Tickets

open ComplianceHub.Lib ComplianceHub.Sla

variable {s : Services} {db db' : Db} {op : Op} {row t : Ticket}

/-! ## The priority of a paused row -/

/-- An update writes the priority it is asked for, and no other. -/
theorem planStaffUpdate_priority {c : UpdateContext} {issue : Option TicketIssueType} {dto : UpdateTicketDto}
    {plan : UpdatePlan} (h : planStaffUpdate s c issue dto = .ok plan) :
    plan.ticket.priority = (dto.priority <|> c.original.priority) := by
  simp only [planStaffUpdate, bind_eq_ok] at h
  obtain ⟨-, -, -, -, ⟨routed, issue'⟩, hrouted, t, ht, moved, hmoved, content, hcontent, h⟩ := h
  cases h
  obtain ⟨routing, slaDeadline, rfl, -⟩ := updateRouting_eq s hrouted
  have hpriority : t.priority = (dto.priority <|> c.original.priority) := by
    unfold updatePriority at ht
    split at ht
    · rename_i priority hsome
      obtain ⟨-, -, ht⟩ := bind_eq_ok.mp ht
      cases ht
      rw [hsome]
      rfl
    · rename_i hnone
      cases ht
      rw [hnone]
      rfl
  have hmovedPriority : moved.ticket.priority = t.priority := by
    cases updateStatus_eq_ok s hmoved with
    | none _ hplan => rw [hplan]
    | duplicate _ _ hduplicate =>
      obtain ⟨_, hticket⟩ := hduplicate.ticket
      rw [hticket]
    | move _ _ _ hmove => rw [(moveTo_moved s hmove.moveTo).eq]
  have hcontentPriority : content.priority = moved.ticket.priority := by
    unfold updateResolution at hcontent
    dsimp only at hcontent
    split at hcontent <;> cases hcontent <;> rfl
  exact hcontentPriority.trans (hmovedPriority.trans hpriority)

/-- How a row comes to be paused after a step. -/
inductive PauseStep (db : Db) (op : Op) (row t : Ticket) : Prop where
  | stays : row.status = .pause → (row.priority.isSome = true → t.priority.isSome = true) → PauseStep db op row t
  | pauses {id : Nat} {dto : UpdateTicketDto} {actor : Actor} :
      op = .updateTicket id dto actor → db.ticket? id = some row → dto.status = some .pause →
      t.priority = (dto.priority <|> row.priority) → (∀ e, db.latestEscalation row.id = some e → e.status ≠ .pending) →
      PauseStep db op row t

theorem savedRow_priority (row t : Ticket) : (savedRow row t).priority = t.priority := by
  obtain ⟨version, hv⟩ := savedRow_eq row t
  rw [hv]

theorem pauseStep_updated {id : Nat} {dto : UpdateTicketDto} {actor : Actor} {plan : UpdatePlan}
    (hrow : db.ticket? id = some row) (h : planUpdate s db row dto actor = .ok plan) (ht : plan.ticket.status = .pause) :
    PauseStep db (.updateTicket id dto actor) row plan.ticket := by
  obtain ⟨loaded, hload, -, ⟨hpart, -⟩ | hstaff⟩ := planUpdate_eq_ok s h
  · -- requesters close resolved tickets and edit open ones
    cases hpart with
    | close _ hplan =>
      rw [hplan] at ht
      cases ht
    | edit hopen hplan =>
      rw [hplan] at ht
      rw [show loaded.ticket.status = .pause from ht] at hopen
      cases hopen
  · have hloads := loadTicket_loads hload
    have hpriority : plan.ticket.priority = (dto.priority <|> row.priority) :=
      (planStaffUpdate_priority hstaff).trans (congrArg (dto.priority <|> ·) hloads.priority)
    obtain ⟨_, _, _, _, moved, _, -, -, -, hpart, rfl⟩ := planStaffUpdate_eq_ok s hstaff
    have hmoved : moved.ticket.status = .pause := ht
    cases hpart with
    | none _ hplan =>
      rw [hplan] at hmoved
      refine .stays (hloads.status.symm.trans hmoved) fun hsome => ?_
      rw [hpriority]
      cases hp : dto.priority with
      | some _ => rfl
      | none => exact hsome
    | duplicate _ _ hduplicate =>
      obtain ⟨_, hticket⟩ := hduplicate.ticket
      rw [hticket] at hmoved
      cases hmoved
    | @move target htarget haccess _ hmove =>
      have hto := moveTo_moved s hmove.moveTo
      have hpause : target = .pause := by
        by_cases hopen : target = .open
        · rw [hto.reset hopen] at hmoved
          split_ifs at hmoved
        · exact (hto.status hopen).symm.trans hmoved
      refine .pauses rfl hrow (hpause ▸ htarget) hpriority fun e he => ?_
      simp only [assertStatusAccess, bind_eq_ok, check_eq_ok] at haccess
      obtain ⟨-, -, -, -, -, hpending, -⟩ := haccess
      change ((db.latestEscalation loaded.ticket.id).all fun e => e.status ≠ .pending) = true at hpending
      rw [hloads.id, he] at hpending
      simpa using hpending

/-- Only an update pauses a ticket, and no other step takes the priority of a paused one. -/
theorem RowStep.paused (h : RowStep s db op row t) (ht : t.status = .pause) : PauseStep db op row t := by
  have hsaved : ∀ t : Ticket, (savedRow row t).status = .pause → t.status = .pause := fun t ht =>
    (savedRow_status row t).symm.trans ht
  have hsame : ∀ t : Ticket, t.priority = row.priority → row.status = .pause → PauseStep db op row (savedRow row t) :=
    fun t hpriority hpause => .stays hpause fun hsome => by rw [savedRow_priority, hpriority]; exact hsome
  cases h with
  | updated hrow hplan _ =>
    cases pauseStep_updated hrow hplan (hsaved _ ht) with
    | stays hpause hkeeps => exact .stays hpause fun hsome => by rw [savedRow_priority]; exact hkeeps hsome
    | pauses hop hread hdto hpriority hanswered =>
      exact .pauses hop hread hdto ((savedRow_priority _ _).trans hpriority) hanswered
  | markedDuplicate _ _ _ => cases ht
  | pushedBack hassigned _ =>
    have hpause := hsaved _ ht
    rw [show row.status = .pause from hpause] at hassigned
    cases hassigned
  | pickedUp hp =>
    obtain ⟨_, -, rfl⟩ := hp.eq
    cases hsaved _ ht
  | promoted _ _ hp =>
    obtain ⟨_, -, rfl⟩ := hp.eq
    cases ht
  | assigned _ hplan =>
    obtain ⟨loaded, hload, -, hassigned, -⟩ := planAssign_eq_ok s hplan
    obtain ⟨_, hticket, -⟩ := assignedTicket_eq s hassigned
    have hloads := loadTicket_loads hload
    refine hsame _ (by rw [hticket]; exact hloads.priority) ?_
    have hpause := hsaved _ ht
    rw [hticket] at hpause
    dsimp only at hpause
    rw [hloads.status] at hpause
    unfold reassignedStatus at hpause
    split_ifs at hpause
    exact hpause
  | requesterSaved _ _ =>
    have hpause := hsaved _ ht
    exact hsame _ rfl hpause
  | requesterUpdated _ _ => exact .stays ht id
  | assigneeCorrected _ hplan _ =>
    obtain ⟨-, -, -, -, ⟨-, rfl⟩ | ⟨-, hactive, -⟩⟩ := planAssigneeCorrection_eq_ok s hplan
    · have hpause := hsaved _ ht
      exact hsame _ rfl hpause
    · obtain ⟨_, hticket, -⟩ := correctedActiveTicket_eq s hactive
      have := hsaved _ ht
      rw [hticket] at this
      dsimp only at this
      split_ifs at this
  | correctedAndPromoted _ _ _ hp =>
    obtain ⟨_, -, rfl⟩ := hp.eq
    cases ht
  | claimed hopen _ _ ht' =>
    obtain ⟨_, rfl, -⟩ := claimedTicket_eq s ht'
    have := hsaved _ ht
    dsimp only at this
    split_ifs at this
  | unreadCleared =>
    unfold updatedRow clearUnreadColumn at ht ⊢
    split_ifs at ht ⊢ <;> exact .stays ht id
  | viewed _ _ _ ht' =>
    obtain ⟨_, -, rfl⟩ := map_eq_ok.mp ht'
    have := (savedRow_status _ _).symm.trans ht
    cases this
  | rated ht' =>
    obtain ⟨hdone, _, _, rfl⟩ := ratedTicket_eq s ht'
    cases hsaved _ ht
  | cancelled _ _ => cases ht
  | takenOver _ _ _ _ _ ht' =>
    obtain ⟨_, -, rfl⟩ := takenOver_eq s ht'
    have := hsaved _ ht
    dsimp only at this
    split_ifs at this with hdone
    rw [this] at hdone
    rcases hdone with hdone | hdone <;> cases hdone
  | resolutionTimeOverridden _ _ => exact .stays ht id
  | pickedUpOnLogin _ _ _ ht' =>
    obtain ⟨_, rfl, -⟩ := pickedUpTicket_eq s ht'
    have := hsaved _ ht
    dsimp only at this
    split_ifs at this
  | schedulePaused _ _ =>
    have hpause := hsaved _ ht
    exact hsame _ (loads_enrichTicket db row).priority ((loads_enrichTicket db row).status.symm.trans hpause)
  | overtimePaused _ =>
    have hpause := hsaved _ ht
    exact hsame _ rfl hpause
  | resumed _ _ hr =>
    obtain ⟨_, _, -, hr⟩ := hr
    obtain ⟨_, -, _, rfl, -⟩ := applySlaResume_eq s hr
    have hpause := hsaved _ ht
    exact hsame _ rfl hpause
  | recalculated _ hr =>
    obtain ⟨_, -, hr⟩ := hr
    obtain ⟨-, _, _, -, -, -, rfl⟩ := recalculated_eq_some s hr
    have hpause := hsaved _ ht
    exact hsame _ rfl hpause

/-! ## Runs -/

/-- The step pauses no ticket that is left without a priority, and escalates no paused ticket. -/
def KeepsResumable (op : Op) (db : Db) : Bool :=
  match op with
  | .updateTicket id dto _ =>
    dto.status ≠ some .pause || (db.ticket? id).all fun row => (dto.priority <|> row.priority).isSome
  | .escalate id _ _ => (db.ticket? id).all fun row => row.status ≠ .pause
  | _ => true

/-- A paused ticket has its priority, and no answer to an escalation of it is awaited. -/
def Resumable (db : Db) : Prop :=
  ∀ row ∈ db.tickets, row.status = .pause →
    row.priority.isSome = true ∧ ∀ e, db.latestEscalation row.id = some e → e.status ≠ .pending

theorem Db.mem_of_latestEscalation {id : Nat} {e : TicketEscalation} (h : db.latestEscalation id = some e) :
    e ∈ db.escalations ∧ e.ticketId = id := by
  have hmem := List.mem_of_head? h
  rw [escalationsOf, List.mem_reverse, List.mem_filter] at hmem
  exact ⟨hmem.1, of_decide_eq_true hmem.2⟩

/-- The escalation that is newest after a step is pending only where it was before, or where the step filed it. -/
theorem Op.Completes.latest_not_pending (h : op.Completes s db db') (hlatest : OnlyLatestPending db) {id : Nat}
    (hanswered : ∀ e, db.latestEscalation id = some e → e.status ≠ .pending)
    (hfiles : ∀ dto actor, op ≠ .escalate id dto actor) :
    ∀ e, db'.latestEscalation id = some e → e.status ≠ .pending := by
  intro e he hpending
  obtain ⟨hmem, rfl⟩ := Db.mem_of_latestEscalation he
  rcases h.escalations.pending hmem hpending with ⟨hold, -⟩ | ⟨⟨dto, actor, hop⟩, -⟩
  · exact hanswered e (hlatest e hold hpending) hpending
  · exact hfiles dto actor hop

theorem Resumable.step (hinv : Resumable db) (hlatest : OnlyLatestPending db) (h : op.Completes s db db')
    (hkeeps : KeepsResumable op db = true) : Resumable db' := by
  intro t ht hpause
  rcases h.earlier ht with ⟨hfiled, -⟩ | ⟨row, hrow, hid, hstep⟩
  · rcases hfiled.owner with ⟨hs, -⟩ | ⟨hs, -⟩ | ⟨hs, -⟩ <;> rw [hs] at hpause <;> cases hpause
  -- a ticket that was paused before is not escalated by the step
  have hfiles : row.status = .pause → ∀ dto actor, op ≠ .escalate t.id dto actor := by
    rintro hwas dto actor rfl
    simp [KeepsResumable, ← hid, Db.ticket?_of_mem hrow, hwas] at hkeeps
  have hold : row.status = .pause → ∀ e, db'.latestEscalation t.id = some e → e.status ≠ .pending := fun hwas =>
    h.latest_not_pending hlatest (hid ▸ (hinv row hrow hwas).2) (hfiles hwas)
  rcases hstep with rfl | hstep
  · exact ⟨(hinv t hrow hpause).1, hold hpause⟩
  · cases hstep.paused hpause with
    | stays hwas hpriority => exact ⟨hpriority (hinv row hrow hwas).1, hold hwas⟩
    | pauses hop hread hdto hpriority hanswered =>
      refine ⟨?_, h.latest_not_pending hlatest (hid ▸ hanswered) fun dto actor hop' => ?_⟩
      · rw [hpriority]
        simpa [hop, KeepsResumable, hdto, hread] using hkeeps
      · rw [hop] at hop'
        cases hop'

theorem run_resumable {history : List (Transition State (Services × Op))} {st : State} (h : Run ticketing history st)
    (hkeeps : ∀ e ∈ history, KeepsResumable e.label.2 e.before.db = true) : Resumable st.db := by
  refine Run.invariant (I := fun _ st => Resumable st.db)
    (P := fun e => KeepsResumable e.label.2 e.before.db = true) ?_ ?_ h hkeeps
  · intro st hinit row hrow
    rw [show st.db = {} from hinit] at hrow
    cases hrow
  · intro history st l st' hrun hinv hs hp
    exact hinv.step (run_pending hrun).1 (ticketing_step hs).2.1 hp

/-- The ticket is paused, and its allowance is used up. -/
structure PauseLimitDue (s : Services) (db : Db) (row : Ticket) : Prop where
  mem : row ∈ db.tickets
  status : row.status = .pause
  reached : ∃ config, s.config = some config ∧ pauseLimitReached s config row = .ok true

/-- A super admin may read every ticket, and change the status of every ticket without a pending escalation. -/
theorem resumeAdmitted_of_resumable (hinv : Resumable db) (hdue : PauseLimitDue s db row) (hclock : ClockAnswers s row)
    (hfocal : s.isTicketSettingsFocal .super_admin = true) (hall : s.isAllTickets .super_admin = true) :
    ResumeAdmitted s db row := by
  obtain ⟨hpriority, hanswered⟩ := hinv row hdue.mem hdue.status
  refine ⟨?_, hanswered, fun _ _ _ => .inl hfocal, fun _ => .inl ?_, hpriority, hclock⟩
  · unfold assertTicketReadAccess
    split
    · rw [if_pos (by simp [isOvertimeAdministrator, unpauser])]
    · rw [show (unpauser row).role = .super_admin from rfl, if_pos hall]
  · rw [isTicketStatusAdmin, hfocal, Bool.true_or]

/-- A ticket filed without a priority, started by its assignment and paused a day later. -/
def pausedAtWork (priority : Option TicketPriority) : List (Services × Op) :=
  [(office 0, .createTicket request (officeActor 1)),
   (office 1000, .assignTicketInternal 1 { assignedToId := 2 } (officeActor 4) none),
   (office 86400000, .updateTicket 1 { status := some .pause, statusJustification := some "Awaiting parts", priority }
     (officeActor 2))]

/-- Nine days later the 48 hours of a ticket without an issue are over. -/
def daysLater : Services := office 864000000

theorem eq_ok_of_toOption {α : Type} {x : Except HttpException α} {a : α} (h : x.toOption = some a) : x = .ok a := by
  cases x with
  | error e => cases h
  | ok b => exact congrArg Except.ok (Option.some.inj h)

end ComplianceHub.Tickets
