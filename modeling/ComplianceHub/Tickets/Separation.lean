import ComplianceHub.Tickets.Steps

/-!
# Nobody handles the own request

* `HandledByOther` : the owner of a ticket is not its requester, Specialized Concerns apart;
* `KeepsApart` : the steps that keep it, by what they read. A takeover is not checked, and a saved entity carries
  the owner its accepted escalation shows;
* `RowStep.handledByOther` : one step, from the people each operation writes (`planUpdate_people`, …);
* `no_one_handles_their_own_request` : every run of such steps.
-/

namespace ComplianceHub.Tickets

open ComplianceHub.Lib

/-- The owner, if any, is not the requester, Specialized Concerns apart. -/
def HandledByOther (t : Ticket) : Prop := Separated t.ticketType t.assignedToId t.requesterId

/-- What keeps requester and owner apart where the source does not check it. -/
def KeepsApart (db : Db) : Op → Prop
  | .acceptEscalation ticketId _ actorId => ∀ row ∈ db.ticket? ticketId,
      row.ticketType = .specialized_concerns ∨ actorId ≠ row.requesterId
  | .updateTicket id dto _ => ∀ row ∈ db.ticket? id, dto.status = some .open ∨ dto.status = some .duplicate ∨
      Separated (dto.ticketType.getD row.ticketType) (enrichTicket db row).assignedToId row.requesterId
  | .markTicketViewed id viewer => ∀ row ∈ db.ticket? id, opensTicket (enrichTicket db row) viewer = true →
      Separated row.ticketType (enrichTicket db row).assignedToId row.requesterId
  | .pauseAllActiveTickets technicianId => ∀ row ∈ db.tickets, isRunningClock row = true →
      ownedBy technicianId row = true → Separated row.ticketType (enrichTicket db row).assignedToId row.requesterId
  | _ => True

instance (db : Db) : (op : Op) → Decidable (KeepsApart db op)
  | .acceptEscalation .. => inferInstanceAs (Decidable (∀ row ∈ db.ticket? _, _ ∨ _))
  | .updateTicket .. => inferInstanceAs (Decidable (∀ row ∈ db.ticket? _, _ ∨ _ ∨ (_ ∨ _)))
  | .markTicketViewed .. => inferInstanceAs (Decidable (∀ row ∈ db.ticket? _, _ → (_ ∨ _)))
  | .pauseAllActiveTickets .. => inferInstanceAs (Decidable (∀ row ∈ db.tickets, _ → _ → (_ ∨ _)))
  | .createTicket .. | .assignTicketInternal .. | .correctTicketRequester .. | .correctTicketAssignee ..
  | .claimOvertimeTicket .. | .submitSatisfaction .. | .cancelTicket .. | .escalate .. | .returnEscalation ..
  | .overrideResolutionTime .. | .unpauseNextWaitingTicketAndSetInProgress .. | .assignPendingTicketsOnLogin ..
  | .resumeAllActiveTickets .. | .resumeCwwPresentTechnicianTickets | .processOvertimeSlaSchedule
  | .recalculateActiveSlaDeadlines => .isTrue trivial

section
variable {s : Services} {db : Db} {op : Op} {row t : Ticket}

/-! ## The people each operation writes -/

theorem HandledByOther.savedRow (h : HandledByOther t) (row : Ticket) : HandledByOther (savedRow row t) := by
  obtain ⟨version, hv⟩ := savedRow_eq row t
  rw [hv]
  exact h

/-- An update keeps the requester and saves the owner it read; a reset to Open looks for another one. -/
theorem planUpdate_people {dto : UpdateTicketDto} {actor : Actor} {plan : UpdatePlan}
    (h : planUpdate s db row dto actor = .ok plan) :
    plan.ticket.ticketType = dto.ticketType.getD row.ticketType ∧ plan.ticket.requesterId = row.requesterId ∧
      (dto.status ≠ some .open ∧ plan.ticket.assignedToId = (enrichTicket db row).assignedToId ∨
        dto.status = some .open ∧ ∀ owner, plan.ticket.assignedToId = some owner →
          canAutomaticallyAssign s owner (.type plan.ticket.ticketType) row.requesterId = true) := by
  obtain ⟨loaded, hload, -, ⟨hpart, hasked⟩ | hstaff⟩ := planUpdate_eq_ok s h
  · have hloads := loadTicket_loads hload
    obtain ⟨htype, hstatus⟩ := requesterOperationalUpdateRequested_eq_false hasked
    have hplan : plan.ticket.toTicketPeople = loaded.ticket.toTicketPeople ∧
        plan.ticket.toTicketRouting = loaded.ticket.toTicketRouting := by
      cases hpart with
      | close _ hplan => rw [hplan]; exact ⟨rfl, rfl⟩
      | edit _ hplan => rw [hplan]; exact ⟨rfl, rfl⟩
    rw [htype, Option.getD_none, hplan.1, hplan.2, hloads.routing]
    refine ⟨rfl, hloads.requesterId, .inl ⟨?_, hloads.assignedToId⟩⟩
    rcases hstatus with hs | hs <;> simp [hs]
  · obtain ⟨routing, _, _, _, moved, _, -, htype, -, hpart, rfl⟩ := planStaffUpdate_eq_ok s hstaff
    have hloads := loadTicket_loads hload
    have hrouting : routing.ticketType = dto.ticketType.getD row.ticketType := by
      rw [← hloads.routing]
      exact htype
    have hrequester : loaded.ticket.requesterId = row.requesterId := hloads.requesterId
    have howner : loaded.ticket.assignedToId = (enrichTicket db row).assignedToId := hloads.assignedToId
    simp only [recordTransition]
    cases hpart with
    | none hs hplan =>
      rw [hplan]
      exact ⟨hrouting, hrequester, .inl ⟨by simp [hs], howner⟩⟩
    | duplicate hs _ hdup =>
      obtain ⟨originalId, hticket⟩ := hdup.ticket
      rw [hticket]
      exact ⟨hrouting, hrequester, .inl ⟨by simp [hs], howner⟩⟩
    | @move target hs _ _ hmove =>
      have hmoved := moveTo_moved s hmove.moveTo
      have htype' : moved.ticket.ticketType = routing.ticketType := by rw [hmoved.eq]
      have hrequester' : moved.ticket.requesterId = row.requesterId := hmoved.requesterId.trans hrequester
      refine ⟨htype'.trans hrouting, hrequester', ?_⟩
      by_cases hopen : target = .open
      · refine .inr ⟨by rw [hs, hopen], fun owner ho => ?_⟩
        rw [htype', ← hrequester]
        exact hmoved.chosen hopen owner ho
      · refine .inl ⟨by rw [hs]; simpa using hopen, ?_⟩
        rw [hmoved.people hopen]
        exact howner

/-- An update to Duplicate is not saved as an entity. -/
theorem planUpdate_persist_duplicate {dto : UpdateTicketDto} {actor : Actor} {plan : UpdatePlan}
    (h : planUpdate s db row dto actor = .ok plan) (hs : dto.status = some .duplicate) :
    ∃ reason, plan.persist = .duplicate reason := by
  obtain ⟨loaded, -, -, ⟨-, hasked⟩ | hstaff⟩ := planUpdate_eq_ok s h
  · have hstatus := (requesterOperationalUpdateRequested_eq_false hasked).2
    simp [hs] at hstatus
  · obtain ⟨_, _, _, _, moved, _, -, -, -, hpart, rfl⟩ := planStaffUpdate_eq_ok s hstaff
    cases hpart with
    | none hnone _ => simp [hs] at hnone
    | duplicate _ _ hdup => exact hdup.persist
    | move htarget _ _ hmove =>
      rw [hs, Option.some.injEq] at htarget
      exact absurd htarget.symm hmove.not_duplicate

/-- No other update is written as a duplicate. -/
theorem status_of_planUpdate_persist {dto : UpdateTicketDto} {actor : Actor} {plan : UpdatePlan} {reason : String}
    (h : planUpdate s db row dto actor = .ok plan) (hpersist : plan.persist = .duplicate reason) :
    dto.status = some .duplicate := by
  obtain ⟨loaded, -, -, ⟨hpart, -⟩ | hstaff⟩ := planUpdate_eq_ok s h
  · cases hpart with
    | close _ hplan => simp [hplan] at hpersist
    | edit _ hplan => simp [hplan] at hpersist
  · obtain ⟨_, _, _, _, moved, _, -, -, -, hpart, rfl⟩ := planStaffUpdate_eq_ok s hstaff
    change moved.persist = .duplicate reason at hpersist
    cases hpart with
    | none _ hplan => simp [hplan] at hpersist
    | duplicate hs _ _ => exact hs
    | move _ _ _ hmove => simp [hmove.persist] at hpersist

theorem handledByOther_updated {id : Nat} {dto : UpdateTicketDto} {actor : Actor} {plan : UpdatePlan}
    (hrow : db.ticket? id = some row) (h : planUpdate s db row dto actor = .ok plan)
    (hsaved : ∀ reason, plan.persist ≠ .duplicate reason) (hkeeps : KeepsApart db (.updateTicket id dto actor)) :
    HandledByOther plan.ticket := by
  obtain ⟨htype, hrequester, ⟨hopen, howner⟩ | ⟨-, hchosen⟩⟩ := planUpdate_people h
  · rcases hkeeps row hrow with hs | hs | hseparated
    · exact absurd hs hopen
    · obtain ⟨reason, hpersist⟩ := planUpdate_persist_duplicate h hs
      exact absurd hpersist (hsaved reason)
    · rwa [HandledByOther, htype, howner, hrequester]
  · refine .inr fun heq => ?_
    rw [hrequester] at heq
    exact ne_requester_of_canAutomaticallyAssign s (hchosen _ heq) rfl

theorem handledByOther_assigned {dto : AssignTicketDto} {actor : Actor} {pool : Option Pool} {plan : AssignPlan}
    (h : planAssign s db row dto actor pool = .ok plan) : HandledByOther plan.ticket := by
  simp only [planAssign, bind_eq_ok] at h
  obtain ⟨loaded, -, _, hassert, t, ht, -, -, h⟩ := h
  cases h
  simp only [assertAssignable, bind_eq_ok] at hassert
  obtain ⟨-, -, -, -, -, -, _, hseparated, -⟩ := hassert
  obtain ⟨sla, rfl, -⟩ := assignedTicket_eq s ht
  exact separated_of_assert hseparated

theorem handledByOther_corrected {dto : CorrectTicketAssigneeDto} {actor : Actor} {plan : CorrectionPlan}
    (h : planAssigneeCorrection s db row dto actor = .ok plan) : HandledByOther plan.ticket := by
  have hseparated : Separated row.ticketType (some dto.assignedToId) row.requesterId := by
    simp only [planAssigneeCorrection, bind_eq_ok] at h
    obtain ⟨-, -, _, hassert, -⟩ := h
    simp only [assertAssigneeCorrection, bind_eq_ok] at hassert
    obtain ⟨-, -, -, -, hassert⟩ := hassert
    split at hassert
    · cases hassert
    · simp only [bind_eq_ok, check_eq_ok] at hassert
      obtain ⟨-, -, -, hother, -⟩ := hassert
      exact hother.imp id fun hne heq => hne (Option.some.inj heq)
  obtain ⟨_, -, -, -, ⟨-, rfl⟩ | ⟨-, hactive, -⟩⟩ := planAssigneeCorrection_eq_ok s h
  · exact hseparated
  · obtain ⟨sla, hticket, -⟩ := correctedActiveTicket_eq s hactive
    rw [hticket]
    exact hseparated

theorem Promoted.handledByOther {owner : Nat} (h : Promoted s owner row t) (hrow : HandledByOther row) :
    HandledByOther t := by
  obtain ⟨_, -, rfl⟩ := h.eq
  exact hrow

/-- The opening of a ticket saves the owner it showed. -/
theorem handledByOther_viewed {id : Nat} {viewer : Actor} {loaded : LoadedTicket} (hrow : db.ticket? id = some row)
    (hload : loadTicket s db row viewer = .ok loaded) (hopens : opensTicket loaded.ticket viewer = true)
    (ht : openedTicket s loaded.ticket loaded.issueTypeConfig = .ok t)
    (hkeeps : KeepsApart db (.markTicketViewed id viewer)) : HandledByOther t := by
  have hloads := loadTicket_loads hload
  have hshown : Separated row.ticketType (enrichTicket db row).assignedToId row.requesterId := by
    refine hkeeps row hrow ?_
    have hstatus : row.status ≠ .in_progress := by
      simp only [opensTicket, Bool.and_eq_true, decide_eq_true_eq, hloads.status] at hopens
      simp [hopens.1.1.1]
    obtain ⟨d, -, -, hticket⟩ := loadTicket_eq_of_ne_in_progress hload hstatus
    rw [hticket] at hopens
    unfold clearUnread at hopens
    split_ifs at hopens <;> exact hopens
  obtain ⟨_, -, rfl⟩ := map_eq_ok.mp ht
  change Separated loaded.ticket.ticketType loaded.ticket.assignedToId loaded.ticket.requesterId
  rwa [hloads.routing, hloads.assignedToId, hloads.requesterId]

/-- Each step that keeps requester and owner apart does so. -/
theorem RowStep.handledByOther (h : RowStep s db op row t) (hmem : row ∈ db.tickets) (hrow : HandledByOther row)
    (hkeeps : KeepsApart db op) : HandledByOther t := by
  cases h with
  | updated hid hplan hsaved => exact (handledByOther_updated hid hplan hsaved hkeeps).savedRow _
  | markedDuplicate _ _ _ => exact hrow
  | pushedBack _ _ =>
    refine HandledByOther.savedRow ?_ _
    exact hrow
  | pickedUp hp =>
    obtain ⟨_, -, rfl⟩ := hp.eq
    refine HandledByOther.savedRow (.inr fun heq => ?_) _
    exact ne_requester_of_canAutomaticallyAssign s hp.isEligible (Option.some.inj heq)
  | promoted _ _ hp => exact hp.handledByOther hrow
  | assigned _ hplan => exact (handledByOther_assigned hplan).savedRow _
  | requesterSaved _ hseparated =>
    refine HandledByOther.savedRow ?_ _
    exact hseparated
  | requesterUpdated _ hseparated => exact hseparated
  | assigneeCorrected _ hplan _ => exact (handledByOther_corrected hplan).savedRow _
  | correctedAndPromoted _ hplan _ hp => exact hp.handledByOther ((handledByOther_corrected hplan).savedRow _)
  | claimed _ _ hclaims ht =>
    obtain ⟨_, rfl, -⟩ := claimedTicket_eq s ht
    refine HandledByOther.savedRow (.inr fun heq => ?_) _
    unfold canClaimOvertime at hclaims
    split at hclaims
    · simp only [Bool.and_eq_true, decide_eq_true_eq] at hclaims
      exact hclaims.1.1.1.2 (Option.some.inj heq).symm
    · cases hclaims
  | unreadCleared =>
    unfold updatedRow clearUnreadColumn
    split_ifs <;> exact hrow
  | viewed hid hload hopens ht => exact (handledByOther_viewed hid hload hopens ht hkeeps).savedRow _
  | rated ht =>
    obtain ⟨hdone, _, _, rfl⟩ := ratedTicket_eq s ht
    rw [(loads_enrichTicket db row).status] at hdone
    have hstored : enrichTicket db row = row := by
      refine enrichTicket_of_terminal db ?_
      rcases hdone with h | h <;> simp [h, isTerminalStatus]
    refine HandledByOther.savedRow ?_ _
    rw [hstored]
    exact hrow
  | cancelled _ _ => exact hrow
  | takenOver hid _ _ _ _ ht =>
    obtain ⟨_, -, rfl⟩ := takenOver_eq s ht
    refine HandledByOther.savedRow ?_ _
    exact (hkeeps row hid).imp id fun hne heq => hne (Option.some.inj heq)
  | resolutionTimeOverridden _ _ => exact hrow
  | pickedUpOnLogin _ _ hgate ht =>
    obtain ⟨_, rfl, -⟩ := pickedUpTicket_eq s ht
    refine HandledByOther.savedRow (.inr fun heq => ?_) _
    exact ne_requester_of_canAutomaticallyAssign s hgate (Option.some.inj heq)
  | schedulePaused hrunning howned =>
    have hshown := hkeeps row hmem hrunning howned
    have hloads := loads_enrichTicket db row
    refine HandledByOther.savedRow ?_ _
    change Separated (enrichTicket db row).ticketType _ (enrichTicket db row).requesterId
    rwa [hloads.routing, hloads.requesterId]
  | overtimePaused _ =>
    refine HandledByOther.savedRow ?_ _
    exact hrow
  | resumed _ _ hr =>
    obtain ⟨_, _, -, hr⟩ := hr
    obtain ⟨_, -, _, rfl, -⟩ := applySlaResume_eq s hr
    refine HandledByOther.savedRow ?_ _
    exact hrow
  | recalculated _ hr =>
    obtain ⟨_, -, hr⟩ := hr
    obtain ⟨-, _, _, -, -, -, rfl⟩ := recalculated_eq_some s hr
    refine HandledByOther.savedRow ?_ _
    exact hrow

end

/-! ## Runs -/

/-- **No one handles the own request**, in every run whose takeovers and saves keep requester and owner apart. -/
theorem no_one_handles_their_own_request {history : List (Transition State (Services × Op))} {st : State}
    (h : Run ticketing history st) (hkeeps : ∀ e ∈ history, KeepsApart e.before.db e.label.2) :
    ∀ t ∈ st.db.tickets, t.ticketType ≠ .specialized_concerns → ∀ owner, t.assignedToId = some owner →
      owner ≠ t.requesterId := by
  have hall : ∀ t ∈ st.db.tickets, HandledByOther t :=
    Run.rows (fun _ _ _ hfiled => hfiled.separated)
      (fun _ hk _ hmem _ hrow hstep => hstep.handledByOther hmem hrow hk) h hkeeps
  intro t ht htype owner howner heq
  refine (hall t ht).elim htype fun hne => hne ?_
  rw [howner, heq]

/-- Technician 3 asks for help; the administrator escalates the ticket to the same technician, who accepts. -/
def ownRequestRun : List (Services × Op) :=
  [(office 0, .createTicket { request with issueTypeId := some 1 } (officeActor 3)),
   (office 1000, .escalate 1 { escalatedToId := 3 } (officeActor 4)),
   (office 2000, .acceptEscalation 1 1 3)]

theorem takeover_of_the_own_request : ¬ ∀ (history : List (Transition State (Services × Op))) (st : State),
    Run ticketing history st → ∀ t ∈ st.db.tickets, t.ticketType ≠ .specialized_concerns →
      ∀ owner, t.assignedToId = some owner → owner ≠ t.requesterId := by
  intro h
  have hany : ((execute ownRequestRun).any fun log => ∃ t ∈ log.2.db.tickets,
      t.ticketType = .it_support ∧ t.assignedToId = some 3 ∧ t.requesterId = 3) = true := by decide +kernel
  obtain ⟨log, hlog, hticket⟩ := (Option.any_eq_true _ _).mp hany
  obtain ⟨t, ht, htype, howner, hrequester⟩ := of_decide_eq_true hticket
  exact h _ _ (run_of_execute hlog) t ht (by simp [htype]) 3 howner hrequester.symm

/-- A request that is assigned, escalated and taken over. -/
def takenOverRun : List (Services × Op) :=
  [(office 0, .createTicket request (officeActor 1)),
   (office 1000, .assignTicketInternal 1 { assignedToId := 2 } (officeActor 4) none),
   (office 2000, .escalate 1 { escalatedToId := 3 } (officeActor 4)),
   (office 3000, .acceptEscalation 1 1 3),
   (office 4000, .updateTicket 1 { priority := some .high } (officeActor 3))]

theorem no_one_handles_their_own_request_takenOver : ∃ log, execute takenOverRun = some log ∧
    ∀ t ∈ log.2.db.tickets, t.ticketType ≠ .specialized_concerns → ∀ owner, t.assignedToId = some owner →
      owner ≠ t.requesterId := by
  have hany : ((execute takenOverRun).any fun log => ∀ e ∈ log.1, KeepsApart e.before.db e.label.2) = true := by
    decide +kernel
  obtain ⟨log, hlog, hkeeps⟩ := (Option.any_eq_true _ _).mp hany
  exact ⟨log, hlog, no_one_handles_their_own_request (run_of_execute hlog) (of_decide_eq_true hkeeps)⟩

end ComplianceHub.Tickets
