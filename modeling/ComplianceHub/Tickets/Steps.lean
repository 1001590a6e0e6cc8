import ComplianceHub.Tickets.Operation
import Mathlib.Logic.Relation

/-!
# What a completed operation does to a row

* `HandsOver` : the hand-overs of an operation, with the tickets among which the next one is looked for;
* `RowStep` : every way in which an operation changes a row;
* `Op.Completes.rows` : a completed operation files one ticket, or each row stays or takes one step. Claims about
  rows are proved by cases on the step;
* `Run.rows` : a property of rows that filing establishes and every step keeps holds in every reachable state.
-/

namespace ComplianceHub.Tickets

open ComplianceHub.Lib Relation

/-- The hand-overs of an operation: the owner whose queue moves on, and the tables without the ticket that left. -/
inductive HandsOver (s : Services) (db : Db) : Op → Nat → Db → Prop where
  | update {id owner : Nat} {dto : UpdateTicketDto} {actor : Actor} {row : Ticket} {target : TicketStatus} :
      db.ticket? id = some row → actor.role ≠ .user → dto.status = some target → isHandoffStatus target = true →
      (enrichTicket db row).assignedToId = some owner → promotesNext s (db.others id) owner = true →
      HandsOver s db (.updateTicket id dto actor) owner (db.others id)
  | assign {id owner : Nat} {dto : AssignTicketDto} {actor : Actor} {pool : Option Pool} {row : Ticket} :
      db.ticket? id = some row → (enrichTicket db row).assignedToId = some owner → owner ≠ dto.assignedToId →
      remainingActiveCount (db.others id) owner = 0 →
      HandsOver s db (.assignTicketInternal id dto actor pool) owner (db.others id)
  | correct {id owner : Nat} {dto : CorrectTicketAssigneeDto} {actor : Actor} {row : Ticket} :
      db.ticket? id = some row → row.assignedToId = some owner → owner ≠ dto.assignedToId → row.status ≠ .resolved →
      remainingActiveCount (db.others id) owner = 0 →
      HandsOver s db (.correctTicketAssignee id dto actor) owner (db.others id)
  | cancel {id owner actorId : Nat} {dto : CancelTicketDto} {row : Ticket} :
      db.ticket? id = some row → row.assignedToId = some owner → runningCount (db.others id) owner = 0 →
      HandsOver s db (.cancelTicket id dto actorId) owner (db.others id)
  | promote {owner : Nat} : HandsOver s db (.unpauseNextWaitingTicketAndSetInProgress owner) owner db

/-- The jobs that end work-schedule pauses. -/
def Op.resumesClocks : Op → Bool
  | .resumeAllActiveTickets _ _ | .resumeCwwPresentTechnicianTickets | .processOvertimeSlaSchedule => true
  | _ => false

inductive RowStep (s : Services) (db : Db) : Op → Ticket → Ticket → Prop where
  | updated {id : Nat} {dto : UpdateTicketDto} {actor : Actor} {row : Ticket} {plan : UpdatePlan} :
      db.ticket? id = some row → planUpdate s db row dto actor = .ok plan → (∀ reason, plan.persist ≠ .duplicate reason) →
      RowStep s db (.updateTicket id dto actor) row (savedRow row plan.ticket)
  | markedDuplicate {id originalId : Nat} {dto : UpdateTicketDto} {actor : Actor} {row : Ticket} :
      db.ticket? id = some row → isLiveStatus row.status = true →
      ((db.latestEscalation id).all fun e => e.status ≠ .pending && e.status ≠ .accepted) = true →
      RowStep s db (.updateTicket id dto actor) row (updatedRow row (duplicateRow originalId))
  | pushedBack {id : Nat} {dto : UpdateTicketDto} {actor : Actor} {row : Ticket} :
      row.status = .assigned → row.isSlaWaiting = false →
      RowStep s db (.updateTicket id dto actor) row
        (savedRow row { row with isSlaWaiting := true, slaPausedAt := row.slaPausedAt <|> some s.now })
  | pickedUp {id techId : Nat} {dto : UpdateTicketDto} {actor : Actor} {row t : Ticket} :
      PickedUp s techId row t → RowStep s db (.updateTicket id dto actor) row t
  | promoted {op : Op} {owner : Nat} {queue : Db} {row t : Ticket} :
      HandsOver s db op owner queue → queue.oldest (waitsFor owner) = some row → Promoted s owner row t →
      RowStep s db op row t
  | assigned {id : Nat} {dto : AssignTicketDto} {actor : Actor} {pool : Option Pool} {row : Ticket} {plan : AssignPlan} :
      db.ticket? id = some row → planAssign s db row dto actor pool = .ok plan →
      RowStep s db (.assignTicketInternal id dto actor pool) row (savedRow row plan.ticket)
  | requesterSaved {id : Nat} {dto : CorrectTicketRequesterDto} {actor : Actor} {row : Ticket} {requester : User} :
      isCorrectableStatus row.status = true → Separated row.ticketType row.assignedToId requester.id →
      RowStep s db (.correctTicketRequester id dto actor) row (savedRow row (requesterCorrected s row requester))
  | requesterUpdated {id : Nat} {dto : CorrectTicketRequesterDto} {actor : Actor} {row : Ticket} {requester : User} :
      isCorrectableStatus row.status = true → Separated row.ticketType row.assignedToId requester.id →
      RowStep s db (.correctTicketRequester id dto actor) row (updatedRow row fun row => requesterCorrected s row requester)
  | assigneeCorrected {id : Nat} {dto : CorrectTicketAssigneeDto} {actor : Actor} {row : Ticket} {plan : CorrectionPlan} :
      db.ticket? id = some row → planAssigneeCorrection s db row dto actor = .ok plan → plan.promotes = none →
      RowStep s db (.correctTicketAssignee id dto actor) row (savedRow row plan.ticket)
  | correctedAndPromoted {id : Nat} {dto : CorrectTicketAssigneeDto} {actor : Actor} {row t : Ticket}
      {plan : CorrectionPlan} :
      db.ticket? id = some row → planAssigneeCorrection s db row dto actor = .ok plan →
      plan.promotes = some dto.assignedToId → Promoted s dto.assignedToId (savedRow row plan.ticket) t →
      RowStep s db (.correctTicketAssignee id dto actor) row t
  | claimed {id : Nat} {actor : Actor} {row t : Ticket} :
      row.status = .open → row.assignedToId = none → canClaimOvertime s row actor = true →
      claimedTicket s row actor.id (busyCount db actor.id) = .ok t →
      RowStep s db (.claimOvertimeTicket id actor) row (savedRow row t)
  | unreadCleared {id : Nat} {viewer : Actor} {row : Ticket} :
      RowStep s db (.markTicketViewed id viewer) row (updatedRow row (clearUnreadColumn viewer))
  | viewed {id : Nat} {viewer : Actor} {row t : Ticket} {loaded : LoadedTicket} :
      db.ticket? id = some row → loadTicket s db row viewer = .ok loaded → opensTicket loaded.ticket viewer = true →
      openedTicket s loaded.ticket loaded.issueTypeConfig = .ok t →
      RowStep s db (.markTicketViewed id viewer) row (savedRow (updatedRow row (clearUnreadColumn viewer)) t)
  | rated {id requesterId : Nat} {dto : SubmitSatisfactionDto} {row t : Ticket} :
      ratedTicket s (enrichTicket db row) dto requesterId = .ok t →
      RowStep s db (.submitSatisfaction id dto requesterId) row (savedRow row t)
  | cancelled {id actorId : Nat} {dto : CancelTicketDto} {row : Ticket} {reason : String} :
      db.ticket? id = some row → isLiveStatus row.status = true →
      RowStep s db (.cancelTicket id dto actorId) row (updatedRow row (cancelledRow s actorId reason))
  | takenOver {ticketId escalationId actorId : Nat} {e : TicketEscalation} {row t : Ticket} :
      db.ticket? ticketId = some row → e ∈ db.escalations → e.ticketId = ticketId → e.status = .pending →
      row.status ≠ .cancelled → Tickets.takenOver s row actorId = .ok t →
      RowStep s db (.acceptEscalation ticketId escalationId actorId) row (savedRow row t)
  | resolutionTimeOverridden {id : Nat} {body : ResolutionOverride} {actor : Actor} {row : Ticket} {verified : Int} :
      db.ticket? id = some row → row.status = .resolved ∨ row.status = .closed →
      RowStep s db (.overrideResolutionTime id body actor) row
        (updatedRow row fun row => { row with resolutionTimeOverride := some verified })
  | pickedUpOnLogin {techId : Nat} {pendingType : TicketType} {row t : Ticket} :
      row.status = .open → row.assignedToId = none →
      canAutomaticallyAssign s techId (.type pendingType) row.requesterId = true →
      pickedUpTicket s row techId (busyCount db techId) (hasBreachedActiveTicket s db techId) = .ok t →
      RowStep s db (.assignPendingTicketsOnLogin techId) row (savedRow row t)
  | schedulePaused {technicianId : Option Nat} {row : Ticket} :
      isRunningClock row = true → ownedBy technicianId row = true →
      RowStep s db (.pauseAllActiveTickets technicianId) row (savedRow row (schedulePaused s db row))
  | overtimePaused {row : Ticket} :
      isRunningClock row = true →
      RowStep s db .processOvertimeSlaSchedule row (savedRow row { row with slaPausedAt := some s.now })
  | resumed {op : Op} {row t : Ticket} :
      op.resumesClocks = true → isPausedClock row = true → Resumes s row t → RowStep s db op row (savedRow row t)
  | recalculated {row t : Ticket} :
      row.status = .in_progress → Recalculates s row t →
      RowStep s db .recalculateActiveSlaDeadlines row (savedRow row t)

section
variable {s : Services} {db db₁ db' : Db}

/-- Each row stays, or takes one step. -/
abbrev RowsStep (s : Services) (op : Op) (db db' : Db) : Prop := Evolves (ReflGen (RowStep s db op)) db db'

/-! ## Hand-overs -/

section
variable {op : Op} (id : Nat) {owner : Nat}

/-- A hand-over after the ticket `id` left its owner's queue looks at the other tickets only. -/
theorem HandsOn.rowsStep (h : HandsOn s owner db₁ db') (h₁ : RowsStep s op db db₁)
    (hothers : (db₁.others id).tickets = (db.others id).tickets)
    (hmoved : ∀ t ∈ db₁.tickets, t.id = id → waitsFor owner t = false) (hover : HandsOver s db op owner (db.others id)) :
    RowsStep s op db db' := by
  cases h with
  | empty => exact h₁
  | promotes hrow hp =>
    rw [← Db.oldest_others hmoved, Db.oldest_congr hothers] at hrow
    have hdb := Db.ticket?_of_mem_others (Db.mem_of_oldest hrow).1
    refine h₁.setTicket_after ?_ (.single (.promoted hover hrow hp))
    obtain ⟨_, -, rfl⟩ := hp.eq
    exact hdb

/-- The owner who lost the ticket `id` has the work in hand and the waiting list of the other tickets. -/
theorem FreesQueue.rowsStep {previous : Option Nat} (h : FreesQueue s previous db₁ db') (h₁ : RowsStep s op db db₁)
    (hothers : (db₁.others id).tickets = (db.others id).tickets)
    (hmoved : ∀ owner ∈ previous, ∀ t ∈ db₁.tickets, t.id = id → t.assignedToId ≠ some owner)
    (hover : ∀ owner ∈ previous, remainingActiveCount (db.others id) owner = 0 →
      HandsOver s db op owner (db.others id)) : RowsStep s op db db' := by
  cases previous with
  | none => exact h ▸ h₁
  | some owner =>
    simp only [FreesQueue] at h
    have hnot := hmoved owner rfl
    split_ifs at h with hcount
    · refine HandsOn.rowsStep id h h₁ hothers (fun t ht hid => ?_) (hover owner rfl ?_)
      · simp [waitsFor, hnot t ht hid]
      · rw [← hcount, remainingActiveCount, remainingActiveCount, ← Db.count_congr hothers]
        exact Db.count_others fun t ht hid => by simp [hnot t ht hid]
    · exact h ▸ h₁

end

/-! ## The operations -/

theorem isHandoffStatus_eq_false_of_live {status : TicketStatus} (h : isHandoffStatus status = true) :
    isBusyStatus status = false ∧ status ≠ .open := by
  cases status <;> simp_all [isHandoffStatus, isBusyStatus]

theorem TerminalFreesQueue.rowsStep {op : Op} (id : Nat) {owner : Option Nat} (h : TerminalFreesQueue s owner db₁ db')
    (h₁ : RowsStep s op db db₁) (hothers : (db₁.others id).tickets = (db.others id).tickets)
    (hmoved : owner.isSome → ∀ t ∈ db₁.tickets, t.id = id → isHandoffStatus t.status = true)
    (hover : ∀ tech ∈ owner, promotesNext s (db.others id) tech = true → HandsOver s db op tech (db.others id))
    (hpick : ∀ tech row t, PickedUp s tech row t → RowStep s db op row t) : RowsStep s op db db' := by
  cases h with
  | none => exact h₁
  | idle => exact h₁
  | failed => exact h₁
  | @writes _ tech t hrow =>
    have hstatus := hmoved rfl
    have hnot : ∀ t ∈ db₁.tickets, t.id = id → isBusyStatus t.status = false ∧ t.status ≠ .open := fun t ht hid =>
      isHandoffStatus_eq_false_of_live (hstatus t ht hid)
    rcases terminalHandoffRow_eq_some s hrow with ⟨hready, row, hrow, hp⟩ | ⟨-, row, hrow, hp⟩
    · have hwaits : ∀ t ∈ db₁.tickets, t.id = id → waitsFor tech t = false := fun t ht hid => by
        have := (hnot t ht hid).1
        cases hs : t.status <;> simp_all [waitsFor, isWaitingStatus, isBusyStatus]
      have hready' : promotesNext s (db.others id) tech = true := by
        have hcount : ∀ p : Ticket → Bool, (∀ t, p t = true → isBusyStatus t.status = true) →
            (db.others id).count p = db₁.count p := fun p hp => by
          rw [← Db.count_congr hothers]
          refine Db.count_others fun t ht hid => ?_
          cases hb : p t with
          | false => rfl
          | true => exact absurd (hp t hb) (by simp [(hnot t ht hid).1])
        unfold promotesNext isFreeToPickUp remainingActiveCount at hready ⊢
        rw [hcount _ fun t ht => ?_, hcount _ fun t ht => ?_]
        · exact hready
        · cases hs : t.status <;> simp_all [isBusyStatus, isActiveTicket]
        · cases hs : t.status <;> simp_all [isBusyStatus, isActiveTicket]
      refine HandsOn.rowsStep id (.promotes hrow hp) h₁ hothers hwaits (hover tech rfl hready')
    · have hne : row.id ≠ id := fun hid => (hnot row hrow hid).2 hp.isOpen
      have hmem : row ∈ (db.others id).tickets := by
        rw [← hothers]
        exact List.mem_filter.mpr ⟨hrow, by simpa using hne⟩
      refine h₁.setTicket_after ?_ (.single (hpick tech row t hp))
      obtain ⟨slaDeadline, -, rfl⟩ := hp.eq
      obtain ⟨version, hv⟩ := savedRow_eq row (startedRow s row tech slaDeadline)
      rw [hv]
      exact Db.ticket?_of_mem_others hmem

theorem Evolves.refl_rows (op : Op) (h : db'.tickets = db.tickets) : RowsStep s op db db' :=
  .of_tickets_eq (fun _ => .refl) h

theorem Evolves.save_row {op : Op} {row t : Ticket} (hrow : db.ticket? t.id = some row)
    (h : RowStep s db op row (savedRow row t)) : RowsStep s op db (db.save t) :=
  .save (fun _ => .refl) fun row' hrow' => by
    rw [hrow, Option.some.injEq] at hrow'
    exact hrow' ▸ .single h

theorem Evolves.update_row {op : Op} {id : Nat} {row : Ticket} {f : Ticket → Ticket} (hrow : db.ticket? id = some row)
    (h : RowStep s db op row (updatedRow row f)) : RowsStep s op db (db.update id f) :=
  .update (fun _ => .refl) fun row' hrow' => by
    rw [hrow, Option.some.injEq] at hrow'
    exact hrow' ▸ .single h

/-- The row of a saved ticket. -/
theorem Db.eq_savedRow_of_mem {row t u : Ticket} (hrow : db.ticket? t.id = some row) (hu : u ∈ (db.save t).tickets)
    (hid : u.id = t.id) : u = savedRow row t := by
  obtain ⟨version, hv⟩ := savedRow_eq row t
  rw [Db.save, hrow] at hu
  rcases Db.mem_setTicket hu with rfl | ⟨-, hne⟩
  · rfl
  · rw [hv] at hne
    exact absurd hid hne

theorem Db.eq_updatedRow_of_mem {id : Nat} {row u : Ticket} {f : Ticket → Ticket} (hrow : db.ticket? id = some row)
    (hu : u ∈ (db.update id f).tickets) (hid : u.id = id) : u = updatedRow row f := by
  rw [Db.update, hrow] at hu
  rcases Db.mem_setTicket hu with rfl | ⟨-, hne⟩
  · rfl
  · rw [show (updatedRow row f).id = row.id from rfl, Db.id_of_ticket? hrow] at hne
    exact absurd hid hne

theorem savedRow_status (row t : Ticket) : (savedRow row t).status = t.status := by
  obtain ⟨version, hv⟩ := savedRow_eq row t
  rw [hv]

theorem savedRow_assignedToId (row t : Ticket) : (savedRow row t).assignedToId = t.assignedToId := by
  obtain ⟨version, hv⟩ := savedRow_eq row t
  rw [hv]

theorem savedRow_requesterId (row t : Ticket) : (savedRow row t).requesterId = t.requesterId := by
  obtain ⟨version, hv⟩ := savedRow_eq row t
  rw [hv]

theorem rowsStep_updateTicket {id : Nat} {dto : UpdateTicketDto} {actor : Actor} {t : Ticket}
    (h : Returns (updateTicket s id dto actor) db t db') : RowsStep s (.updateTicket id dto actor) db db' := by
  obtain ⟨row, plan, db₁, hrow, hplan, -, hpersist, hfree⟩ := returns_updateTicket s h
  have hid : plan.ticket.id = id := (planUpdate_id s hplan).trans (Db.id_of_ticket? hrow)
  obtain ⟨hnodup, hpushed⟩ := planUpdate_pushedBack s hplan
  have hbefore : RowsStep s (.updateTicket id dto actor) db (db.beforeSave plan) := by
    change Evolves (ReflGen (RowStep s db (.updateTicket id dto actor))) (db.justify plan.justification)
      (plan.pushedBack.foldl Db.save (db.justify plan.justification))
    refine .saveAll (fun _ => .refl) hnodup fun t ht row' hrow' => ?_
    obtain ⟨other, hmem, -, hstatus, hwaiting, rfl⟩ := hpushed t ht
    have hother : db.ticket? other.id = some row' := hrow'
    rw [Db.ticket?_of_mem hmem, Option.some.injEq] at hother
    exact hother ▸ .single (.pushedBack hstatus hwaiting)
  obtain ⟨t, htid, hdb₁, -, hcases⟩ := hpersist.row s (ticket?_beforeSave s hrow hplan)
  have hstep : RowStep s db (.updateTicket id dto actor) row t := by
    rcases hcases with ⟨hsaved, rfl⟩ | ⟨-, hlive, hlatest, originalId, rfl⟩
    · exact .updated hrow hplan hsaved
    · refine .markedDuplicate hrow hlive ?_
      rw [Db.id_of_ticket? hrow] at hlatest
      simpa [Db.latestEscalation, Db.escalationsOf, Db.beforeSave, Db.justify] using hlatest
  have hrows : (db₁.logUpdate plan).tickets = ((db.beforeSave plan).setTicket t).tickets := by
    rw [Db.logUpdate]
    split <;> exact hdb₁
  have hsaved : RowsStep s (.updateTicket id dto actor) db (db₁.logUpdate plan) :=
    (hbefore.setTicket_after (by rw [htid, hid, hrow]) (.single hstep)).congr hrows
  cases hhandoff : plan.handoff with
  | none =>
    rw [hhandoff] at hfree
    cases hfree
    exact hsaved
  | some owner =>
    have hoff := planUpdate_handoff s hplan hhandoff
    refine TerminalFreesQueue.rowsStep id (hhandoff ▸ hfree) hsaved ?_ (fun _ u hu huid => ?_) (fun tech htech hready => ?_)
      fun _ _ _ hp => .pickedUp hp
    · rw [Db.others_congr hrows, ← hid, ← htid, Db.others_setTicket, Db.others_congr]
      simp [Db.beforeSave, hoff.pushedBack, Db.justify]
    · rw [hrows] at hu
      rcases Db.mem_setTicket hu with rfl | ⟨-, hne⟩
      · rcases hcases with ⟨-, rfl⟩ | ⟨-, -, -, _, rfl⟩
        · rw [savedRow_status]
          exact hoff.isHandoff
        · rfl
      · exact absurd (huid.trans (htid.trans hid).symm) hne
    · cases htech
      exact .update hrow hoff.isStaff hoff.target hoff.isHandoff hoff.owner hready

theorem rowsStep_assignTicketInternal {id : Nat} {dto : AssignTicketDto} {actor : Actor} {pool : Option Pool} {t : Ticket}
    (h : Returns (assignTicketInternal s id dto actor pool) db t db') :
    RowsStep s (.assignTicketInternal id dto actor pool) db db' := by
  obtain ⟨row, plan, hrow, hplan, -, hfree⟩ := returns_assignTicketInternal s h
  obtain ⟨loaded, hload, -, hassigned, hprevious⟩ := planAssign_eq_ok s hplan
  obtain ⟨sla, hticket, -⟩ := assignedTicket_eq s hassigned
  have hid : plan.ticket.id = id := by
    rw [hticket]
    exact (loadTicket_loads hload).id.trans (Db.id_of_ticket? hrow)
  have hrow' : db.ticket? plan.ticket.id = some row := hid ▸ hrow
  refine FreesQueue.rowsStep id hfree (.save_row hrow' (.assigned hrow hplan)) ?_ ?_ ?_
  · rw [← hid, Db.others_save]
  · intro owner howner t ht htid
    rw [Db.eq_savedRow_of_mem hrow' ht (htid.trans hid.symm), savedRow_assignedToId, hticket]
    rw [hprevious, Option.mem_def, Option.filter_eq_some_iff] at howner
    intro heq
    exact absurd (Option.some.inj heq).symm (by simpa using howner.2)
  · intro owner howner hcount
    rw [hprevious, Option.mem_def, Option.filter_eq_some_iff] at howner
    exact .assign hrow howner.1 (by simpa using howner.2) hcount

theorem rowsStep_cancelTicket {id : Nat} {dto : CancelTicketDto} {actorId : Nat} {u : Unit}
    (h : Returns (cancelTicket s id dto actorId) db u db') : RowsStep s (.cancelTicket id dto actorId) db db' := by
  obtain ⟨row, reason, hrow, hlive, -, hfree⟩ := returns_cancelTicket s h
  have hid : row.id = id := Db.id_of_ticket? hrow
  have hcancelled : RowsStep s (.cancelTicket id dto actorId) db (Db.cancelled s db row actorId reason) :=
    (Evolves.update_row (hid ▸ hrow) (.cancelled hrow hlive)).congr rfl
  have hothers : ((Db.cancelled s db row actorId reason).others id).tickets = (db.others id).tickets := by
    rw [← Db.others_update db id (cancelledRow s actorId reason), ← hid]
    rfl
  have hmoved : ∀ t ∈ (Db.cancelled s db row actorId reason).tickets, t.id = id → t.status = .cancelled := by
    intro t ht htid
    rw [Db.eq_updatedRow_of_mem (hid ▸ hrow) ht (htid.trans hid.symm)]
    rfl
  cases howner : row.assignedToId with
  | none =>
    rw [howner] at hfree
    exact (show db' = _ from hfree) ▸ hcancelled
  | some owner =>
    simp only [howner, CancellationFreesQueue] at hfree
    split_ifs at hfree with hcount
    · rcases hfree with hon | ⟨-, rfl⟩
      · refine hon.rowsStep id hcancelled hothers (fun t ht htid => ?_) (.cancel hrow howner ?_)
        · simp [waitsFor, isWaitingStatus, hmoved t ht htid]
        · rw [← hcount, runningCount, runningCount, ← Db.count_congr hothers]
          exact Db.count_others fun t ht htid => by simp [hmoved t ht htid]
      · exact hcancelled
    · exact hfree ▸ hcancelled

theorem rowsStep_correctTicketAssignee {id : Nat} {dto : CorrectTicketAssigneeDto} {actor : Actor} {u : Unit}
    (h : Returns (correctTicketAssignee s id dto actor) db u db') :
    RowsStep s (.correctTicketAssignee id dto actor) db db' := by
  obtain ⟨row, plan, db₁, hrow, hplan, hpromotes, hfree⟩ := returns_correctTicketAssignee s h
  obtain ⟨previous, hprevious, hne, -, hcases⟩ := planAssigneeCorrection_eq_ok s hplan
  have hrowid : row.id = id := Db.id_of_ticket? hrow
  have hticket : plan.ticket.id = id ∧ plan.ticket.assignedToId = some dto.assignedToId := by
    rcases hcases with ⟨-, rfl⟩ | ⟨-, hactive, -⟩
    · exact ⟨hrowid, rfl⟩
    · obtain ⟨sla, heq, -⟩ := correctedActiveTicket_eq s hactive
      exact ⟨by rw [heq]; exact hrowid, by rw [heq]⟩
  have hrow' : db.ticket? plan.ticket.id = some row := hticket.1 ▸ hrow
  have hprev : ∀ owner ∈ plan.previousAssigneeId, row.status ≠ .resolved ∧ row.assignedToId = some owner ∧
      owner ≠ dto.assignedToId := by
    rcases hcases with ⟨-, rfl⟩ | ⟨hresolved, -, heq, -⟩
    · simp
    · rw [heq]
      rintro _ ⟨⟩
      exact ⟨hresolved, hprevious, hne⟩
  -- the queue of the previous owner is handed on last
  suffices hdb₁ : RowsStep s (.correctTicketAssignee id dto actor) db db₁ ∧
      (db₁.others id).tickets = (db.others id).tickets ∧
      ∀ t ∈ db₁.tickets, t.id = id → t.assignedToId = some dto.assignedToId by
    obtain ⟨hrows, hothers, howner⟩ := hdb₁
    refine FreesQueue.rowsStep id hfree hrows hothers (fun owner ho t ht htid heq => ?_) fun owner ho hcount => ?_
    · rw [howner t ht htid] at heq
      exact (hprev owner ho).2.2 (Option.some.inj heq).symm
    · obtain ⟨hresolved, hstored, hother⟩ := hprev owner ho
      exact .correct hrow hstored hother hresolved hcount
  have hsaved : ∀ t ∈ (db.save plan.ticket).tickets, t.id = id → t = savedRow row plan.ticket := fun t ht htid =>
    Db.eq_savedRow_of_mem hrow' ht (htid.trans hticket.1.symm)
  have hothers : ((db.save plan.ticket).others id).tickets = (db.others id).tickets := by
    rw [← hticket.1, Db.others_save]
  cases hp : plan.promotes with
  | none =>
    rw [hp] at hpromotes
    have heq : db₁ = db.save plan.ticket := hpromotes
    subst heq
    refine ⟨.save_row hrow' (.assigneeCorrected hrow hplan hp), hothers, fun t ht htid => ?_⟩
    rw [hsaved t ht htid, savedRow_assignedToId, hticket.2]
  | some owner =>
    rcases hcases with ⟨-, heq⟩ | ⟨-, hactive, -, heq⟩
    · simp [heq] at hp
    rw [hp] at heq hpromotes
    split_ifs at heq with hfree'
    simp only [Bool.and_eq_true, decide_eq_true_eq] at hfree'
    cases heq
    -- the new owner is free, so the only waiting ticket is the one that was just saved
    obtain ⟨sla, hplanned, hwaiting⟩ := correctedActiveTicket_eq s hactive
    have hnone : ∀ t ∈ (db.save plan.ticket).tickets, waitsFor dto.assignedToId t = true → t.id = id := by
      intro t ht hwaits
      by_contra hid
      have hmem : t ∈ (db.others id).tickets := hothers ▸ List.mem_filter.mpr ⟨ht, by simpa using hid⟩
      have hbusy := Db.count_eq_zero.mp hfree'.1 t (List.mem_filter.mp hmem).1
      cases hs : t.status <;> simp_all [waitsFor, isWaitingStatus, countsAsBusy, isBusyStatus]
    have hrowSaved : (db.save plan.ticket).ticket? id = some (savedRow row plan.ticket) := by
      obtain ⟨version, hv⟩ := savedRow_eq row plan.ticket
      rw [Db.save, hrow', Db.ticket?_setTicket, hv, if_pos hticket.1.symm, hrow]
      rfl
    have hwaits : waitsFor dto.assignedToId (savedRow row plan.ticket) = true := by
      obtain ⟨version, hv⟩ := savedRow_eq row plan.ticket
      rw [hv]
      simp [waitsFor, isWaitingStatus, hplanned, hwaiting, hfree'.2]
    cases hpromotes with
    | empty hempty => exact absurd hwaits (by simp [Db.oldest_eq_none.mp hempty _ (Db.mem_of_ticket? hrowSaved)])
    | @promotes row' t holdest hpromoted =>
      obtain ⟨hmem, hrowWaits⟩ := Db.mem_of_oldest holdest
      obtain rfl := hsaved row' hmem (hnone row' hmem hrowWaits)
      have htid : t.id = id ∧ t.assignedToId = some dto.assignedToId := by
        obtain ⟨_, -, rfl⟩ := hpromoted.eq
        have hid := Db.id_of_ticket? hrowSaved
        exact ⟨hid, by rw [← hticket.2, ← savedRow_assignedToId row plan.ticket]; rfl⟩
      refine ⟨.of_setTicket (fun other hother => ?_) ?_ (htid.1 ▸ hrow) (.single (.correctedAndPromoted hrow hplan hp hpromoted)),
        ?_, fun u hu huid => ?_⟩
      · rw [Db.ticket?_save_of_ne (by rw [hticket.1, ← htid.1]; exact Ne.symm hother)]
        exact Evolves.refl (fun _ => .refl) db other
      · rw [htid.1, hrowSaved]
        rfl
      · rw [← hothers, ← htid.1, Db.others_setTicket]
      · rcases Db.mem_setTicket hu with rfl | ⟨-, hother⟩
        · exact htid.2
        · exact absurd (huid.trans htid.1.symm) hother

theorem rowsStep_markTicketViewed {id : Nat} {viewer : Actor} {t : Option Ticket}
    (h : Returns (markTicketViewed s id viewer) db t db') : RowsStep s (.markTicketViewed id viewer) db db' := by
  obtain ⟨row, loaded, hrow, hload, hviewed, rfl⟩ := returns_markTicketViewed s h
  have hcleared : RowsStep s (.markTicketViewed id viewer) db (db.update id (clearUnreadColumn viewer)) :=
    .update_row hrow .unreadCleared
  unfold viewedTicket at hviewed
  split_ifs at hviewed with hopens
  · obtain ⟨t, ht, rfl⟩ := map_eq_ok.mp hviewed
    have htid : t.id = row.id := by
      obtain ⟨_, -, rfl⟩ := map_eq_ok.mp ht
      exact (loadTicket_loads hload).id
    have hid : row.id = id := Db.id_of_ticket? hrow
    have hupdated : (db.update id (clearUnreadColumn viewer)).ticket? id =
        some (updatedRow row (clearUnreadColumn viewer)) := by
      rw [Db.update, hrow, Db.ticket?_setTicket, show (updatedRow row (clearUnreadColumn viewer)).id = id from hid,
        if_pos rfl, hrow]
      rfl
    obtain ⟨version, hv⟩ := savedRow_eq (updatedRow row (clearUnreadColumn viewer)) t
    have hopened : RowsStep s (.markTicketViewed id viewer) db ((db.update id (clearUnreadColumn viewer)).setTicket
        (savedRow (updatedRow row (clearUnreadColumn viewer)) t)) := by
      refine hcleared.setTicket_after ?_ (.single (.viewed hrow hload hopens ht))
      rw [hv]
      exact (congrArg db.ticket? (htid.trans hid)).trans hrow
    refine hopened.congr ?_
    rw [Db.opened, Db.tickets_logStatus, Db.save, htid, hid, hupdated]
  · cases hviewed
    exact hcleared

theorem rowsStep_acceptEscalation {ticketId escalationId actorId : Nat} {u : Unit}
    (h : Returns (acceptEscalation s ticketId escalationId actorId) db u db') :
    RowsStep s (.acceptEscalation ticketId escalationId actorId) db db' := by
  obtain ⟨e, row, t, he, hticket, -, hpending, hrow, hcancelled, ht, rfl⟩ := returns_acceptEscalation s h
  have htid : t.id = row.id := takenOver_id s ht
  have hid : row.id = ticketId := Db.id_of_ticket? hrow
  have hanswered : RowsStep s (.acceptEscalation ticketId escalationId actorId) db
      (db.setEscalation { e with status := .accepted }) := .refl_rows _ rfl
  have hsaved : RowsStep s (.acceptEscalation ticketId escalationId actorId) db
      ((db.setEscalation { e with status := .accepted }).save t) := by
    refine hanswered.save_after ?_ ?_ (.single (.takenOver hrow he hticket hpending hcancelled ht))
    all_goals
      rw [htid, hid]
      exact hrow
  refine hsaved.congr ?_
  unfold Db.logTakeover
  split_ifs <;> rfl

/-- **The rows of a completed operation**: one ticket is filed, or each row stays or takes one step. -/
theorem Op.Completes.rows {op : Op} (h : op.Completes s db db') :
    (∃ dto caller t, op = .createTicket dto caller ∧ Filed s db { t with id := db.nextId } ∧ db' = db.insertTicket t) ∨
      RowsStep s op db db' := by
  unfold Op.Completes at h
  cases op with
  | createTicket dto caller =>
    obtain ⟨id, h⟩ := returns_ignored.mp h
    obtain ⟨t, ht, hdb⟩ := returns_createTicket h
    exact .inl ⟨dto, caller, t, rfl, ht, hdb⟩
  | updateTicket id dto actor =>
    obtain ⟨t, h⟩ := returns_ignored.mp h
    exact .inr (rowsStep_updateTicket h)
  | assignTicketInternal id dto actor pool =>
    obtain ⟨t, h⟩ := returns_ignored.mp h
    exact .inr (rowsStep_assignTicketInternal h)
  | correctTicketRequester id dto actor =>
    obtain ⟨row, requester, hrow, hstatus, hseparated, rfl | rfl⟩ := returns_correctTicketRequester s h
    · have hrowid : row.id = id := Db.id_of_ticket? hrow
      have hid : (requesterCorrected s row requester).id = id := hrowid
      exact .inr (.save_row (hid ▸ hrow) (.requesterSaved hstatus hseparated))
    · exact .inr (.update_row hrow (.requesterUpdated hstatus hseparated))
  | correctTicketAssignee id dto actor => exact .inr (rowsStep_correctTicketAssignee h)
  | claimOvertimeTicket id actor =>
    obtain ⟨t, h⟩ := returns_ignored.mp h
    obtain ⟨row, t, hrow, -, hopen, howner, hclaims, ht, rfl⟩ := returns_claimOvertimeTicket s h
    have hid : t.id = id := (claimedTicket_id s ht).trans (Db.id_of_ticket? hrow)
    exact .inr (.save_row (hid ▸ hrow) (.claimed hopen howner hclaims ht))
  | markTicketViewed id viewer =>
    obtain ⟨t, h⟩ := returns_ignored.mp h
    exact .inr (rowsStep_markTicketViewed h)
  | submitSatisfaction id dto requesterId =>
    obtain ⟨t, h⟩ := returns_ignored.mp h
    obtain ⟨row, hrow, ht, rfl⟩ := returns_submitSatisfaction s h
    have hid : t.id = id := (ratedTicket_id s ht).trans ((loads_enrichTicket db row).id.trans (Db.id_of_ticket? hrow))
    exact .inr (.save_row (hid ▸ hrow) (.rated ht))
  | cancelTicket id dto actorId => exact .inr (rowsStep_cancelTicket h)
  | escalate id dto actor =>
    obtain ⟨-, -, -, -, -, -, -, rfl⟩ := returns_escalate s h
    exact .inr (.refl_rows _ rfl)
  | acceptEscalation ticketId escalationId actorId => exact .inr (rowsStep_acceptEscalation h)
  | returnEscalation ticketId escalationId returnReason actorId =>
    obtain ⟨-, -, -, -, rfl⟩ := returns_returnEscalation h
    exact .inr (.refl_rows _ rfl)
  | overrideResolutionTime id body actor =>
    obtain ⟨row, verified, hrow, hstatus, rfl⟩ := returns_overrideResolutionTime s h
    exact .inr (.update_row hrow (.resolutionTimeOverridden hrow hstatus))
  | unpauseNextWaitingTicketAndSetInProgress techId =>
    obtain ⟨_, h⟩ := returns_ignored.mp h
    cases returns_unpauseNextWaitingTicketAndSetInProgress s h with
    | empty => exact .inr (.refl_rows _ rfl)
    | @promotes row t hrow hp =>
      have hstep : RowsStep s (.unpauseNextWaitingTicketAndSetInProgress techId) db db := .refl_rows _ rfl
      refine .inr (hstep.setTicket_after ?_ (.single (.promoted .promote hrow hp)))
      obtain ⟨_, -, rfl⟩ := hp.eq
      exact Db.ticket?_of_mem (Db.mem_of_oldest hrow).1
  | assignPendingTicketsOnLogin techId =>
    obtain rfl | ⟨t, hpickup, rfl⟩ := returns_assignPendingTicketsOnLogin s h
    · exact .inr (.refl_rows _ rfl)
    · obtain ⟨row, hmem, hopen, howner, ⟨-, pendingType, -, hgate⟩, ht⟩ := pendingPickup_eq_some s hpickup
      have hid : t.id = row.id := pickedUpTicket_id s ht
      exact .inr (.save_row (hid ▸ Db.ticket?_of_mem hmem) (.pickedUpOnLogin hopen howner hgate ht))
  | pauseAllActiveTickets technicianId =>
    obtain ⟨_, h⟩ := returns_ignored.mp h
    exact .inr (evolves_pauseAllActiveTickets s (fun _ => .refl) h fun _ _ hp howned =>
      .single (.schedulePaused hp howned)).1
  | resumeAllActiveTickets technicianId resumeAt =>
    obtain ⟨_, h⟩ := returns_ignored.mp h
    exact .inr (evolves_resumeAllActiveTickets s (fun _ => .refl) h fun _ _ hp _ hr => .single (.resumed rfl hp hr)).1
  | resumeCwwPresentTechnicianTickets =>
    obtain ⟨_, h⟩ := returns_ignored.mp h
    exact .inr (evolves_resumeCwwPresentTechnicianTickets s (fun _ => .refl) h fun _ _ hp _ hr =>
      .single (.resumed rfl hp hr)).1
  | processOvertimeSlaSchedule =>
    exact .inr (evolves_processOvertimeSlaSchedule s (fun _ => .refl) h (fun _ _ hp _ hr => .single (.resumed rfl hp hr))
      fun _ _ hp => .single (.overtimePaused hp)).1
  | recalculateActiveSlaDeadlines =>
    exact .inr (evolves_recalculateActiveSlaDeadlines s (fun _ => .refl) h fun _ _ hp _ hr =>
      .single (.recalculated hp hr)).1

/-- Each row is still there, and has stayed or taken one step. -/
theorem Op.Completes.later {op : Op} (h : op.Completes s db db') {row : Ticket} (hrow : row ∈ db.tickets) :
    ∃ t ∈ db'.tickets, t.id = row.id ∧ (t = row ∨ RowStep s db op row t) := by
  rcases h.rows with ⟨_, _, t, -, -, rfl⟩ | hrows
  · exact ⟨row, List.mem_append_left _ hrow, rfl, .inl rfl⟩
  · have r := hrows row.id
    rw [Db.ticket?_of_mem hrow] at r
    cases ht : db'.ticket? row.id with
    | none => simp [ht] at r
    | some t =>
      rw [ht] at r
      refine ⟨t, Db.mem_of_ticket? ht, Db.id_of_ticket? ht, ?_⟩
      cases Option.rel_some_some.mp r with
      | refl => exact .inl rfl
      | single hstep => exact .inr hstep

/-- Each row was filed by the operation, or was there before and has stayed or taken one step. -/
theorem Op.Completes.earlier {op : Op} (h : op.Completes s db db') {t : Ticket} (ht : t ∈ db'.tickets) :
    (Filed s db t ∧ db.ticket? t.id = none) ∨
      ∃ row ∈ db.tickets, row.id = t.id ∧ (t = row ∨ RowStep s db op row t) := by
  rcases h.rows with ⟨_, _, filed, -, hfiled, rfl⟩ | hrows
  · rcases Db.mem_insertTicket ht with hmem | rfl
    · exact .inr ⟨t, hmem, rfl, .inl rfl⟩
    · exact .inl ⟨hfiled, db.ticket?_nextId⟩
  · obtain ⟨row, hrow, hid, hstep⟩ := hrows.exists_of_mem ht
    refine .inr ⟨row, hrow, hid, ?_⟩
    cases hstep with
    | refl => exact .inl rfl
    | single hstep => exact .inr hstep

end

/-! ## Runs -/

/-- The step of a run: the operation completed, no earlier than the one before. -/
theorem ticketing_step {st st' : State} {s : Services} {op : Op} (h : ticketing.step st (s, op) st') :
    st.clock ≤ s.now ∧ op.Completes s st.db st'.db ∧ st'.clock = s.now := h

/-- A property of rows: it holds of a row as it is filed, and every step keeps it. -/
theorem Run.rows {I : Ticket → Prop} {P : Transition State (Services × Op) → Prop}
    (hfiled : ∀ s db t, Filed s db t → I t)
    (hstep : ∀ e, P e → ∀ row ∈ e.before.db.tickets, ∀ t, I row → RowStep e.label.1 e.before.db e.label.2 row t → I t)
    {history : List (Transition State (Services × Op))} {st : State} (h : Run ticketing history st)
    (hP : ∀ e ∈ history, P e) : ∀ t ∈ st.db.tickets, I t := by
  refine Run.always (I := fun st => ∀ t ∈ st.db.tickets, I t) ?_ ?_ h hP
  · intro st hinit t ht
    rw [show st.db = {} from hinit] at ht
    cases ht
  · intro st l st' hI hs hp t ht
    rcases (ticketing_step hs).2.1.earlier ht with ⟨hf, -⟩ | ⟨row, hrow, -, rfl | hrs⟩
    · exact hfiled _ _ _ hf
    · exact hI _ hrow
    · exact hstep _ hp row hrow t (hI row hrow) hrs

/-- A relation between a row and what becomes of it. -/
theorem Run.persists {R : Ticket → Ticket → Prop} (hR : ∀ t, R t t) (htrans : ∀ a b c, R a b → R b c → R a c)
    {history : List (Transition State (Services × Op))} {st : State} (h : Run ticketing history st)
    (hstep : ∀ e ∈ history, ∀ row ∈ e.before.db.tickets, ∀ t, RowStep e.label.1 e.before.db e.label.2 row t → R row t) :
    ∀ e ∈ history, ∀ row ∈ e.before.db.tickets, ∃ t ∈ st.db.tickets, t.id = row.id ∧ R row t := by
  induction h with
  | init _ => simp
  | @step history st st' l hrun hs ih =>
    have hlast : ∀ row ∈ st.db.tickets, ∃ t ∈ st'.db.tickets, t.id = row.id ∧ R row t := by
      intro row hrow
      obtain ⟨t, ht, hid, rfl | hrs⟩ := (ticketing_step hs).2.1.later hrow
      · exact ⟨t, ht, hid, hR t⟩
      · exact ⟨t, ht, hid, hstep ⟨st, l, st'⟩ (by simp) row hrow t hrs⟩
    intro e he row hrow
    rcases List.mem_append.mp he with he | he
    · obtain ⟨t, ht, hid, hRt⟩ := ih (fun e he => hstep e (List.mem_append_left _ he)) e he row hrow
      obtain ⟨t', ht', hid', hRt'⟩ := hlast t ht
      exact ⟨t', ht', hid'.trans hid, htrans _ _ _ hRt hRt'⟩
    · rw [List.mem_singleton] at he
      subst he
      exact hlast row hrow

end ComplianceHub.Tickets
