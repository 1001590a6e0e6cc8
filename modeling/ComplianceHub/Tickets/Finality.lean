import ComplianceHub.Tickets.Steps

/-!
# Terminal outcomes are final

* `StatusStep` : what a step does to the status of its row;
* `OnlyLatestPending`, `PendingIsActive` : the invariants on which the finality of an outcome rests;
* `KeepsOutcome`, `terminal_outcomes_are_final` : a ticket keeps its outcome through every run.
-/

namespace ComplianceHub.Tickets

open ComplianceHub.Lib

/-! ## Statuses -/

/-- What a step does to the status of its row. -/
inductive StatusStep (db : Db) (op : Op) (row t : Ticket) : Prop where
  | same : t.status = row.status → StatusStep db op row t
  | works : isTerminalStatus row.status = false → isTerminalStatus t.status = false → StatusStep db op row t
  | settles : isTerminalStatus row.status = false → (∀ e ∈ db.latestEscalation row.id, e.status ≠ .pending) →
      StatusStep db op row t
  | cancels {dto : CancelTicketDto} {actorId : Nat} : isTerminalStatus row.status = false →
      op = .cancelTicket row.id dto actorId → StatusStep db op row t
  | closes : row.status = .resolved → t.status = .closed → StatusStep db op row t
  | takesOver {e : TicketEscalation} : e ∈ db.escalations → e.ticketId = row.id → e.status = .pending →
      row.status ≠ .resolved → t.status = .in_progress → StatusStep db op row t

section
variable {s : Services} {db : Db} {op : Op} {row t : Ticket}

theorem StatusStep.congr {t' : Ticket} (h : StatusStep db op row t) (ht : t'.status = t.status) :
    StatusStep db op row t' := by
  cases h with
  | same h => exact .same (ht.trans h)
  | works h h' => exact .works h (ht ▸ h')
  | settles h h' => exact .settles h h'
  | cancels h h' => exact .cancels h h'
  | closes h h' => exact .closes h (ht.trans h')
  | takesOver he hticket hpending hne h => exact .takesOver he hticket hpending hne (ht.trans h)

theorem statusStep_updated {dto : UpdateTicketDto} {actor : Actor} {plan : UpdatePlan}
    (h : planUpdate s db row dto actor = .ok plan) (hsaved : ∀ reason, plan.persist ≠ .duplicate reason) :
    StatusStep db op row plan.ticket := by
  obtain ⟨loaded, hload, -, ⟨hpart, -⟩ | hstaff⟩ := planUpdate_eq_ok s h
  · have hstatus := (loadTicket_loads hload).status
    cases hpart with
    | close hresolved hplan =>
      rw [hplan]
      exact .closes (hstatus ▸ hresolved) rfl
    | edit _ hplan =>
      rw [hplan]
      exact .same hstatus
  · obtain ⟨_, _, _, _, moved, _, -, -, -, hpart, rfl⟩ := planStaffUpdate_eq_ok s hstaff
    have hstatus : loaded.ticket.status = row.status := (loadTicket_loads hload).status
    have hid : loaded.ticket.id = row.id := (loadTicket_loads hload).id
    cases hpart with
    | none _ hplan =>
      rw [hplan]
      exact .same hstatus
    | duplicate _ _ hdup =>
      obtain ⟨reason, hpersist⟩ := hdup.persist
      exact absurd hpersist (hsaved reason)
    | @move target _ haccess hallowed hmove =>
      have hmoved := moveTo_moved s hmove.moveTo
      have hmem := mem_allowedTransitions_of_allowedFor hallowed
      change target ∈ allowedTransitions _ _ _ loaded.ticket.status at hmem
      rw [hstatus] at hmem
      cases hterminal : isTerminalStatus row.status with
      | true =>
        obtain ⟨hresolved, rfl⟩ := mem_allowedTransitions_of_terminal hterminal hmem
        exact .closes hresolved (hmoved.status (by decide))
      | false =>
        simp only [assertStatusAccess, bind_eq_ok, check_eq_ok] at haccess
        obtain ⟨-, -, -, -, -, hpending, -⟩ := haccess
        refine .settles hterminal fun e he => ?_
        change ((db.latestEscalation loaded.ticket.id).all fun e => e.status ≠ .pending) = true at hpending
        rw [hid, Option.mem_def.mp he] at hpending
        simpa using hpending

theorem RowStep.status (h : RowStep s db op row t) : StatusStep db op row t := by
  cases h with
  | updated _ hplan hsaved => exact (statusStep_updated hplan hsaved).congr (savedRow_status _ _)
  | markedDuplicate hid hlive hlatest =>
    refine .settles (isTerminalStatus_of_live hlive) fun e he => ?_
    rw [← Db.id_of_ticket? hid, Option.mem_def.mp he] at hlatest
    simp_all
  | pushedBack _ _ => exact .same (savedRow_status _ _)
  | pickedUp hp =>
    obtain ⟨_, -, rfl⟩ := hp.eq
    exact .works (by simp [hp.isOpen, isTerminalStatus]) (by rw [savedRow_status]; rfl)
  | promoted _ _ hp =>
    obtain ⟨_, -, rfl⟩ := hp.eq
    have hwaits := hp.waits
    refine .works ?_ rfl
    cases hs : row.status <;> simp_all [waitsFor, isWaitingStatus, isTerminalStatus]
  | assigned _ hplan =>
    obtain ⟨loaded, hload, hterminal, hassigned, -⟩ := planAssign_eq_ok s hplan
    obtain ⟨_, hticket, -⟩ := assignedTicket_eq s hassigned
    refine .works hterminal ?_
    rw [savedRow_status, hticket]
    exact isTerminalStatus_reassigned ((loadTicket_loads hload).status ▸ hterminal) _
  | requesterSaved _ _ => exact .same (savedRow_status _ _)
  | requesterUpdated _ _ => exact .same rfl
  | assigneeCorrected _ hplan _ =>
    obtain ⟨-, -, -, hstatus, ⟨-, rfl⟩ | ⟨hresolved, hactive, -⟩⟩ := planAssigneeCorrection_eq_ok s hplan
    · exact .same (savedRow_status _ _)
    · obtain ⟨_, hticket, -⟩ := correctedActiveTicket_eq s hactive
      refine .works ?_ ?_
      · cases hs : row.status <;> simp_all [isCorrectableStatus, isTerminalStatus]
      · rw [savedRow_status, hticket]
        split_ifs <;> rfl
  | correctedAndPromoted _ hplan hpromotes hp =>
    obtain ⟨-, -, -, hstatus, ⟨-, rfl⟩ | ⟨hresolved, -⟩⟩ := planAssigneeCorrection_eq_ok s hplan
    · cases hpromotes
    · obtain ⟨_, -, rfl⟩ := hp.eq
      refine .works ?_ rfl
      cases hs : row.status <;> simp_all [isCorrectableStatus, isTerminalStatus]
  | claimed hopen _ _ ht =>
    obtain ⟨_, rfl, -⟩ := claimedTicket_eq s ht
    refine .works (by simp [hopen, isTerminalStatus]) ?_
    rw [savedRow_status]
    dsimp only
    split_ifs <;> rfl
  | unreadCleared =>
    refine .same ?_
    unfold updatedRow clearUnreadColumn
    split_ifs <;> rfl
  | viewed _ hload hopens ht =>
    obtain ⟨_, -, rfl⟩ := map_eq_ok.mp ht
    simp only [opensTicket, Bool.and_eq_true, decide_eq_true_eq, (loadTicket_loads hload).status] at hopens
    exact .works (by simp [hopens, isTerminalStatus]) (by rw [savedRow_status]; rfl)
  | rated ht =>
    obtain ⟨hdone, _, _, rfl⟩ := ratedTicket_eq s ht
    rw [(loads_enrichTicket db row).status] at hdone
    rcases hdone with hresolved | hclosed
    · exact .closes hresolved (savedRow_status _ _)
    · exact .same ((savedRow_status _ _).trans hclosed.symm)
  | cancelled hid hlive => exact .cancels (isTerminalStatus_of_live hlive) (by rw [Db.id_of_ticket? hid])
  | takenOver hid he hticket hpending _ ht =>
    obtain ⟨_, -, rfl⟩ := takenOver_eq s ht
    by_cases hdone : row.status = .resolved ∨ row.status = .closed
    · exact .same (by rw [savedRow_status]; exact if_pos hdone)
    · refine .takesOver he (hticket.trans (Db.id_of_ticket? hid).symm) hpending (fun h => hdone (.inl h)) ?_
      rw [savedRow_status]
      exact if_neg hdone
  | resolutionTimeOverridden _ _ => exact .same rfl
  | pickedUpOnLogin hopen _ _ ht =>
    obtain ⟨_, rfl, -⟩ := pickedUpTicket_eq s ht
    refine .works (by simp [hopen, isTerminalStatus]) ?_
    rw [savedRow_status]
    dsimp only
    split_ifs <;> rfl
  | schedulePaused _ _ => exact .same ((savedRow_status _ _).trans (loads_enrichTicket db row).status)
  | overtimePaused _ => exact .same (savedRow_status _ _)
  | resumed _ _ hr =>
    obtain ⟨_, _, -, hr⟩ := hr
    obtain ⟨_, -, _, rfl, -⟩ := applySlaResume_eq s hr
    exact .same (savedRow_status _ _)
  | recalculated _ hr =>
    obtain ⟨_, -, hr⟩ := hr
    obtain ⟨-, _, _, -, -, -, rfl⟩ := recalculated_eq_some s hr
    exact .same (savedRow_status _ _)

end

/-! ## Escalations -/

/-- The ticket an operation cancels. -/
def Op.cancelledId : Op → Option Nat
  | .cancelTicket id _ _ => some id
  | _ => none

/-- What an operation does to the escalations. -/
inductive EscalationStep (db : Db) (op : Op) : List TicketEscalation → Prop where
  | same : op.cancelledId = none → EscalationStep db op db.escalations
  | escalated {dto : EscalateTicketDto} {actor : Actor} {row : Ticket} {e : TicketEscalation} :
      op = .escalate e.ticketId dto actor → db.ticket? e.ticketId = some row → isTerminalStatus row.status = false → (∀ latest ∈ db.latestEscalation e.ticketId, latest.status ≠ .pending) →
      EscalationStep db op (db.insertEscalation e).escalations
  | answered {e : TicketEscalation} {status : EscalationStatus} {returnReason : Option String} :
      op.cancelledId = none → e ∈ db.escalations → status ≠ .pending →
      EscalationStep db op (db.setEscalation { e with status, returnReason }).escalations
  | cancelled {id : Nat} : op.cancelledId = some id → EscalationStep db op (db.cancelEscalations id).escalations

section
variable {s : Services} {db db' : Db} {op : Op}

theorem FreesQueue.escalations {owner : Option Nat} (h : FreesQueue s owner db db') :
    db'.escalations = db.escalations := by
  unfold FreesQueue at h
  split at h
  · split_ifs at h
    · exact HandsOn.escalations h
    · rw [h]
  · rw [h]

theorem TerminalFreesQueue.escalations {owner : Option Nat} (h : TerminalFreesQueue s owner db db') :
    db'.escalations = db.escalations := by
  cases h <;> rfl

theorem CancellationFreesQueue.escalations {owner : Option Nat} (h : CancellationFreesQueue s owner db db') :
    db'.escalations = db.escalations := by
  unfold CancellationFreesQueue at h
  split at h
  · split_ifs at h
    · rcases h with h | ⟨-, h⟩
      · exact HandsOn.escalations h
      · rw [h]
    · rw [h]
  · rw [h]

theorem PromotesFor.escalations {owner : Option Nat} (h : PromotesFor s owner db db') :
    db'.escalations = db.escalations := by
  unfold PromotesFor at h
  split at h
  · exact HandsOn.escalations h
  · rw [h]

theorem escalations_updateTicket {id : Nat} {dto : UpdateTicketDto} {actor : Actor} {t : Ticket}
    (h : Returns (updateTicket s id dto actor) db t db') : db'.escalations = db.escalations := by
  obtain ⟨row, plan, db₁, hrow, hplan, -, hpersist, hfree⟩ := returns_updateTicket s h
  have hlogged : (db₁.logUpdate plan).escalations = db₁.escalations := by
    unfold Db.logUpdate
    split <;> rfl
  have hbefore : (db.beforeSave plan).escalations = db.escalations := Db.escalations_saveAll _ _
  have hsaved : db₁.escalations = (db.beforeSave plan).escalations := by
    unfold Persisted at hpersist
    split at hpersist
    · rw [hpersist, Db.escalations_save]
    · rw [hpersist.1, Db.escalations_save]
    · obtain ⟨_, _, -, -, -, -, rfl⟩ := hpersist
      rw [Db.escalations_logStatus, Db.escalations_update]
  rw [hfree.escalations, hlogged, hsaved, hbefore]

theorem Op.Completes.escalations (h : op.Completes s db db') : EscalationStep db op db'.escalations := by
  unfold Op.Completes at h
  have hsame : ∀ {op : Op}, op.cancelledId = none → db'.escalations = db.escalations →
      EscalationStep db op db'.escalations := fun hop heq => heq ▸ .same hop
  cases op with
  | createTicket dto caller =>
    obtain ⟨id, h⟩ := returns_ignored.mp h
    obtain ⟨t, -, rfl⟩ := returns_createTicket h
    exact .same rfl
  | updateTicket id dto actor =>
    obtain ⟨t, h⟩ := returns_ignored.mp h
    exact hsame rfl (escalations_updateTicket h)
  | assignTicketInternal id dto actor pool =>
    obtain ⟨t, h⟩ := returns_ignored.mp h
    obtain ⟨row, plan, -, -, -, hfree⟩ := returns_assignTicketInternal s h
    exact hsame rfl (hfree.escalations.trans (Db.escalations_save _ _))
  | correctTicketRequester id dto actor =>
    obtain ⟨row, requester, -, -, -, rfl | rfl⟩ := returns_correctTicketRequester s h
    · exact hsame rfl (Db.escalations_save _ _)
    · exact hsame rfl (Db.escalations_update _ _ _)
  | correctTicketAssignee id dto actor =>
    obtain ⟨row, plan, db₁, -, -, hpromotes, hfree⟩ := returns_correctTicketAssignee s h
    exact hsame rfl (hfree.escalations.trans (hpromotes.escalations.trans (Db.escalations_save _ _)))
  | claimOvertimeTicket id actor =>
    obtain ⟨t, h⟩ := returns_ignored.mp h
    obtain ⟨row, t, -, -, -, -, -, -, rfl⟩ := returns_claimOvertimeTicket s h
    exact hsame rfl (Db.escalations_save _ _)
  | markTicketViewed id viewer =>
    obtain ⟨t, h⟩ := returns_ignored.mp h
    obtain ⟨row, loaded, -, -, -, rfl⟩ := returns_markTicketViewed s h
    refine hsame rfl ?_
    unfold Db.opened
    split
    · exact (Db.escalations_save _ _).trans (Db.escalations_update _ _ _)
    · exact Db.escalations_update _ _ _
  | submitSatisfaction id dto requesterId =>
    obtain ⟨t, h⟩ := returns_ignored.mp h
    obtain ⟨row, -, -, rfl⟩ := returns_submitSatisfaction s h
    exact hsame rfl (Db.escalations_save _ _)
  | cancelTicket id dto actorId =>
    obtain ⟨row, reason, hrow, -, -, hfree⟩ := returns_cancelTicket s h
    have heq : db'.escalations = (db.cancelEscalations id).escalations := by
      rw [hfree.escalations, ← Db.id_of_ticket? hrow]
      exact congrArg (List.map _) (Db.escalations_update _ _ _)
    exact heq ▸ .cancelled rfl
  | escalate id dto actor =>
    obtain ⟨row, e, hrow, hterminal, rfl, -, hlatest, rfl⟩ := returns_escalate s h
    refine .escalated rfl hrow hterminal fun latest hmem => ?_
    rw [Option.mem_def.mp hmem] at hlatest
    simpa using hlatest
  | acceptEscalation ticketId escalationId actorId =>
    obtain ⟨e, row, t, he, -, -, -, -, -, -, rfl⟩ := returns_acceptEscalation s h
    have heq : (((db.setEscalation { e with status := .accepted }).save t).logTakeover row).escalations =
        (db.setEscalation { e with status := .accepted, returnReason := e.returnReason }).escalations := by
      unfold Db.logTakeover
      split_ifs <;> exact Db.escalations_save _ _
    exact heq ▸ .answered rfl he (by decide)
  | returnEscalation ticketId escalationId returnReason actorId =>
    obtain ⟨e, he, -, -, rfl⟩ := returns_returnEscalation h
    exact .answered rfl he (by decide)
  | overrideResolutionTime id body actor =>
    obtain ⟨row, verified, -, -, rfl⟩ := returns_overrideResolutionTime s h
    exact hsame rfl (Db.escalations_update _ _ _)
  | unpauseNextWaitingTicketAndSetInProgress techId =>
    obtain ⟨_, h⟩ := returns_ignored.mp h
    exact hsame rfl (returns_unpauseNextWaitingTicketAndSetInProgress s h).escalations
  | assignPendingTicketsOnLogin techId =>
    obtain rfl | ⟨t, -, rfl⟩ := returns_assignPendingTicketsOnLogin s h
    · exact .same rfl
    · exact hsame rfl (Db.escalations_save _ _)
  | pauseAllActiveTickets technicianId =>
    obtain ⟨_, h⟩ := returns_ignored.mp h
    exact hsame rfl (evolves_pauseAllActiveTickets s (R := fun _ _ => True) (fun _ => trivial) h fun _ _ _ _ => trivial).2
  | resumeAllActiveTickets technicianId resumeAt =>
    obtain ⟨_, h⟩ := returns_ignored.mp h
    exact hsame rfl (evolves_resumeAllActiveTickets s (R := fun _ _ => True) (fun _ => trivial) h fun _ _ _ _ _ => trivial).2
  | resumeCwwPresentTechnicianTickets =>
    obtain ⟨_, h⟩ := returns_ignored.mp h
    exact hsame rfl (evolves_resumeCwwPresentTechnicianTickets s (R := fun _ _ => True) (fun _ => trivial) h fun _ _ _ _ _ => trivial).2
  | processOvertimeSlaSchedule =>
    exact hsame rfl (evolves_processOvertimeSlaSchedule s (R := fun _ _ => True) (fun _ => trivial) h (fun _ _ _ _ _ => trivial)
      fun _ _ _ => trivial).2
  | recalculateActiveSlaDeadlines =>
    exact hsame rfl (evolves_recalculateActiveSlaDeadlines s (R := fun _ _ => True) (fun _ => trivial) h fun _ _ _ _ _ => trivial).2

end

/-! ## The invariants -/

/-- Only the newest escalation of a ticket can be pending. -/
def OnlyLatestPending (db : Db) : Prop :=
  ∀ e ∈ db.escalations, e.status = .pending → db.latestEscalation e.ticketId = some e

/-- A ticket whose escalation is pending has no outcome yet. -/
def PendingIsActive (db : Db) : Prop :=
  ∀ e ∈ db.escalations, e.status = .pending → ∀ t ∈ db.tickets, t.id = e.ticketId → isTerminalStatus t.status = false

theorem latestEscalation_congr {db db' : Db} (h : db'.escalations = db.escalations) (id : Nat) :
    db'.latestEscalation id = db.latestEscalation id := by
  simp only [Db.latestEscalation, Db.escalationsOf, h]

theorem latestEscalation_map {db db' : Db} {f : TicketEscalation → TicketEscalation}
    (h : db'.escalations = db.escalations.map f) (hf : ∀ e ∈ db.escalations, (f e).ticketId = e.ticketId) (id : Nat) :
    db'.latestEscalation id = (db.latestEscalation id).map f := by
  have hfilter : db.escalations.filter ((fun e : TicketEscalation => e.ticketId = id) ∘ f) =
      db.escalations.filter fun e => e.ticketId = id :=
    List.filter_congr fun e he => by simp [hf e he]
  simp only [Db.latestEscalation, Db.escalationsOf, h, List.filter_map, hfilter, List.head?_reverse, List.getLast?_map]

theorem latestEscalation_insert (db : Db) (e : TicketEscalation) (id : Nat) :
    (db.insertEscalation e).latestEscalation id =
      if e.ticketId = id then some { e with id := db.nextEscalationId } else db.latestEscalation id := by
  simp only [Db.latestEscalation, Db.escalationsOf, Db.insertEscalation, List.filter_append, List.reverse_append]
  split_ifs with h <;> simp [h]

/-- Answering or cancelling escalations leaves every pending one as it was. -/
theorem OnlyLatestPending.map {db db' : Db} (hinv : OnlyLatestPending db) {f : TicketEscalation → TicketEscalation}
    (h : db'.escalations = db.escalations.map f) (hticket : ∀ e ∈ db.escalations, (f e).ticketId = e.ticketId)
    (hpending : ∀ e ∈ db.escalations, (f e).status = .pending → f e = e) : OnlyLatestPending db' := by
  intro e' he' hstatus
  rw [h] at he'
  obtain ⟨e, he, rfl⟩ := List.mem_map.mp he'
  have hfe := hpending e he hstatus
  rw [latestEscalation_map h hticket, hfe, hinv e he (hfe ▸ hstatus), Option.map_some, hfe]

/-- What an answer leaves of each escalation. -/
theorem mem_setEscalation {db : Db} {e : TicketEscalation} {status : EscalationStatus} {returnReason : Option String}
    (he : e ∈ db.escalations) (hstatus : status ≠ .pending) :
    ∃ f : TicketEscalation → TicketEscalation,
      (db.setEscalation { e with status, returnReason }).escalations = db.escalations.map f ∧
      (∀ e ∈ db.escalations, (f e).ticketId = e.ticketId) ∧
      ∀ e ∈ db.escalations, (f e).status = .pending → f e = e := by
  refine ⟨_, rfl, fun other hother => ?_, fun other _ hpending => ?_⟩
  · dsimp only
    split_ifs with hid
    · rw [List.inj_on_of_nodup_map db.escalationKey hother he hid]
    · rfl
  · dsimp only at hpending ⊢
    split_ifs at hpending ⊢
    · exact absurd hpending hstatus
    · rfl

theorem cancelEscalation_status {id : Nat} {e : TicketEscalation} (h : (cancelEscalation id e).status = .pending) :
    cancelEscalation id e = e ∧ e.ticketId ≠ id := by
  unfold cancelEscalation at h ⊢
  split_ifs at h ⊢ with hactive
  refine ⟨rfl, fun hid => hactive ⟨hid, ?_⟩⟩
  simp [isActiveEscalation, h]

section
variable {db db' : Db} {op : Op}

theorem OnlyLatestPending.step (hinv : OnlyLatestPending db) (h : EscalationStep db op db'.escalations) :
    OnlyLatestPending db' := by
  generalize hrows : db'.escalations = rows at h
  cases h with
  | same _ => exact hinv.map (hrows.trans (List.map_id _).symm) (fun _ _ => rfl) fun _ _ _ => rfl
  | @escalated _ _ row e _ hrow _ hlatest =>
    have hcongr := latestEscalation_congr (show db'.escalations = (db.insertEscalation e).escalations from hrows)
    intro e' he' hpending
    rw [hcongr, latestEscalation_insert]
    rw [hrows] at he'
    rcases List.mem_append.mp he' with he' | he'
    · have hlast := hinv e' he' hpending
      split_ifs with hid
      · exact absurd hpending (hlatest e' (hid ▸ hlast))
      · exact hlast
    · rw [List.mem_singleton] at he'
      rw [if_pos (by rw [he']), he']
  | answered _ he hstatus =>
    obtain ⟨f, hf, hticket, hpending⟩ := mem_setEscalation he hstatus
    exact hinv.map (hrows.trans hf) hticket hpending
  | cancelled _ =>
    exact hinv.map hrows (fun e _ => ticketId_cancelEscalation _ e) fun _ _ h => (cancelEscalation_status h).1

/-- A pending escalation was pending before, and its ticket is not cancelled, or it is new and its ticket is active. -/
theorem EscalationStep.pending (h : EscalationStep db op db'.escalations) {e : TicketEscalation}
    (he : e ∈ db'.escalations) (hpending : e.status = .pending) :
    (e ∈ db.escalations ∧ op.cancelledId ≠ some e.ticketId) ∨
      (∃ dto actor, op = .escalate e.ticketId dto actor) ∧
        ∃ row, db.ticket? e.ticketId = some row ∧ isTerminalStatus row.status = false := by
  generalize db'.escalations = rows at h he
  cases h with
  | same hop => exact .inl ⟨he, by simp [hop]⟩
  | @escalated dto actor row e' hop hrow hterminal _ =>
    rcases List.mem_append.mp he with he | he
    · exact .inl ⟨he, by simp [hop, Op.cancelledId]⟩
    · rw [List.mem_singleton] at he
      subst he
      exact .inr ⟨⟨dto, actor, hop⟩, row, hrow, hterminal⟩
  | answered hop he' hstatus =>
    obtain ⟨f, hf, -, hkeep⟩ := mem_setEscalation he' hstatus
    rw [hf] at he
    obtain ⟨old, hold, rfl⟩ := List.mem_map.mp he
    rw [hkeep old hold hpending]
    exact .inl ⟨hold, by simp [hop]⟩
  | cancelled hop =>
    obtain ⟨old, hold, rfl⟩ := List.mem_map.mp he
    obtain ⟨heq, hne⟩ := cancelEscalation_status hpending
    rw [heq]
    exact .inl ⟨hold, by simpa [hop, eq_comm] using hne⟩

/-- Filing an escalation changes no row. -/
theorem RowStep.status_escalate {s : Services} {id : Nat} {dto : EscalateTicketDto} {actor : Actor} {row t : Ticket}
    (h : RowStep s db (.escalate id dto actor) row t) : t.status = row.status := by
  cases h with
  | promoted hover => cases hover
  | resumed hop => cases hop

theorem PendingIsActive.step {s : Services} (hlatest : OnlyLatestPending db) (hinv : PendingIsActive db)
    (h : op.Completes s db db') : PendingIsActive db' := by
  intro e he hpending t ht hid
  rcases h.earlier ht with ⟨hfiled, -⟩ | ⟨row, hrow, hrowid, hstep⟩
  · rcases hfiled.owner with ⟨hs, -⟩ | ⟨hs, -⟩ | ⟨hs, -⟩ <;> simp [hs, isTerminalStatus]
  rcases h.escalations.pending he hpending with ⟨hold, hcancel⟩ | ⟨⟨dto, actor, rfl⟩, row', hrow', hactive⟩
  · -- an escalation that was pending before: the step of its row gives it no outcome
    have hactive : isTerminalStatus row.status = false := hinv e hold hpending row hrow (hrowid.trans hid)
    rcases hstep with rfl | hstep
    · exact hactive
    · cases hstep.status with
      | same hs => rwa [hs]
      | works _ hs => exact hs
      | settles _ hs =>
        have hlast := hlatest e hold hpending
        rw [← hid, ← hrowid] at hlast
        exact absurd hpending (hs e hlast)
      | cancels _ hop => exact absurd (by rw [hop, ← hid, ← hrowid]; rfl) hcancel
      | closes hs _ => simp [hs, isTerminalStatus] at hactive
      | takesOver _ _ _ _ hs => simp [hs, isTerminalStatus]
  · -- a new escalation: its ticket was active, and stays as it is
    have hsame : row' = row :=
      Db.eq_of_id_eq (Db.mem_of_ticket? hrow') hrow ((Db.id_of_ticket? hrow').trans (hid.symm.trans hrowid.symm))
    rw [hsame] at hactive
    rcases hstep with rfl | hstep
    · exact hactive
    · rwa [hstep.status_escalate]

end

/-! ## Outcomes -/

/-- A cancelled, duplicate or closed ticket keeps its status, a resolved one is at most closed. -/
def KeepsOutcome (status later : TicketStatus) : Prop :=
  (status = .cancelled ∨ status = .duplicate ∨ status = .closed → later = status) ∧
    (status = .resolved → later = .resolved ∨ later = .closed)

theorem keepsOutcome_of_active {status later : TicketStatus} (h : isTerminalStatus status = false) :
    KeepsOutcome status later := by
  constructor <;> intro hs <;> simp_all [isTerminalStatus]

theorem KeepsOutcome.refl (status : TicketStatus) : KeepsOutcome status status := ⟨fun _ => rfl, .inl⟩

theorem KeepsOutcome.trans {a b c : TicketStatus} (h₁ : KeepsOutcome a b) (h₂ : KeepsOutcome b c) : KeepsOutcome a c := by
  refine ⟨fun ha => ?_, fun ha => ?_⟩
  · have hb := h₁.1 ha
    rw [h₂.1 (hb ▸ ha), hb]
  · rcases h₁.2 ha with hb | hb
    · exact h₂.2 hb
    · exact .inr ((h₂.1 (.inr (.inr hb))).trans hb)

theorem StatusStep.keepsOutcome {db : Db} {op : Op} {row t : Ticket} (hinv : PendingIsActive db) (hrow : row ∈ db.tickets)
    (h : StatusStep db op row t) : KeepsOutcome row.status t.status := by
  cases h with
  | same h => exact h ▸ .refl _
  | works h _ => exact keepsOutcome_of_active h
  | settles h _ => exact keepsOutcome_of_active h
  | cancels h _ => exact keepsOutcome_of_active h
  | closes h h' => simp [KeepsOutcome, h, h']
  | takesOver he hid hpending _ _ => exact keepsOutcome_of_active (hinv _ he hpending row hrow hid.symm)

theorem run_pending {history : List (Transition State (Services × Op))} {st : State} (h : Run ticketing history st) :
    OnlyLatestPending st.db ∧ PendingIsActive st.db := by
  refine Run.always (I := fun st => OnlyLatestPending st.db ∧ PendingIsActive st.db) (P := fun _ => True) ?_ ?_ h
    fun _ _ => trivial
  · intro st hinit
    rw [show st.db = {} from hinit]
    exact ⟨fun _ he => (List.not_mem_nil he).elim, fun _ he => (List.not_mem_nil he).elim⟩
  · intro st l st' hinv hs _
    have hop := (ticketing_step hs).2.1
    exact ⟨hinv.1.step hop.escalations, hinv.2.step hinv.1 hop⟩

/-- **Terminal outcomes are final**, in every run of completed operations. -/
theorem terminal_outcomes_are_final {history : List (Transition State (Services × Op))} {st : State}
    (h : Run ticketing history st) :
    (∀ e ∈ history, ∀ row ∈ e.before.db.tickets, ∃ t ∈ st.db.tickets, t.id = row.id ∧ KeepsOutcome row.status t.status) ∧
      ∀ t ∈ st.db.tickets, isTerminalStatus t.status = true →
        ∀ e ∈ st.db.escalations, e.ticketId = t.id → e.status ≠ .pending := by
  refine ⟨?_, fun t ht hterminal e he hid hpending => ?_⟩
  · refine Run.persists (fun t => .refl _) (fun _ _ _ => .trans) h fun e he row hrow t hstep => ?_
    obtain ⟨-, earlier, hrun, -⟩ := h.reached e he
    exact hstep.status.keepsOutcome (run_pending hrun).2 hrow
  · simp [(run_pending h).2 e he hpending t ht hid.symm] at hterminal

/-- A ticket that is assigned, escalated, returned, resolved and rated. -/
def resolvedRun : List (Services × Op) :=
  [(office 0, .createTicket request (officeActor 1)),
   (office 1000, .updateTicket 1 { priority := some .high, issueTypeId := .value 1 } (officeActor 4)),
   (office 2000, .assignTicketInternal 1 { assignedToId := 2 } (officeActor 4) none),
   (office 3000, .escalate 1 { escalatedToId := 3 } (officeActor 4)),
   (office 4000, .returnEscalation 1 1 "Not ours" 3),
   (office 5000, .updateTicket 1 { status := some .resolved } (officeActor 2)),
   (office 6000, .submitSatisfaction 1 { rating := some 5 } 1)]

theorem terminal_outcomes_are_final_resolved : ∃ log, execute resolvedRun = some log ∧
    (∀ e ∈ log.1, ∀ row ∈ e.before.db.tickets, ∃ t ∈ log.2.db.tickets, t.id = row.id ∧
      KeepsOutcome row.status t.status) ∧
    ∀ t ∈ log.2.db.tickets, isTerminalStatus t.status = true →
      ∀ e ∈ log.2.db.escalations, e.ticketId = t.id → e.status ≠ .pending := by
  have hsome : (execute resolvedRun).isSome = true := by decide +kernel
  obtain ⟨log, hlog⟩ := Option.isSome_iff_exists.mp hsome
  exact ⟨log, hlog, terminal_outcomes_are_final (run_of_execute hlog)⟩

end ComplianceHub.Tickets
