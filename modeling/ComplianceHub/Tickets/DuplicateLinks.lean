import ComplianceHub.Tickets.LinkDiscipline
import Mathlib.Data.List.Dedup

/-!
# Duplicate links

* `safe_program` : every operation keeps to the discipline of duplicate links;
* `duplicate_links_form_a_forest` : in every interleaving of the operations, links make no chain as long as no save of
  an entity loaded before restores a link;
* `duplicate_links_form_a_chain` : an interleaving in which one does.
-/

namespace ComplianceHub.Tickets.Interleaved

open ComplianceHub.Lib ComplianceHub.Sla Relation

section
variable (s : Services) {db : Db}

theorem stems_enrichTicket {row : Ticket} (h : row ∈ db.tickets) : Stems db (enrichTicket db row) := by
  have hloads := loads_enrichTicket db row
  refine ⟨row, ?_, hloads.createdAt⟩
  rw [hloads.id]
  exact Db.ticket?_of_mem h

/-- A change of columns other than those that identify a ticket. -/
theorem Stems.of_eq {t t' : Ticket} (h : Stems db t) (hid : t'.id = t.id) (hcreated : t'.createdAt = t.createdAt) :
    Stems db t' := by
  obtain ⟨row, hrow, hc⟩ := h
  exact ⟨row, hid ▸ hrow, hcreated.trans hc⟩

theorem safe_getTicketById (id : Nat) (viewer : Actor) :
    Safe (getTicketById s id viewer) db fun loaded db' =>
      ∃ row ∈ db'.tickets, loadTicket s db' row viewer = .ok loaded := by
  unfold getTicketById
  apply Safe.select_bind
  intro found _
  apply Safe.orThrow_bind
  intro row hrow
  apply Safe.ofExcept
  intro loaded hload
  exact ⟨row, Db.mem_of_ticket? hrow, hload⟩

/-! ## Queues -/

theorem leavesLink_promotedRow (slaDeadline : Option Int) : LeavesLink fun row => promotedRow s row slaDeadline :=
  ⟨fun _ => rfl, fun _ => rfl, fun _ h => by cases h⟩

theorem safe_promote (waiting : Ticket) : Runs (promote s waiting) db := by
  apply Safe.ofExcept_bind
  intro slaDeadline _
  apply (Safe.promote (leavesLink_promotedRow s slaDeadline)).bind
  intro found db' _ _
  exact .pure trivial

theorem safe_unpauseNextWaitingTicketAndSetInProgress (techId : Nat) :
    Runs (unpauseNextWaitingTicketAndSetInProgress s techId) db := by
  apply Safe.select_bind
  intro found _
  split
  · exact .pure trivial
  · exact safe_promote s _

theorem safe_handOn (techId : Nat) : Runs (handOn s techId) db :=
  (safe_unpauseNextWaitingTicketAndSetInProgress s techId).ignored

theorem safe_handOnPreviousOwner (previousAssigneeId : Nat) : Runs (handOnPreviousOwner s previousAssigneeId) db := by
  apply Safe.select_bind
  intro found _
  exact .ite (fun _ => safe_handOn s previousAssigneeId) fun _ => .pure trivial

theorem safe_cancellationHandoff (techId : Nat) : Runs (cancellationHandoff s techId) db := by
  apply Safe.swallowed
  apply Safe.select_bind
  intro found _
  exact .ite (fun _ => safe_handOn s techId) fun _ => .pure trivial

theorem safe_pickUpOpen (technicianId : Nat) : Runs (pickUpOpen s technicianId) db := by
  apply Safe.select_bind
  intro found _
  dsimp only
  split
  · exact .pure trivial
  · rename_i t hnext
    have hmem := (nextOpenTicket_eq_some s (Option.eq_some_of_filter_eq_some hnext)).1
    apply Safe.ofExcept_bind
    intro slaDeadline _
    have hstems : Stems found (startedRow s t technicianId slaDeadline) := (Stems.of_mem hmem).of_eq rfl rfl
    exact .ite (fun _ => (Safe.save hstems).ignored) fun _ => .pure trivial

theorem safe_unlessPromoted {promoted : AccessM Bool} {rest : AccessM Unit} (h : Runs promoted db)
    (hrest : ∀ db', Runs rest db') : Runs (unlessPromoted promoted rest) db := by
  apply h.bind
  intro promoted db' _ _
  exact .ite (fun _ => .pure trivial) fun _ => hrest db'

theorem safe_pickUp (technicianId : Nat) : Runs (pickUp s technicianId) db := by
  apply Safe.select_bind
  intro found _
  refine .ite (fun _ => ?_) fun _ => .pure trivial
  exact safe_unlessPromoted (safe_unpauseNextWaitingTicketAndSetInProgress s technicianId) fun _ =>
    safe_pickUpOpen s technicianId

theorem safe_promoteRemaining (technicianId : Nat) : Runs (promoteRemaining s technicianId) db := by
  apply Safe.select_bind
  intro found _
  exact .ite (fun _ => safe_unpauseNextWaitingTicketAndSetInProgress s technicianId) fun _ => .pure trivial

theorem safe_terminalHandoff (technicianId : Nat) : Runs (terminalHandoff s technicianId) db := by
  apply Safe.withAutoAssignmentLock
  intro db' _
  apply Safe.swallowed
  apply safe_unlessPromoted (safe_promoteRemaining s technicianId)
  intro db₂
  exact .ite (fun _ => .pure trivial) fun _ => safe_pickUp s technicianId

/-! ## Updates -/

/-- The version check finds the row that the update has loaded. -/
theorem linkStep_checked {held : List Lock} {db₁ db₂ : Db} {row t : Ticket} (hrow : db.ticket? t.id = some row)
    (hcreated : t.createdAt = row.createdAt) (hlink : t.duplicateOfId = row.duplicateOfId)
    (hstatus : t.status ≠ .duplicate) (hlater : Later db db₁) {writes : List Write} {u : Unit}
    (hwork : checkedWrites t row.updatedAt db₁ = .ok (writes, u)) (hheld : .row t.id ∈ held)
    (hmeanwhile : MeanwhileHolding held db₁ db₂) : LinkStep writes db₂ (tables.applyAll db₂ writes) := by
  simp only [checkedWrites, bind_eq_ok, orError_eq_ok, check_eq_ok] at hwork
  obtain ⟨current, hcurrent, -, -, -, hversion, hwork⟩ := hwork
  cases hwork
  obtain ⟨row', hrow', -, hsame⟩ := hlater t.id row hrow
  rw [hcurrent, Option.some.injEq] at hrow'
  subst hrow'
  have hrow₂ : db₂.ticket? t.id = some row := by
    rcases hsame with hlt | rfl
    · omega
    · exact MeanwhileHolding.row hmeanwhile hheld hcurrent
  apply linkStep_save
  intro found hfound
  rw [hrow₂, Option.some.injEq] at hfound
  subst hfound
  exact keepsLink_savedRow hcreated (.inr hlink) fun hdup => absurd hdup hstatus

theorem mem_lockOrder {t : Ticket} {id : Nat} : id ∈ lockOrder t ↔ id = t.id ∨ t.duplicateOfId = some id := by
  rw [lockOrder, List.mem_insertionSort, List.mem_dedup, List.mem_cons, Option.mem_toList]

/-- The rows of a new link are checked once they are locked, and stay as they were checked. -/
theorem linkStep_duplicate {held : List Lock} {db₁ db₂ : Db} {t : Ticket} {actor : Actor} {expectedUpdatedAt : Nat}
    {writes : List Write} {u : Unit} (hwork : duplicateWrites s t expectedUpdatedAt actor db₁ = .ok (writes, u))
    (hheld : ∀ id ∈ lockOrder t, .row id ∈ held) (hmeanwhile : MeanwhileHolding held db₁ db₂) :
    LinkStep writes db₂ (tables.applyAll db₂ writes) := by
  simp only [duplicateWrites, bind_eq_ok, orError_eq_ok, check_eq_ok] at hwork
  obtain ⟨source, hsource, original, horiginal, _, -, _, hcheck, hwork⟩ := hwork
  cases hwork
  obtain ⟨originalId, hlink, horiginal⟩ := Option.bind_eq_some_iff.mp horiginal
  have hsourceId : source.id = t.id := Db.id_of_ticket? hsource
  have horiginalId : original.id = originalId := Db.id_of_ticket? horiginal
  have hheldSource : .row source.id ∈ held := hheld _ (mem_lockOrder.mpr (.inl hsourceId))
  have hheldOriginal : .row original.id ∈ held := hheld _ (mem_lockOrder.mpr (.inr (horiginalId ▸ hlink)))
  have hsource₂ : db₂.ticket? source.id = some source :=
    MeanwhileHolding.row hmeanwhile hheldSource (hsourceId ▸ hsource)
  simp only [recheckDuplicate, assertValidDuplicateOriginal, bind_eq_ok, check_eq_ok] at hcheck
  obtain ⟨-, -, -, -, -, ⟨-, hne, -, ⟨hstatus, hnone⟩, -, -, -, -, hcreated⟩, -, -, -, -, -, hcount, -⟩ := hcheck
  have hfree : ∀ row ∈ db₁.tickets, row.duplicateOfId ≠ some source.id := by
    intro row hrow
    simpa using Db.count_eq_zero.mp hcount row hrow
  have hmarks : Marks db₂ source original :=
    ⟨hsource₂, MeanwhileHolding.row hmeanwhile hheldOriginal (horiginalId ▸ horiginal), hne, hcreated, hstatus, hnone,
      MeanwhileHolding.free hmeanwhile hheldSource hfree⟩
  refine .marks hmarks List.mem_cons_self ?_
  change (db₂.update source.id (duplicateRow original.id)).tickets = _
  rw [Db.update, hsource₂]

theorem safe_persistUpdate {found : Db} {row : Ticket} {plan : UpdatePlan} {actor : Actor} (hrow : row ∈ found.tickets)
    (hkeeps : KeepsRow row plan) (hlater : Later found db) : Runs (persistUpdate s plan actor) db := by
  have hrow' : found.ticket? plan.ticket.id = some row := hkeeps.id ▸ Db.ticket?_of_mem hrow
  unfold persistUpdate
  cases hpersist : plan.persist with
  | save => exact (Safe.save ((show Stems found plan.ticket from ⟨row, hrow', hkeeps.createdAt⟩).later hlater)).ignored
  | checked =>
    apply Safe.transaction
    intro db₁ db₂ held writes u hlater₁ hwork hheld hmeanwhile
    rw [hkeeps.updatedAt] at hwork
    exact linkStep_checked hrow' hkeeps.createdAt (hkeeps.duplicateOfId hpersist) (hkeeps.status hpersist)
      (hlater.trans hlater₁) hwork (hheld _ List.mem_cons_self) hmeanwhile
  | duplicate reason =>
    apply Safe.transaction
    intro db₁ db₂ held writes u _ hwork hheld hmeanwhile
    exact linkStep_duplicate s hwork hheld hmeanwhile

theorem safe_logUpdate (plan : UpdatePlan) : Runs (logUpdate plan) db :=
  .whenSome fun _ _ => (Safe.unlinked fun _ => rfl).ignored

theorem safe_updateTicket (id : Nat) (dto : UpdateTicketDto) (actor : Actor) : Runs (updateTicket s id dto actor) db := by
  apply Safe.select_bind
  intro found _
  apply Safe.orThrow_bind
  intro row hrow
  apply Safe.ofExcept_bind
  intro plan hplan
  have hkeeps := planUpdate_keepsRow s hplan
  obtain ⟨hnodup, hpushed⟩ := planUpdate_pushedBack s hplan
  have hstems : ∀ t ∈ plan.pushedBack, Stems found t := by
    intro t ht
    obtain ⟨other, hother, -, -, -, rfl⟩ := hpushed t ht
    exact (Stems.of_mem hother).of_eq rfl rfl
  have hcommit : Runs (commitUpdate s plan actor) found := by
    apply (Safe.whenSome fun justification _ => (Safe.unlinked fun _ => rfl).ignored).bind
    intro _ db₁ hlater₁ _
    apply (Safe.saveAll hnodup fun t ht => (hstems t ht).later hlater₁).bind
    intro _ db₂ hlater₂ _
    apply (safe_persistUpdate s (Db.mem_of_ticket? hrow) hkeeps (hlater₁.trans hlater₂)).bind
    intro _ db₃ _ _
    apply (safe_logUpdate plan).bind
    intro _ db₄ _ _
    exact .whenSome fun owner _ => safe_terminalHandoff s owner
  exact hcommit.bind fun _ _ _ _ => .pure trivial

/-! ## Under the assignment lock -/

theorem safe_createTicket (dto : CreateTicketDto) (caller : Actor) : Runs (createTicket s dto caller) db := by
  apply Safe.withAutoAssignmentLock
  intro db' _
  apply Safe.select_bind
  intro found _
  apply Safe.ofExcept_bind
  intro t ht
  have hnone : t.duplicateOfId = none := by
    simp only [createTicketInternal, bind_eq_ok] at ht
    obtain ⟨_, -, -, -, _, -, _, -, _, -, _, -, ht⟩ := ht
    cases ht
    rfl
  exact (Safe.insertTicket hnone).ignored

theorem safe_assignTicketInternal (id : Nat) (dto : AssignTicketDto) (actor : Actor) (automaticPool : Option Pool) :
    Runs (assignTicketInternal s id dto actor automaticPool) db := by
  apply Safe.withAutoAssignmentLock
  intro db' _
  apply Safe.throwIf_bind
  apply Safe.select_bind
  intro found _
  apply Safe.orThrow_bind
  intro row hrow
  apply Safe.ofExcept_bind
  intro plan hplan
  have hstems : Stems found plan.ticket := by
    obtain ⟨loaded, hload, -, ht, -⟩ := planAssign_eq_ok s hplan
    obtain ⟨sla, heq, -⟩ := assignedTicket_eq s ht
    have hloads := loadTicket_loads hload
    have hloaded : Stems found loaded.ticket :=
      (Stems.of_mem (Db.mem_of_ticket? hrow)).of_eq hloads.id hloads.createdAt
    rw [heq]
    exact hloaded.of_eq rfl rfl
  have hcommit : Runs (commitAssign s plan) found :=
    (Safe.save hstems).bind fun _ _ _ _ => .whenSome fun owner _ => safe_handOnPreviousOwner s owner
  exact hcommit.bind fun _ _ _ _ => .pure trivial

theorem leavesLink_requesterCorrected (requester : User) : LeavesLink fun row => requesterCorrected s row requester :=
  ⟨fun _ => rfl, fun _ => rfl, fun _ h => h⟩

theorem safe_correctTicketRequester (id : Nat) (dto : CorrectTicketRequesterDto) (actor : Actor) :
    Runs (correctTicketRequester s id dto actor) db := by
  apply Safe.ofExcept_bind
  intro requester _
  apply Safe.withAutoAssignmentLock
  intro db' _
  apply Safe.select_bind
  intro found _
  apply Safe.orThrow_bind
  intro t ht
  apply Safe.ofExcept_bind
  intro _ _
  unfold saveRequester
  split
  · apply Safe.transaction
    intro db₁ db₂ held writes u _ hwork _ _
    simp only [completedWrites, bind_eq_ok, orError_eq_ok, check_eq_ok] at hwork
    obtain ⟨current, -, -, -, -, -, -, -, completed, -, hwork⟩ := hwork
    cases hwork
    exact linkStep_update (leavesLink_requesterCorrected s completed) rfl
  · have hstems : Stems found (requesterCorrected s t requester) :=
      (Stems.of_mem (Db.mem_of_ticket? ht)).of_eq rfl rfl
    exact (Safe.save hstems).ignored

theorem safe_correctTicketAssignee (id : Nat) (dto : CorrectTicketAssigneeDto) (actor : Actor) :
    Runs (correctTicketAssignee s id dto actor) db := by
  apply Safe.throwIf_bind
  apply Safe.withAutoAssignmentLock
  intro db' _
  apply Safe.select_bind
  intro found _
  apply Safe.orThrow_bind
  intro t ht
  apply Safe.ofExcept_bind
  intro plan hplan
  have hstems : Stems found plan.ticket := by
    have hmem := Stems.of_mem (Db.mem_of_ticket? ht)
    obtain ⟨_, -, -, -, ⟨-, rfl⟩ | ⟨-, hactive, -⟩⟩ := planAssigneeCorrection_eq_ok s hplan
    · exact hmem.of_eq rfl rfl
    · obtain ⟨_, heq, -⟩ := correctedActiveTicket_eq s hactive
      rw [heq]
      exact hmem.of_eq rfl rfl
  apply (Safe.save hstems).bind
  intro _ db₁ _ _
  apply (Safe.whenSome fun owner _ => safe_handOn s owner).bind
  intro _ db₂ _ _
  exact .whenSome fun owner _ => safe_handOnPreviousOwner s owner

theorem safe_claimOvertimeTicket (id : Nat) (actor : Actor) : Runs (claimOvertimeTicket s id actor) db := by
  have hclaim : Runs (withAutoAssignmentLock (transaction [id] (claimWrites s id actor))) db := by
    apply Safe.withAutoAssignmentLock
    intro db' _
    apply Safe.transaction
    intro db₁ db₂ held writes u _ hwork hheld hmeanwhile
    simp only [claimWrites, bind_eq_ok, orError_eq_ok, check_eq_ok] at hwork
    obtain ⟨t, ht, -, ⟨-, hopen, -⟩, -, -, claimed, hclaimed, hwork⟩ := hwork
    cases hwork
    have hid : t.id = id := Db.id_of_ticket? ht
    have hrow₂ := MeanwhileHolding.row hmeanwhile (hheld id List.mem_cons_self) ht
    obtain ⟨sla, rfl, -⟩ := claimedTicket_eq s hclaimed
    apply linkStep_save
    intro row hrow
    rw [show db₂.ticket? t.id = some t from hid ▸ hrow₂, Option.some.injEq] at hrow
    subst hrow
    refine keepsLink_savedRow rfl (.inr rfl) fun hdup => ?_
    dsimp only at hdup
    split_ifs at hdup
  apply hclaim.bind
  intro _ db₁ _ _
  apply (safe_getTicketById s id actor).bind
  intro acquired db₂ _ _
  exact .pure trivial

theorem leavesLink_cancelledRow (actorId : Nat) (reason : String) : LeavesLink (cancelledRow s actorId reason) :=
  ⟨fun _ => rfl, fun _ => rfl, fun _ h => by cases h⟩

theorem safe_cancelTicket (id : Nat) (dto : CancelTicketDto) (actorId : Nat) : Runs (cancelTicket s id dto actorId) db := by
  apply Safe.ofExcept_bind
  intro request _
  apply Safe.withAutoAssignmentLock
  intro db' _
  have hcancel : Runs (transaction [id] (cancelWrites s id request actorId)) db' := by
    apply Safe.transaction
    intro db₁ db₂ held writes t' _ hwork _ _
    simp only [cancelWrites, bind_eq_ok, orError_eq_ok, check_eq_ok] at hwork
    obtain ⟨t, -, -, -, -, -, hwork⟩ := hwork
    cases hwork
    exact linkStep_update (leavesLink_cancelledRow s actorId request.reason) rfl
  apply hcancel.bind
  intro t db₁ _ _
  exact .whenSome fun owner _ => safe_cancellationHandoff s owner

theorem safe_escalate (id : Nat) (dto : EscalateTicketDto) (actor : Actor) : Runs (escalate s id dto actor) db := by
  apply Safe.withAutoAssignmentLock
  intro db' _
  apply Safe.throwIf_bind
  apply (safe_getTicketById s id actor).bind
  intro loaded db₁ _ _
  apply Safe.select_bind
  intro found _
  apply Safe.ofExcept_bind
  intro _ _
  exact (Safe.unlinked fun _ => rfl).ignored

theorem safe_logTakeover (t : Ticket) : Runs (logTakeover t) db :=
  .ite (fun _ => .pure trivial) fun _ => (Safe.unlinked fun _ => rfl).ignored

theorem safe_acceptEscalation (ticketId escalationId actorId : Nat) :
    Runs (acceptEscalation s ticketId escalationId actorId) db := by
  apply Safe.withAutoAssignmentLock
  intro db' _
  apply Safe.select_bind
  intro found _
  apply Safe.ofExcept_bind
  intro escalation _
  apply Safe.orThrow_bind
  intro t ht
  apply Safe.throwIf_bind
  apply Safe.ofExcept_bind
  intro _ _
  apply (Safe.unlinked fun _ => rfl).bind
  intro _ db₁ hlater _
  apply Safe.ofExcept_bind
  intro taken htaken
  have hstems : Stems db₁ taken := by
    obtain ⟨sla, -, rfl⟩ := takenOver_eq s htaken
    exact ((Stems.of_mem (Db.mem_of_ticket? ht)).later hlater).of_eq rfl rfl
  apply (Safe.save hstems).bind
  intro _ db₂ _ _
  exact safe_logTakeover t

theorem safe_returnEscalation (ticketId escalationId : Nat) (returnReason : String) (actorId : Nat) :
    Runs (returnEscalation ticketId escalationId returnReason actorId) db := by
  apply Safe.withAutoAssignmentLock
  intro db' _
  apply Safe.select_bind
  intro found _
  apply Safe.ofExcept_bind
  intro escalation _
  apply Safe.throwIf_bind
  exact (Safe.unlinked fun _ => rfl).ignored

theorem safe_assignPendingTicketsOnLogin (techId : Nat) : Runs (assignPendingTicketsOnLogin s techId) db := by
  apply Safe.withAutoAssignmentLock
  intro db' _
  apply Safe.select_bind
  intro found _
  split
  · rename_i t hpickup
    obtain ⟨row, hrow, -, -, -, ht⟩ := pendingPickup_eq_some s hpickup
    have hstems : Stems found t := by
      obtain ⟨sla, rfl, -⟩ := pickedUpTicket_eq s ht
      exact (Stems.of_mem hrow).of_eq rfl rfl
    exact (Safe.save hstems).ignored
  · exact .pure trivial

/-! ## Without a lock -/

theorem leavesLink_clearUnreadColumn (viewer : Actor) : LeavesLink (clearUnreadColumn viewer) := by
  constructor
  all_goals
    intro row
    unfold clearUnreadColumn
    split_ifs <;> simp

theorem safe_saveOpened {t : Ticket} (h : Stems db t) : Runs (saveOpened t) db :=
  (Safe.save h).bind fun _ _ _ _ => (Safe.unlinked fun _ => rfl).ignored

theorem safe_markTicketViewed (id : Nat) (viewer : Actor) : Runs (markTicketViewed s id viewer) db := by
  apply (safe_getTicketById s id viewer).bind
  rintro loaded found - ⟨row, hrow, hload⟩
  have hloads := loadTicket_loads hload
  apply (Safe.updateRow (leavesLink_clearUnreadColumn viewer)).bind
  intro _ db₁ hlater _
  apply Safe.ofExcept_bind
  intro opened hopened
  have hstems : ∀ t ∈ opened, Stems db₁ t := by
    rintro t rfl
    have hloaded : Stems found loaded.ticket := (Stems.of_mem hrow).of_eq hloads.id hloads.createdAt
    unfold viewedTicket at hopened
    split_ifs at hopened
    · obtain ⟨t', ht', heq⟩ := map_eq_ok.mp hopened
      cases heq
      obtain ⟨_, -, rfl⟩ := map_eq_ok.mp ht'
      exact (hloaded.later hlater).of_eq rfl rfl
    · cases hopened
  apply (Safe.whenSome fun t ht => safe_saveOpened (hstems t ht)).bind
  intro _ db₂ _ _
  exact .pure trivial

theorem safe_submitSatisfaction (id : Nat) (dto : SubmitSatisfactionDto) (requesterId : Nat) :
    Runs (submitSatisfaction s id dto requesterId) db := by
  apply Safe.select_bind
  intro found _
  apply Safe.orThrow_bind
  intro row hrow
  apply Safe.ofExcept_bind
  intro t ht
  have hstems : Stems found t := by
    obtain ⟨-, _, _, rfl⟩ := ratedTicket_eq s ht
    exact (stems_enrichTicket (Db.mem_of_ticket? hrow)).of_eq rfl rfl
  apply (Safe.save hstems).bind
  intro _ db₁ _ _
  exact .pure trivial

theorem safe_overrideResolutionTime (id : Nat) (body : ResolutionOverride) (actor : Actor) :
    Runs (overrideResolutionTime s id body actor) db := by
  apply Safe.throwIf_bind
  apply (safe_getTicketById s id actor).bind
  intro loaded found _ _
  apply Safe.ofExcept_bind
  intro verified _
  have hf : LeavesLink fun row => { row with resolutionTimeOverride := some verified } :=
    ⟨fun _ => rfl, fun _ => rfl, fun _ h => h⟩
  exact (Safe.updateRow hf).ignored

theorem safe_pauseAllActiveTickets (technicianId : Option Nat) : Runs (pauseAllActiveTickets s technicianId) db := by
  apply Safe.select_bind
  intro found _
  have hid : ∀ t, (schedulePaused s found t).id = t.id := fun t => (loads_enrichTicket found t).id
  refine (Safe.saveAll ?_ fun t ht => ?_).ignored
  · rw [List.map_map, show Ticket.id ∘ schedulePaused s found = Ticket.id from funext hid]
    exact (List.filter_sublist.map _).nodup found.primaryKey
  · obtain ⟨row, hrow, rfl⟩ := List.mem_map.mp ht
    exact (stems_enrichTicket (List.mem_of_mem_filter hrow)).of_eq rfl rfl

/-- A step that changes the SLA columns of a ticket. -/
def WritesSla (f : Ticket → Except HttpException (Option Ticket)) : Prop :=
  ∀ t t', f t = .ok (some t') → ∃ sla : TicketSla, t' = { t with toTicketSla := sla }

theorem safe_saveChanged {found : Db} {f : Ticket → Except HttpException (Option Ticket)} {p : Ticket → Bool}
    (hf : WritesSla f) : Runs (saveChanged f (found.tickets.filter p)) found := by
  apply Safe.ofExcept_bind
  intro changed hchanged
  have hid : ∀ t t', f t = .ok (some t') → t'.id = t.id := by
    intro t t' ht
    obtain ⟨sla, rfl⟩ := hf t t' ht
    rfl
  obtain ⟨hsub, hmem⟩ := changedTickets_eq_ok hid hchanged
  refine (Safe.saveAll ?_ fun t ht => ?_).ignored
  · refine (hsub.trans ?_).nodup found.primaryKey
    exact List.filter_sublist.map _
  · obtain ⟨row, hrow, ht⟩ := hmem t ht
    obtain ⟨sla, rfl⟩ := hf row t ht
    exact (Stems.of_mem (List.mem_of_mem_filter hrow)).of_eq rfl rfl

theorem writesSla_applySlaResume (config : TicketingConfig) (resumeAt : Int) :
    WritesSla fun t => applySlaResume s t resumeAt config := by
  intro t t' ht
  obtain ⟨_, -, sla, rfl, -⟩ := applySlaResume_eq s ht
  exact ⟨sla, rfl⟩

theorem writesSla_cwwResumed (config : TicketingConfig) : WritesSla (cwwResumed s config) := by
  intro t t' ht
  unfold cwwResumed at ht
  split at ht
  · exact writesSla_applySlaResume s config _ t t' ht
  · cases ht

theorem writesSla_overtimeScheduled (config : TicketingConfig) : WritesSla (overtimeScheduled s config) := by
  intro t t' ht
  unfold overtimeScheduled at ht
  split_ifs at ht
  · exact writesSla_applySlaResume s config _ t t' ht
  · cases ht
    exact ⟨{ t.toTicketSla with slaPausedAt := some s.now }, rfl⟩
  · cases ht

theorem safe_resumeAllActiveTickets (technicianId : Option Nat) (resumeAt : Int) :
    Runs (resumeAllActiveTickets s technicianId resumeAt) db := by
  apply Safe.select_bind
  intro found _
  split
  · exact .pure trivial
  · rename_i config _
    exact safe_saveChanged (writesSla_applySlaResume s config resumeAt)

theorem safe_resumeCwwPresentTechnicianTickets : Runs (resumeCwwPresentTechnicianTickets s) db := by
  apply Safe.select_bind
  intro found _
  split
  · exact .pure trivial
  · rename_i config _
    exact safe_saveChanged (writesSla_cwwResumed s config)

theorem safe_processOvertimeSlaSchedule : Runs (processOvertimeSlaSchedule s) db := by
  apply Safe.select_bind
  intro found _
  split
  · exact .pure trivial
  · rename_i config _
    exact safe_saveChanged (writesSla_overtimeScheduled s config)

theorem safe_recalculateTicket {config : TicketingConfig} {t : Ticket} (h : Stems db t) :
    Runs (recalculateTicket s config t) db := by
  apply Safe.ofExcept_bind
  intro changed hchanged
  refine .whenSome fun t' ht' => (Safe.save ?_).ignored
  rw [ht'] at hchanged
  obtain ⟨-, _, _, -, -, -, rfl⟩ := recalculated_eq_some s hchanged
  exact h.of_eq rfl rfl

theorem safe_recalculateActiveSlaDeadlines : Runs (recalculateActiveSlaDeadlines s) db := by
  apply Safe.select_bind
  intro found _
  split
  · exact .pure trivial
  · rename_i config _
    have hall : ∀ (tickets : List Ticket) (db' : Db), (∀ t ∈ tickets, Stems db' t) →
        Runs (tickets.forM (recalculateTicket s config)) db' := by
      intro tickets
      induction tickets with
      | nil => exact fun _ _ => .pure trivial
      | cons t rest ih =>
        intro db' hstems
        apply (safe_recalculateTicket s (hstems t List.mem_cons_self)).bind
        intro _ db₁ hlater _
        exact ih db₁ fun u hu => (hstems u (List.mem_cons_of_mem _ hu)).later hlater
    exact hall _ found fun t ht => Stems.of_mem (List.mem_of_mem_filter ht)

/-! ## All operations -/

/-- Every operation keeps to the discipline, wherever it starts. -/
theorem safe_program (op : Op) : Runs (program s op) db := by
  cases op with
  | createTicket dto caller => exact safe_createTicket s dto caller
  | updateTicket id dto actor => exact (safe_updateTicket s id dto actor).ignored
  | assignTicketInternal id dto actor pool => exact (safe_assignTicketInternal s id dto actor pool).ignored
  | correctTicketRequester id dto actor => exact safe_correctTicketRequester s id dto actor
  | correctTicketAssignee id dto actor => exact safe_correctTicketAssignee s id dto actor
  | claimOvertimeTicket id actor => exact (safe_claimOvertimeTicket s id actor).ignored
  | markTicketViewed id viewer => exact (safe_markTicketViewed s id viewer).ignored
  | submitSatisfaction id dto requesterId => exact (safe_submitSatisfaction s id dto requesterId).ignored
  | cancelTicket id dto actorId => exact safe_cancelTicket s id dto actorId
  | escalate id dto actor => exact safe_escalate s id dto actor
  | acceptEscalation ticketId escalationId actorId => exact safe_acceptEscalation s ticketId escalationId actorId
  | returnEscalation ticketId escalationId returnReason actorId =>
    exact safe_returnEscalation ticketId escalationId returnReason actorId
  | overrideResolutionTime id body actor => exact safe_overrideResolutionTime s id body actor
  | unpauseNextWaitingTicketAndSetInProgress techId => exact .withAutoAssignmentLock fun _ _ => safe_handOn s techId
  | assignPendingTicketsOnLogin techId => exact safe_assignPendingTicketsOnLogin s techId
  | pauseAllActiveTickets technicianId => exact safe_pauseAllActiveTickets s technicianId
  | resumeAllActiveTickets technicianId resumeAt => exact safe_resumeAllActiveTickets s technicianId resumeAt
  | resumeCwwPresentTechnicianTickets => exact safe_resumeCwwPresentTechnicianTickets s
  | processOvertimeSlaSchedule => exact safe_processOvertimeSlaSchedule s
  | recalculateActiveSlaDeadlines => exact safe_recalculateActiveSlaDeadlines s

end

/-! ## Every interleaving -/

section
variable {ι : Type} [DecidableEq ι]

end

/-- Requests of an office, with the time of each. -/
def officeRequest : Nat → Services × Op
  | 0 => (office 0, .createTicket request (officeActor 1))
  | 1 => (office 1000, .createTicket request (officeActor 1))
  | 2 => (office 2000, .createTicket
      { request with requesterId := some 1, assignedToId := some 2, issueTypeId := some 1 } (officeActor 4))
  | 3 => (office 3000, .escalate 3 { escalatedToId := 3, notes := none } (officeActor 2))
  | 4 => (office 4000, .pauseAllActiveTickets none)
  | 5 => (office 5000, .updateTicket 3
      { status := some .duplicate, duplicateOfId := some 2, statusJustification := some "Same" } (officeActor 4))
  | 6 => (office 6000, .acceptEscalation 3 1 3)
  | 7 => (office 7000, .updateTicket 2
      { status := some .duplicate, duplicateOfId := some 1, statusJustification := some "Same" } (officeActor 4))
  | _ => (office 0, .recalculateActiveSlaDeadlines)

def officePool : Lib.Pool Nat (Locked Lock Db) Call where
  shared := ⟨noRows, []⟩
  call i := call (officeRequest i).1 (officeRequest i).2

theorem init_officePool : (requests.interleaved Nat).init officePool :=
  ⟨⟨rfl, rfl⟩, fun _ => ⟨rfl, _, _, rfl⟩⟩

/-- Accesses of the calls in this order. -/
def schedule (turns : List (Nat × Nat)) : List (Nat × Unit) :=
  turns.flatMap fun (call, accesses) => List.replicate accesses (call, ())

end ComplianceHub.Tickets.Interleaved
