import ComplianceHub.Tickets.Separation

/-!
# Work in hand has an owner

* `Staffed` : a ticket that is worked on, or resolved, has an owner, and an open one has none;
* `KeepsOwner` : the updates that keep it. An administrator may take a frozen ticket that nobody owns straight to a
  working status, and an update saves the owner that an accepted escalation shows on an open ticket;
* `planUpdate_status` : the status that an update saves;
* `RowStep.staffed`, `work_has_an_owner` : one step, and every run of such steps.
-/

namespace ComplianceHub.Tickets

open ComplianceHub.Lib

structure Staffed (t : Ticket) : Prop where
  owned : isBusyStatus t.status = true ∨ t.status = .resolved → t.assignedToId ≠ none
  free : t.status = .open → t.assignedToId = none

/-- A frozen ticket goes on to work only with an owner, and an open one that stays open shows none. -/
def KeepsOwner (db : Db) : Op → Prop
  | .updateTicket id dto _ => ∀ row ∈ db.ticket? id,
      (row.status = .freeze → dto.status = some .assigned ∨ dto.status = some .in_progress ∨ dto.status = some .resolved →
        (enrichTicket db row).assignedToId ≠ none) ∧
      (row.status = .open → dto.status = none → (enrichTicket db row).assignedToId = none)
  | _ => True

instance (db : Db) : (op : Op) → Decidable (KeepsOwner db op)
  | .updateTicket .. => inferInstanceAs (Decidable (∀ row ∈ db.ticket? _, (_ → _ → _) ∧ (_ → _ → _)))
  | .createTicket .. | .assignTicketInternal .. | .correctTicketRequester .. | .correctTicketAssignee ..
  | .claimOvertimeTicket .. | .markTicketViewed .. | .submitSatisfaction .. | .cancelTicket .. | .escalate ..
  | .acceptEscalation .. | .returnEscalation .. | .overrideResolutionTime .. | .assignPendingTicketsOnLogin ..
  | .unpauseNextWaitingTicketAndSetInProgress .. | .pauseAllActiveTickets .. | .resumeAllActiveTickets ..
  | .resumeCwwPresentTechnicianTickets | .processOvertimeSlaSchedule | .recalculateActiveSlaDeadlines => .isTrue trivial

section
variable {s : Services} {db : Db} {op : Op} {row t : Ticket}

theorem Staffed.of_owner (howner : t.assignedToId ≠ none) (hstatus : t.status ≠ .open) : Staffed t :=
  ⟨fun _ => howner, fun hopen => absurd hopen hstatus⟩

theorem Staffed.of_idle (hbusy : isBusyStatus t.status = false) (hresolved : t.status ≠ .resolved)
    (hopen : t.status ≠ .open) : Staffed t := by
  refine ⟨fun h => ?_, fun h => absurd h hopen⟩
  rcases h with h | h
  · rw [hbusy] at h
    cases h
  · exact absurd h hresolved

theorem Staffed.of_eq (h : Staffed row) (hstatus : t.status = row.status) (howner : t.assignedToId = row.assignedToId) :
    Staffed t := by
  constructor
  · rw [hstatus, howner]
    exact h.owned
  · rw [hstatus, howner]
    exact h.free

theorem Staffed.savedRow (h : Staffed t) (row : Ticket) : Staffed (savedRow row t) :=
  h.of_eq (savedRow_status row t) (savedRow_assignedToId row t)

theorem Staffed.saved (h : Staffed row) (hstatus : t.status = row.status) (howner : t.assignedToId = row.assignedToId) :
    Staffed (Tickets.savedRow row t) := (h.of_eq hstatus howner).savedRow row

/-- An accepted escalation only adds an owner. -/
theorem enrichTicket_owned (h : row.assignedToId ≠ none) : (enrichTicket db row).assignedToId ≠ none := by
  unfold enrichTicket
  split
  · split_ifs
    · exact h
    · exact Option.some_ne_none _
  · exact h

theorem Filed.staffed (h : Filed s db t) : Staffed t := by
  rcases h.owner with ⟨hstatus, howner, -⟩ | ⟨hstatus, ⟨owner, howner, -⟩, -⟩ | ⟨hstatus, howner, -⟩
  · refine ⟨fun h => ?_, fun _ => howner⟩
    simp [hstatus, isBusyStatus] at h
  · exact .of_owner (by simp [howner]) (by simp [hstatus])
  · exact .of_owner (Option.isSome_iff_ne_none.mp howner) (by simp [hstatus])

/-! ## Updates -/

/-- The status that an update saves: the stored one, the one asked for, or the one of a reset. -/
inductive SavedStatus (row : Ticket) (dto : UpdateTicketDto) (t : Ticket) : Prop where
  | same : dto.status = none → t.status = row.status → SavedStatus row dto t
  | moved {target : TicketStatus} {admin duplicates : Bool} {frozenReturnStatus : Option TicketStatus} :
      dto.status = some target → target ≠ .open → t.status = target →
      (∀ status ∈ frozenReturnStatus, isValidReturnStatus status = true) →
      target ∈ allowedTransitions admin duplicates frozenReturnStatus row.status → SavedStatus row dto t
  | closed : row.status = .resolved → t.status = .closed → SavedStatus row dto t
  | reset : dto.status = some .open → t.status = (if t.assignedToId.isSome then .assigned else .open) →
      SavedStatus row dto t

theorem planRequesterUpdate_status {dto : UpdateTicketDto} {actor : Actor} {plan : UpdatePlan}
    (h : planRequesterUpdate s t dto actor = .ok plan) : SavedStatus t dto plan.ticket := by
  simp only [planRequesterUpdate, bind_eq_ok, check_eq_ok] at h
  obtain ⟨-, -, -, hasked, h⟩ := h
  split_ifs at h with hclose
  · simp only [bind_eq_ok, check_eq_ok] at h
    obtain ⟨-, hstatus, h⟩ := h
    cases h
    exact .closed hstatus rfl
  · simp only [bind_eq_ok, check_eq_ok] at h
    obtain ⟨-, -, h⟩ := h
    cases h
    exact .same ((requesterOperationalUpdateRequested_eq_false hasked).2.resolve_right hclose) rfl

theorem SavedStatus.congr {row' : Ticket} {dto : UpdateTicketDto} (h : SavedStatus row dto t)
    (hstatus : row.status = row'.status) : SavedStatus row' dto t := by
  cases h with
  | same hs h => exact .same hs (h.trans hstatus)
  | moved hs hopen h hvalid hmem => exact .moved hs hopen h hvalid (hstatus ▸ hmem)
  | closed hresolved h => exact .closed (hstatus ▸ hresolved) h
  | reset hs h => exact .reset hs h

theorem planUpdate_status {dto : UpdateTicketDto} {actor : Actor} {plan : UpdatePlan}
    (h : planUpdate s db row dto actor = .ok plan) (hsaved : ∀ reason, plan.persist ≠ .duplicate reason) :
    SavedStatus row dto plan.ticket := by
  simp only [planUpdate, bind_eq_ok] at h
  obtain ⟨loaded, hload, -, -, -, -, -, -, h⟩ := h
  have hstatus : loaded.ticket.status = row.status := (loadTicket_loads hload).status
  split_ifs at h
  · exact (planRequesterUpdate_status h).congr hstatus
  · obtain ⟨_, _, _, _, moved, _, -, -, -, hpart, rfl⟩ := planStaffUpdate_eq_ok s h
    cases hpart with
    | none hs hplan =>
      rw [hplan]
      exact .same hs hstatus
    | duplicate _ _ hdup =>
      obtain ⟨reason, hpersist⟩ := hdup.persist
      exact absurd hpersist (hsaved reason)
    | @move target hs _ hallowed hmove =>
      have hmoved := moveTo_moved s hmove.moveTo
      have hmem := mem_allowedTransitions_of_allowedFor hallowed
      change target ∈ allowedTransitions _ _ _ loaded.ticket.status at hmem
      rw [hstatus] at hmem
      by_cases hopen : target = .open
      · exact .reset (hopen ▸ hs) (hmoved.reset hopen)
      · refine .moved hs hopen (hmoved.status hopen) (fun status hmem => ?_) hmem
        unfold updateContext at hmem
        dsimp only at hmem
        split_ifs at hmem
        · cases hmem
          exact isValidReturnStatus_resolveFrozenReturnStatus db loaded.ticket
        · cases hmem

/-- A move to work, or to its result, starts from work, from its result or from Freeze. -/
theorem mem_allowedTransitions_works {admin duplicates : Bool} {frozenReturnStatus : Option TicketStatus}
    {current target : TicketStatus} (hvalid : ∀ status ∈ frozenReturnStatus, isValidReturnStatus status = true)
    (h : target ∈ allowedTransitions admin duplicates frozenReturnStatus current)
    (htarget : isBusyStatus target = true ∨ target = .resolved) :
    isBusyStatus current = true ∨ current = .freeze ∧ (target = .assigned ∨ target = .in_progress ∨ target = .resolved) := by
  have hnot : target ≠ .freeze ∧ target ≠ .duplicate ∧ target ≠ .closed ∧ target ≠ .open := by
    cases target <;> simp_all [isBusyStatus]
  cases current with
  | assigned => exact .inl rfl
  | in_progress => exact .inl rfl
  | pause => exact .inl rfl
  | «open» =>
    exfalso
    cases admin <;> cases duplicates <;> simp_all [allowedTransitions]
  | freeze =>
    refine .inr ⟨rfl, ?_⟩
    cases admin with
    | true => simpa [allowedTransitions, hnot] using h
    | false =>
      have hmem : frozenReturnStatus = some target := by simpa [allowedTransitions] using h
      have hreturn := hvalid target hmem
      cases target <;> simp_all [isValidReturnStatus]
  | resolved => simp_all [allowedTransitions]
  | closed => simp [allowedTransitions] at h
  | duplicate => simp [allowedTransitions] at h
  | cancelled => simp [allowedTransitions] at h

theorem staffed_updated {id : Nat} {dto : UpdateTicketDto} {actor : Actor} {plan : UpdatePlan}
    (hid : db.ticket? id = some row) (h : planUpdate s db row dto actor = .ok plan)
    (hsaved : ∀ reason, plan.persist ≠ .duplicate reason) (hkeeps : KeepsOwner db (.updateTicket id dto actor))
    (hrow : Staffed row) : Staffed plan.ticket := by
  obtain ⟨hfrozen, hopen⟩ := hkeeps row hid
  obtain ⟨-, -, howner⟩ := planUpdate_people h
  cases planUpdate_status h hsaved with
  | same hs hstatus =>
    obtain ⟨-, howner⟩ := howner.resolve_right (by simp [hs])
    constructor
    · rw [hstatus, howner]
      exact fun hworks => enrichTicket_owned (hrow.owned hworks)
    · rw [hstatus, howner]
      exact fun hopen' => hopen hopen' hs
  | @moved target _ _ _ hs hne hstatus hvalid hmem =>
    obtain ⟨-, howner⟩ := howner.resolve_right (by simp [hs, hne])
    refine ⟨fun hworks => ?_, fun hopen' => absurd (hstatus.symm.trans hopen') hne⟩
    rw [hstatus] at hworks
    rw [howner]
    rcases mem_allowedTransitions_works hvalid hmem hworks with hbusy | ⟨hfreeze, htarget⟩
    · exact enrichTicket_owned (hrow.owned (.inl hbusy))
    · apply hfrozen hfreeze
      rw [hs]
      simpa using htarget
  | closed _ hstatus => exact .of_idle (by simp [hstatus, isBusyStatus]) (by simp [hstatus]) (by simp [hstatus])
  | reset _ hstatus =>
    cases howner : plan.ticket.assignedToId with
    | none =>
      rw [howner] at hstatus
      refine ⟨fun hworks => ?_, fun _ => howner⟩
      rw [hstatus] at hworks
      rcases hworks with h | h <;> cases h
    | some owner =>
      rw [howner] at hstatus
      refine .of_owner (by simp [howner]) ?_
      rw [hstatus]
      exact TicketStatus.noConfusion

/-! ## Steps -/

theorem Promoted.staffed {owner : Nat} (h : Promoted s owner row t) : Staffed t := by
  have hwaits := h.waits
  simp only [waitsFor, Bool.and_eq_true, decide_eq_true_eq] at hwaits
  obtain ⟨_, -, rfl⟩ := h.eq
  refine .of_owner ?_ TicketStatus.noConfusion
  change row.assignedToId ≠ none
  simp [hwaits]

theorem staffed_corrected {dto : CorrectTicketAssigneeDto} {actor : Actor} {plan : CorrectionPlan}
    (h : planAssigneeCorrection s db row dto actor = .ok plan) : Staffed plan.ticket := by
  obtain ⟨-, -, -, hstatus, ⟨hresolved, rfl⟩ | ⟨-, hactive, -⟩⟩ := planAssigneeCorrection_eq_ok s h
  · refine .of_owner (Option.some_ne_none _) ?_
    rw [hresolved]
    exact TicketStatus.noConfusion
  · obtain ⟨_, hticket, -⟩ := correctedActiveTicket_eq s hactive
    rw [hticket]
    refine .of_owner (Option.some_ne_none _) ?_
    dsimp only
    split_ifs <;> exact TicketStatus.noConfusion

theorem reassignedStatus_ne_open (status : TicketStatus) (busy : Nat) : reassignedStatus status busy ≠ .open := by
  unfold reassignedStatus
  split_ifs with hlive
  · exact TicketStatus.noConfusion
  · exact TicketStatus.noConfusion
  · rintro rfl
    exact hlive rfl

/-- Every step that keeps an owner does so. -/
theorem RowStep.staffed (h : RowStep s db op row t) (hrow : Staffed row) (hkeeps : KeepsOwner db op) : Staffed t := by
  cases h with
  | updated hid hplan hsaved => exact (staffed_updated hid hplan hsaved hkeeps hrow).savedRow _
  | markedDuplicate _ _ _ => exact .of_idle rfl (by simp [updatedRow, duplicateRow]) (by simp [updatedRow, duplicateRow])
  | pushedBack _ _ => exact hrow.saved rfl rfl
  | pickedUp hp =>
    obtain ⟨_, -, rfl⟩ := hp.eq
    refine Staffed.savedRow (.of_owner ?_ ?_) _
    · exact Option.some_ne_none _
    · exact TicketStatus.noConfusion
  | promoted _ _ hp => exact hp.staffed
  | assigned _ hplan =>
    obtain ⟨loaded, hload, hterminal, hassigned, -⟩ := planAssign_eq_ok s hplan
    obtain ⟨_, hticket, -⟩ := assignedTicket_eq s hassigned
    rw [hticket]
    exact Staffed.savedRow (.of_owner (Option.some_ne_none _) (reassignedStatus_ne_open _ _)) _
  | requesterSaved _ _ => exact hrow.saved rfl rfl
  | requesterUpdated _ _ => exact hrow.of_eq rfl rfl
  | assigneeCorrected _ hplan _ => exact (staffed_corrected hplan).savedRow _
  | correctedAndPromoted _ _ _ hp => exact hp.staffed
  | claimed _ _ hclaims ht =>
    obtain ⟨_, rfl, -⟩ := claimedTicket_eq s ht
    refine Staffed.savedRow (.of_owner ?_ ?_) _
    · exact Option.some_ne_none _
    · dsimp only
      split_ifs <;> exact TicketStatus.noConfusion
  | unreadCleared =>
    refine hrow.of_eq ?_ ?_
    all_goals
      unfold updatedRow clearUnreadColumn
      split_ifs <;> rfl
  | @viewed _ _ _ _ loaded _ _ hopens ht =>
    obtain ⟨_, -, rfl⟩ := map_eq_ok.mp ht
    simp only [opensTicket, Bool.and_eq_true, decide_eq_true_eq] at hopens
    refine Staffed.savedRow (.of_owner ?_ TicketStatus.noConfusion) _
    change loaded.ticket.assignedToId ≠ none
    simp [hopens]
  | rated ht =>
    obtain ⟨hdone, _, _, rfl⟩ := ratedTicket_eq s ht
    exact Staffed.savedRow (.of_idle rfl TicketStatus.noConfusion TicketStatus.noConfusion) _
  | cancelled _ _ => exact .of_idle rfl TicketStatus.noConfusion TicketStatus.noConfusion
  | takenOver hid _ _ _ _ ht =>
    obtain ⟨_, -, rfl⟩ := takenOver_eq s ht
    refine Staffed.savedRow (.of_owner ?_ ?_) _
    · exact Option.some_ne_none _
    · dsimp only
      split_ifs with hdone
      · rcases hdone with h | h <;> simp [h]
      · exact TicketStatus.noConfusion
  | resolutionTimeOverridden _ _ => exact hrow.of_eq rfl rfl
  | pickedUpOnLogin _ _ hgate ht =>
    obtain ⟨_, rfl, -⟩ := pickedUpTicket_eq s ht
    refine Staffed.savedRow (.of_owner ?_ ?_) _
    · exact Option.some_ne_none _
    · dsimp only
      split_ifs <;> exact TicketStatus.noConfusion
  | schedulePaused hrunning howned =>
    simp only [isRunningClock, Bool.and_eq_true, decide_eq_true_eq] at hrunning
    have hloads := loads_enrichTicket db row
    refine Staffed.savedRow (.of_owner ?_ ?_) _
    · exact enrichTicket_owned (hrow.owned (.inl (by simp [hrunning, isBusyStatus])))
    · change (enrichTicket db row).status ≠ _
      rw [hloads.status, hrunning.1.1.1]
      exact TicketStatus.noConfusion
  | overtimePaused _ => exact hrow.saved rfl rfl
  | resumed _ _ hr =>
    obtain ⟨_, _, -, hr⟩ := hr
    obtain ⟨_, -, _, rfl, -⟩ := applySlaResume_eq s hr
    exact hrow.saved rfl rfl
  | recalculated _ hr =>
    obtain ⟨_, -, hr⟩ := hr
    obtain ⟨-, _, _, -, -, -, rfl⟩ := recalculated_eq_some s hr
    exact hrow.saved rfl rfl

end

/-! ## Runs -/

/-- **Work in hand has an owner, and open tickets have none**, in every run of such steps. -/
theorem work_has_an_owner {history : List (Transition State (Services × Op))} {st : State}
    (h : Run ticketing history st) (hkeeps : ∀ e ∈ history, KeepsOwner e.before.db e.label.2) :
    ∀ t ∈ st.db.tickets,
      (t.status = .assigned ∨ t.status = .in_progress ∨ t.status = .pause ∨ t.status = .resolved →
        t.assignedToId ≠ none) ∧ (t.status = .open → t.assignedToId = none) := by
  have hall : ∀ t ∈ st.db.tickets, Staffed t :=
    Run.rows (fun _ _ _ hfiled => hfiled.staffed) (fun _ hk _ _ _ hrow hstep => hstep.staffed hrow hk) h hkeeps
  intro t ht
  refine ⟨fun hworks => (hall t ht).owned ?_, (hall t ht).free⟩
  rcases hworks with hs | hs | hs | hs
  · exact .inl (by simp [hs, isBusyStatus])
  · exact .inl (by simp [hs, isBusyStatus])
  · exact .inl (by simp [hs, isBusyStatus])
  · exact .inr hs

/-- A ticket administrator freezes an open request, and takes it to Assigned. -/
def unfrozenRun : List (Services × Op) :=
  [(office 0, .createTicket request (officeActor 1)),
   (office 1000, .updateTicket 1 { status := some .freeze, statusJustification := some "Parts" } (officeActor 4)),
   (office 2000, .updateTicket 1 { status := some .assigned } (officeActor 4))]

theorem unfrozen_without_owner : ¬ ∀ (history : List (Transition State (Services × Op))) (st : State),
    Run ticketing history st → ∀ t ∈ st.db.tickets,
      (t.status = .assigned ∨ t.status = .in_progress ∨ t.status = .pause ∨ t.status = .resolved →
        t.assignedToId ≠ none) ∧ (t.status = .open → t.assignedToId = none) := by
  intro h
  have hany : ((execute unfrozenRun).any fun log => ∃ t ∈ log.2.db.tickets,
      t.status = .assigned ∧ t.assignedToId = none) = true := by decide +kernel
  obtain ⟨log, hlog, hticket⟩ := (Option.any_eq_true _ _).mp hany
  obtain ⟨t, ht, hstatus, hnone⟩ := of_decide_eq_true hticket
  exact (h _ _ (run_of_execute hlog) t ht).1 (.inl hstatus) hnone

/-- An assigned request is frozen, and taken back to Assigned. -/
def refrozenRun : List (Services × Op) :=
  [(office 0, .createTicket request (officeActor 1)),
   (office 1000, .assignTicketInternal 1 { assignedToId := 2 } (officeActor 4) none),
   (office 2000, .updateTicket 1 { status := some .freeze, statusJustification := some "Parts" } (officeActor 4)),
   (office 3000, .updateTicket 1 { status := some .assigned } (officeActor 4))]

theorem work_has_an_owner_refrozen : ∃ log, execute refrozenRun = some log ∧ ∀ t ∈ log.2.db.tickets,
    (t.status = .assigned ∨ t.status = .in_progress ∨ t.status = .pause ∨ t.status = .resolved →
      t.assignedToId ≠ none) ∧ (t.status = .open → t.assignedToId = none) := by
  have hany : ((execute refrozenRun).any fun log => ∀ e ∈ log.1, KeepsOwner e.before.db e.label.2) = true := by
    decide +kernel
  obtain ⟨log, hlog, hkeeps⟩ := (Option.any_eq_true _ _).mp hany
  exact ⟨log, hlog, work_has_an_owner (run_of_execute hlog) (of_decide_eq_true hkeeps)⟩

end ComplianceHub.Tickets
