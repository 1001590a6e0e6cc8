import ComplianceHub.Tickets.Update

/-!
# The writes of an update

`updateTicket`, from its plan to the hand-over of the owner's queue.

* `persistTicketUpdate`, `persistDuplicateTicket` : the version check under the row lock, and the write;
* `terminalHandoffRow` : the next ticket of an owner whose ticket leaves the active list;
* `updateTicket` : the whole operation (`returns_updateTicket` : what it has written when it returns).
-/

namespace ComplianceHub.Tickets

open ComplianceHub.Sla

section
variable (s : Services)

/-! ## The save -/

/-- The version check under the row lock. -/
def persistTicketUpdate (t : Ticket) (expectedUpdatedAt : Nat) : TicketM Unit := do
  let db ← get
  let current ← orThrow (db.ticket? t.id) (.conflict "This ticket is no longer editable. Refresh the ticket.")
  throwIf (current.status = .cancelled) (.conflict "This ticket is no longer editable. Refresh the ticket.")
  throwIf (current.updatedAt ≠ expectedUpdatedAt) (.conflict "This ticket changed. Refresh it before saving.")
  saveTicket t

/-- The checks of a duplicate, made again on the locked rows. -/
def recheckDuplicate (db : Db) (source original : Ticket) (actor : Actor) : Except HttpException Unit := do
  assertTicketReadAccess s db source actor
  assertTicketReadAccess s db original actor
  assertValidDuplicateOriginal source original
  let issue := issueTypeConfig s source.toTicketRouting
  let t ← repairDeadline s issue (repairStart (repairWaiting source))
  check ((db.latestEscalation source.id).all fun e => e.status ≠ .pending && e.status ≠ .accepted)
    (.badRequest "Return the active escalation before marking this ticket as Duplicate.")
  check (db.count (fun t => t.duplicateOfId = some source.id) = 0) (.badRequest
    "This ticket is already an original for other duplicates and cannot itself become a duplicate.")
  let (_, state) ← projectTicketSlaState s t issue s.config
  assertValidDuplicateSource source state.isOverdue

/-- Scalar update avoids saving a filtered/partially loaded comments relation. -/
def duplicateRow (originalId : Nat) (row : Ticket) : Ticket :=
  { row with status := .duplicate, duplicateOfId := some originalId, slaPausedAt := none, isSlaWaiting := false }

def persistDuplicateTicket (t : Ticket) (expectedUpdatedAt : Nat) (actor : Actor) : TicketM Unit := do
  let db ← get
  let source ← orThrow (db.ticket? t.id) (.badRequest "The source or original ticket no longer exists.")
  let original ← orThrow (t.duplicateOfId.bind db.ticket?)
    (.badRequest "The source or original ticket no longer exists.")
  throwIf (source.updatedAt ≠ expectedUpdatedAt)
    (.conflict "The ticket changed. Refresh it before marking it as Duplicate.")
  ofExcept (recheckDuplicate s db source original actor)
  updateTicketRow source.id (duplicateRow original.id)
  logStatusChanged source.id source.status .duplicate

/-- The save of an update. -/
def persistUpdate (plan : UpdatePlan) (actor : Actor) : TicketM Unit :=
  match plan.persist with
  | .save => saveTicket plan.ticket
  | .checked => persistTicketUpdate plan.ticket plan.ticket.updatedAt
  | .duplicate _ => persistDuplicateTicket s plan.ticket plan.ticket.updatedAt actor

/-- The tables once an update is saved. -/
def Persisted (plan : UpdatePlan) (actor : Actor) (db db' : Db) : Prop :=
  match plan.persist with
  | .save => db' = db.save plan.ticket
  | .checked => db' = db.save plan.ticket ∧ ∃ current, db.ticket? plan.ticket.id = some current ∧
      current.status ≠ .cancelled ∧ current.updatedAt = plan.ticket.updatedAt
  | .duplicate _ => ∃ source original, db.ticket? plan.ticket.id = some source ∧
      plan.ticket.duplicateOfId.bind db.ticket? = some original ∧ source.updatedAt = plan.ticket.updatedAt ∧
      recheckDuplicate s db source original actor = .ok () ∧
      db' = (db.update source.id (duplicateRow original.id)).logStatus source.id source.status .duplicate

theorem returns_persistUpdate {plan : UpdatePlan} {actor : Actor} {db db' : Db} {u : Unit}
    (h : Returns (persistUpdate s plan actor) db u db') : Persisted s plan actor db db' := by
  unfold persistUpdate at h
  unfold Persisted
  cases hp : plan.persist with
  | save =>
    rw [hp] at h
    exact (returns_saveTicket _).mp h
  | checked =>
    rw [hp] at h
    simp only [persistTicketUpdate, returns_bind, returns_get, returns_orThrow, returns_throwIf, returns_saveTicket] at h
    obtain ⟨_, _, ⟨rfl, rfl⟩, current, _, ⟨hcurrent, rfl⟩, _, _, ⟨hstatus, rfl⟩, _, _, ⟨hversion, rfl⟩, rfl⟩ := h
    exact ⟨rfl, current, hcurrent, hstatus, not_not.mp hversion⟩
  | duplicate =>
    rw [hp] at h
    simp only [persistDuplicateTicket, returns_bind, returns_get, returns_orThrow, returns_throwIf, returns_ofExcept,
      returns_updateTicketRow, returns_logStatusChanged] at h
    obtain ⟨_, _, ⟨rfl, rfl⟩, source, _, ⟨hsource, rfl⟩, original, _, ⟨horiginal, rfl⟩, _, _, ⟨hversion, rfl⟩, _, _,
      ⟨hcheck, rfl⟩, _, _, rfl, rfl⟩ := h
    exact ⟨source, original, hsource, horiginal, not_not.mp hversion, hcheck, rfl⟩

theorem recheckDuplicate_eq_ok {db : Db} {source original : Ticket} {actor : Actor} {u : Unit}
    (h : recheckDuplicate s db source original actor = .ok u) : isLiveStatus source.status = true ∧
      ((db.latestEscalation source.id).all fun e => e.status ≠ .pending && e.status ≠ .accepted) = true := by
  simp only [recheckDuplicate, bind_eq_ok, check_eq_ok] at h
  obtain ⟨-, -, -, -, -, -, _, -, -, hlatest, -, -, _, -, hsource⟩ := h
  simp only [assertValidDuplicateSource, bind_eq_ok, check_eq_ok] at hsource
  obtain ⟨-, hlive, -⟩ := hsource
  exact ⟨hlive.1, hlatest⟩

/-- One row is written: the entity over the row, or the columns of a duplicate. -/
theorem Persisted.row {plan : UpdatePlan} {actor : Actor} {db db' : Db} {row : Ticket} (h : Persisted s plan actor db db')
    (hrow : db.ticket? plan.ticket.id = some row) :
    ∃ t, t.id = plan.ticket.id ∧ db'.tickets = (db.setTicket t).tickets ∧ db'.escalations = db.escalations ∧
      ((∀ reason, plan.persist ≠ .duplicate reason) ∧ t = savedRow row plan.ticket ∨
        (∃ reason, plan.persist = .duplicate reason) ∧ isLiveStatus row.status = true ∧
          ((db.latestEscalation row.id).all fun e => e.status ≠ .pending && e.status ≠ .accepted) = true ∧
          ∃ originalId, t = updatedRow row (duplicateRow originalId)) := by
  have hsave : db.save plan.ticket = db.setTicket (savedRow row plan.ticket) := by rw [Db.save, hrow]
  have hsaved : (savedRow row plan.ticket).id = plan.ticket.id := by
    obtain ⟨version, hv⟩ := savedRow_eq row plan.ticket
    rw [hv]
  unfold Persisted at h
  cases hp : plan.persist with
  | save =>
    rw [hp] at h
    exact ⟨_, hsaved, by rw [h, hsave], by rw [h, Db.escalations_save], .inl ⟨by simp, rfl⟩⟩
  | checked =>
    rw [hp] at h
    exact ⟨_, hsaved, by rw [h.1, hsave], by rw [h.1, Db.escalations_save], .inl ⟨by simp, rfl⟩⟩
  | duplicate reason =>
    rw [hp] at h
    obtain ⟨source, original, hsource, -, -, hcheck, rfl⟩ := h
    rw [hrow, Option.some.injEq] at hsource
    subst hsource
    obtain ⟨hlive, hlatest⟩ := recheckDuplicate_eq_ok s hcheck
    have hid : row.id = plan.ticket.id := Db.id_of_ticket? hrow
    refine ⟨updatedRow row (duplicateRow original.id), hid, ?_, ?_, .inr ⟨⟨_, rfl⟩, hlive, hlatest, _, rfl⟩⟩
    · rw [Db.tickets_logStatus, Db.update, hid, hrow]
    · rw [Db.escalations_logStatus, Db.escalations_update]

/-! ## The hand-over after a terminal status -/

/-- The oldest unassigned open ticket a technician may pick up, overtime tickets of earlier days first. -/
def nextOpenTicket (db : Db) (technicianId : Nat) : Option Ticket :=
  let eligible (t : Ticket) : Bool :=
    t.status = .open && t.assignedToId = none && t.ticketType ≠ .specialized_concerns && t.requesterId ≠ technicianId
  db.oldest (fun t => eligible t && t.overtimeDate.any fun date => date < s.today && s.isOfficeDay s.today) <|>
    db.oldest fun t => eligible t && t.overtimeDate = none

/-- An unassigned ticket as it starts for its new owner. -/
def startedRow (t : Ticket) (technicianId : Nat) (slaDeadline : Option Int) : Ticket :=
  { t with
    assignedToId := some technicianId
    status := .in_progress
    isSlaWaiting := false
    lastAssignedAt := some s.now
    slaStartedAt := some s.now
    accumulatedPauseSeconds := 0
    slaPausedAt := none
    slaDeadline }

/-- The technician is present and has no work in hand. -/
def isFreeToPickUp (db : Db) (technicianId : Nat) : Bool :=
  let isPresent := (s.getAutoAssignmentTechnicians .all).any fun tech => tech.id = technicianId
  let busyCount := db.count fun t => t.assignedToId = some technicianId &&
    ((t.status = .assigned && !t.isSlaWaiting) || t.status = .in_progress)
  isPresent && busyCount = 0

/-- The next ticket for a technician who is present: from the own queue, else an open one. -/
def pickupRow (db : Db) (technicianId : Nat) : Except HttpException (Option Ticket) := do
  if isFreeToPickUp s db technicianId then
    match ← promotion s db technicianId with
    | some row => pure (some row)
    | none =>
      let capped := isCappedRoundRobin s.config &&
        (roundRobinCapHours s.config : Rat) ≤ getWeeklySlaLoad s db technicianId
      match (nextOpenTicket s db technicianId).filter fun _ => !capped with
      | none => pure none
      | some t =>
        let slaDeadline ← calculateTicketSlaDeadline s none t.issueTypeId t.overtimeSlaDate s.now
        if canAutomaticallyAssign s technicianId .all t.requesterId then
          pure (some (savedRow t (startedRow s t technicianId slaDeadline)))
        else pure none
  else pure none

def isSeniorTechId (technicianId : Nat) : Bool := (s.getUserById technicianId).any fun user => s.isSeniorTech user.role

/-- The row the hand-over writes for an owner whose ticket left the active list. -/
def terminalHandoffRow (db : Db) (technicianId : Nat) : Except HttpException (Option Ticket) := do
  -- A ticket already assigned to this staff member is a queue handoff. Promote it for every staff role.
  let promoted ← if remainingActiveCount db technicianId = 0 then promotion s db technicianId else .ok none
  match promoted with
  | some row => pure (some row)
  | none => if isSeniorTechId s technicianId then pure none else pickupRow s db technicianId

/-- The owner's next waiting ticket is promoted by the hand-over. -/
def promotesNext (db : Db) (technicianId : Nat) : Bool :=
  remainingActiveCount db technicianId = 0 || (!isSeniorTechId s technicianId && isFreeToPickUp s db technicianId)

/-- An unassigned open ticket and the row it starts as. -/
structure PickedUp (techId : Nat) (row t : Ticket) : Prop where
  isOpen : row.status = .open
  unassigned : row.assignedToId = none
  isEligible : canAutomaticallyAssign s techId .all row.requesterId = true
  eq : ∃ slaDeadline, calculateTicketSlaDeadline s none row.issueTypeId row.overtimeSlaDate s.now = .ok slaDeadline ∧
    t = savedRow row (startedRow s row techId slaDeadline)

theorem nextOpenTicket_eq_some {db : Db} {technicianId : Nat} {t : Ticket}
    (h : nextOpenTicket s db technicianId = some t) :
    t ∈ db.tickets ∧ t.status = .open ∧ t.assignedToId = none := by
  have heligible : ∀ p : Ticket → Bool, db.oldest (fun t => (t.status = .open && t.assignedToId = none &&
      t.ticketType ≠ .specialized_concerns && t.requesterId ≠ technicianId) && p t) = some t →
      t ∈ db.tickets ∧ t.status = .open ∧ t.assignedToId = none := by
    intro p hp
    obtain ⟨hmem, ht⟩ := Db.mem_of_oldest hp
    simp only [Bool.and_eq_true, decide_eq_true_eq] at ht
    exact ⟨hmem, ht.1.1.1.1, ht.1.1.1.2⟩
  rcases orElse_eq_some.mp h with h | ⟨-, h⟩
  · exact heligible _ h
  · exact heligible _ h

theorem pickupRow_eq_some {db : Db} {technicianId : Nat} {t : Ticket} (h : pickupRow s db technicianId = .ok (some t)) :
    isFreeToPickUp s db technicianId = true ∧ (promotion s db technicianId = .ok (some t) ∨
      promotion s db technicianId = .ok none ∧ ∃ row ∈ db.tickets, PickedUp s technicianId row t) := by
  simp only [pickupRow] at h
  split_ifs at h with hfree
  · refine ⟨hfree, ?_⟩
    obtain ⟨promoted, hp, h⟩ := bind_eq_ok.mp h
    cases promoted with
    | some row =>
      cases h
      exact .inl hp
    | none =>
      dsimp only at h
      split at h
      · cases h
      · rename_i next hnext
        obtain ⟨slaDeadline, hd, h⟩ := bind_eq_ok.mp h
        split_ifs at h with hgate
        · cases h
          obtain ⟨hmem, hopen, howner⟩ := nextOpenTicket_eq_some s (Option.eq_some_of_filter_eq_some hnext)
          exact .inr ⟨hp, next, hmem, hopen, howner, hgate, slaDeadline, hd, rfl⟩
        · cases h
  · cases h

theorem terminalHandoffRow_eq_some {db : Db} {technicianId : Nat} {t : Ticket}
    (h : terminalHandoffRow s db technicianId = .ok (some t)) :
    (promotesNext s db technicianId = true ∧
        ∃ row, db.oldest (waitsFor technicianId) = some row ∧ Promoted s technicianId row t) ∨
      db.oldest (waitsFor technicianId) = none ∧ ∃ row ∈ db.tickets, PickedUp s technicianId row t := by
  have hpick : isSeniorTechId s technicianId = false → pickupRow s db technicianId = .ok (some t) →
      (promotesNext s db technicianId = true ∧
          ∃ row, db.oldest (waitsFor technicianId) = some row ∧ Promoted s technicianId row t) ∨
        db.oldest (waitsFor technicianId) = none ∧ ∃ row ∈ db.tickets, PickedUp s technicianId row t := by
    intro hsenior h
    obtain ⟨hfree, hp | ⟨hp, hpick⟩⟩ := pickupRow_eq_some s h
    · exact .inl ⟨by simp [promotesNext, hsenior, hfree], promotion_eq_some s hp⟩
    · exact .inr ⟨promotion_eq_none s hp, hpick⟩
  unfold terminalHandoffRow at h
  split_ifs at h with hsenior hcount hcount
  · obtain ⟨promoted, hp, h⟩ := bind_eq_ok.mp h
    cases promoted with
    | some row =>
      cases h
      exact .inl ⟨by simp [promotesNext, hcount], promotion_eq_some s hp⟩
    | none => cases h
  · cases h
  · obtain ⟨promoted, hp, h⟩ := bind_eq_ok.mp h
    cases promoted with
    | some row =>
      cases h
      exact .inl ⟨by simp [promotesNext, hcount], promotion_eq_some s hp⟩
    | none => exact hpick (Bool.not_eq_true _ |>.mp hsenior) h
  · exact hpick (Bool.not_eq_true _ |>.mp hsenior) h

/-- A failed hand-over is not fatal to the update. -/
def terminalHandoff (technicianId : Nat) : TicketM Unit := do
  let db ← get
  match terminalHandoffRow s db technicianId with
  | .ok (some row) => modify fun db => db.setTicket row
  | _ => pure ()

/-- The hand-over after an update, for the owner of a ticket that left the active list. -/
inductive TerminalFreesQueue : Option Nat → Db → Db → Prop where
  | none {db : Db} : TerminalFreesQueue none db db
  | idle {db : Db} {owner : Nat} : terminalHandoffRow s db owner = .ok none → TerminalFreesQueue (some owner) db db
  | failed {db : Db} {owner : Nat} {e : HttpException} : terminalHandoffRow s db owner = .error e →
      TerminalFreesQueue (some owner) db db
  | writes {db : Db} {owner : Nat} {t : Ticket} : terminalHandoffRow s db owner = .ok (some t) →
      TerminalFreesQueue (some owner) db (db.setTicket t)

theorem returns_terminalHandoff {owner : Option Nat} {db db' : Db} {u : Unit}
    (h : Returns (whenSome owner (terminalHandoff s)) db u db') : TerminalFreesQueue s owner db db' := by
  rcases returns_whenSome.mp h with ⟨rfl, rfl⟩ | ⟨owner, rfl, hrun⟩
  · exact .none
  · simp only [terminalHandoff, returns_bind, returns_get] at hrun
    obtain ⟨_, _, ⟨rfl, rfl⟩, hrun⟩ := hrun
    cases hrow : terminalHandoffRow s db owner with
    | error e =>
      simp only [hrow, returns_pure] at hrun
      exact hrun.2 ▸ .failed hrow
    | ok t =>
      cases t with
      | none =>
        simp only [hrow, returns_pure] at hrun
        exact hrun.2 ▸ .idle hrow
      | some t =>
        simp only [hrow, returns_modify] at hrun
        exact hrun ▸ .writes hrow

/-! ## The operation -/

def Db.justify (db : Db) (justification : Option StatusJustification) : Db :=
  { db with justifications := db.justifications ++ justification.toList }

def Db.logUpdate (db : Db) (plan : UpdatePlan) : Db :=
  match plan.loggedStatus with
  | some status => db.logStatus plan.ticket.id plan.originalStatus status
  | none => db

/-- The writes of an update. -/
def commitUpdate (plan : UpdatePlan) (actor : Actor) : TicketM Unit := do
  modify fun db => db.justify plan.justification
  plan.pushedBack.forM saveTicket
  persistUpdate s plan actor
  modify fun db => db.logUpdate plan
  whenSome plan.handoff (terminalHandoff s)

def updateTicket (id : Nat) (dto : UpdateTicketDto) (actor : Actor) : TicketM Ticket := do
  let db ← get
  let row ← orThrow (db.ticket? id) (.notFound "Ticket not found")
  let plan ← ofExcept (planUpdate s db row dto actor)
  commitUpdate s plan actor
  pure plan.ticket

/-- The tables as an update has written them before its own save. -/
def Db.beforeSave (db : Db) (plan : UpdatePlan) : Db :=
  plan.pushedBack.foldl Db.save (db.justify plan.justification)

/-- The rows an update pushes back are other rows, so its own row is still the one that was read. -/
theorem ticket?_beforeSave {db : Db} {id : Nat} {row : Ticket} {dto : UpdateTicketDto} {actor : Actor} {plan : UpdatePlan}
    (hrow : db.ticket? id = some row) (hplan : planUpdate s db row dto actor = .ok plan) :
    (db.beforeSave plan).ticket? plan.ticket.id = some row := by
  have hid : plan.ticket.id = id := (planUpdate_id s hplan).trans (Db.id_of_ticket? hrow)
  rw [hid, ← hrow]
  refine Db.ticket?_saveAll_of_not_mem fun hmem => ?_
  obtain ⟨t, ht, htid⟩ := List.mem_map.mp hmem
  obtain ⟨other, -, hne, -, -, rfl⟩ := (planUpdate_pushedBack s hplan).2 t ht
  exact hne (htid.trans (Db.id_of_ticket? hrow).symm)

theorem returns_updateTicket {id : Nat} {dto : UpdateTicketDto} {actor : Actor} {db db' : Db} {t : Ticket}
    (h : Returns (updateTicket s id dto actor) db t db') :
    ∃ row plan db₁, db.ticket? id = some row ∧ planUpdate s db row dto actor = .ok plan ∧ t = plan.ticket ∧
      Persisted s plan actor (db.beforeSave plan) db₁ ∧
      TerminalFreesQueue s plan.handoff (db₁.logUpdate plan) db' := by
  simp only [updateTicket, commitUpdate, returns_bind, returns_get, returns_orThrow, returns_ofExcept, returns_modify,
    returns_forM_saveTicket, returns_pure] at h
  obtain ⟨_, _, ⟨rfl, rfl⟩, row, _, ⟨hrow, rfl⟩, plan, _, ⟨hplan, rfl⟩, _, _, ⟨_, _, rfl, _, _, rfl, _, db₁, hpersist, _, _,
    rfl, hhandoff⟩, rfl, rfl⟩ := h
  exact ⟨row, plan, db₁, hrow, hplan, rfl, returns_persistUpdate s hpersist, returns_terminalHandoff s hhandoff⟩

end

end ComplianceHub.Tickets
