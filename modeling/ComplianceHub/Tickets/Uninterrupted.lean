import ComplianceHub.Tickets.Interleaved

/-!
# Operations that nothing interrupts

* `alone` : an operation with all its accesses in a row, as an operation on the tables;
* `alone_bind`, `alone_transaction`, … : its rules, one for each way to build an operation;
* `alone_program` : each operation, run alone, does what the completed operation of `Op.run` does.
-/

namespace ComplianceHub.Tickets.Interleaved

open ComplianceHub.Lib ComplianceHub.Sla

section
variable {α β : Type}

/-- How an operation ended. -/
def ended : Except HttpException α × Db → EStateM.Result HttpException Db α
  | (.ok a, db) => .ok a db
  | (.error e, db) => .error e db

/-- The operation with all its accesses in a row. -/
def alone (m : AccessM α) : TicketM α := fun db => ended (m.run.alone tables db)

@[simp] theorem alone_pure (a : α) : alone (pure a) = pure a := rfl

@[simp] theorem alone_throw (e : HttpException) : alone (throw e : AccessM α) = throw e := rfl

theorem run_alone_bind (m : AccessM α) (f : α → AccessM β) (db : Db) :
    (m >>= f).run.alone tables db =
      match m.run.alone tables db with
      | (.ok a, db') => (f a).run.alone tables db'
      | (.error e, db') => (.error e, db') := by
  have hbind : (m >>= f).run.alone tables db = _ := Program.alone_bind tables m.run (ExceptT.bindCont f) db
  rw [hbind]
  rcases m.run.alone tables db with ⟨_ | a, db'⟩ <;> rfl

@[simp] theorem alone_bind (m : AccessM α) (f : α → AccessM β) : alone (m >>= f) = alone m >>= fun a => alone (f a) := by
  funext db
  change ended ((m >>= f).run.alone tables db) = EStateM.bind (alone m) (fun a => alone (f a)) db
  rw [run_alone_bind]
  unfold EStateM.bind alone
  dsimp only
  rcases m.run.alone tables db with ⟨_ | a, db'⟩ <;> rfl

@[simp] theorem alone_select : alone select = get := rfl

theorem get_bind_apply (f : Db → TicketM α) (db : Db) : (get >>= f) db = f db db := rfl

theorem bind_apply (m : TicketM α) (f : α → TicketM β) (db : Db) : (m >>= f) db = match m db with
    | .ok a db' => f a db'
    | .error e db' => .error e db' := by
  change EStateM.bind m f db = _
  unfold EStateM.bind
  cases m db <;> rfl

theorem alone_write (writes : List Write) :
    alone (write writes) = do { let db ← get; modify fun db => tables.applyAll db writes; pure db } := rfl

@[simp] theorem alone_ofExcept (x : Except HttpException α) : alone (ofExcept x) = Tickets.ofExcept x := by
  cases x <;> rfl

@[simp] theorem alone_throwIf (c : Prop) [Decidable c] (e : HttpException) :
    alone (throwIf c e) = Tickets.throwIf c e := by
  unfold throwIf Tickets.throwIf
  split_ifs <;> rfl

@[simp] theorem alone_orThrow (x : Option α) (e : HttpException) : alone (orThrow x e) = Tickets.orThrow x e := by
  cases x <;> rfl

@[simp] theorem alone_whenSome (x : Option α) (f : α → AccessM Unit) :
    alone (whenSome x f) = Tickets.whenSome x fun a => alone (f a) := by
  cases x <;> rfl

@[simp] theorem alone_ignored (m : AccessM α) : alone (ignored m) = Tickets.ignored (alone m) := by
  simp [ignored, Tickets.ignored]

@[simp] theorem alone_ite (c : Prop) [Decidable c] (m m' : AccessM α) :
    alone (if c then m else m') = if c then alone m else alone m' := by
  split_ifs <;> rfl

/-- Nobody else holds the lock. -/
@[simp] theorem alone_withAutoAssignmentLock (m : AccessM α) : alone (withAutoAssignmentLock m) = alone m := by
  funext db
  have hbind := Program.alone_bind tables m.run
    (fun result => (.write [] [.autoAssignment] fun _ => .done result : Program Lock Write Db _)) db
  simp only [alone, withAutoAssignmentLock, ExceptT.run_mk, Program.alone, hbind, Store.applyAll, List.foldl_nil]

theorem alone_lockRows (rows : List Nat) (rest : Program Lock Write Db α) (db : Db) :
    (rows.foldr (fun id rest => .lock (.row id) fun _ => rest) rest).alone tables db = rest.alone tables db := by
  induction rows with
  | nil => rfl
  | cons id rows ih => exact ih

@[simp] theorem alone_transaction (rows : List Nat) (work : Db → Except HttpException (List Write × α)) :
    alone (transaction rows work) = (do
      let db ← get
      let r ← Tickets.ofExcept (work db)
      modify fun db => tables.applyAll db r.1
      pure r.2) := by
  funext db
  change ended ((transaction rows work).run.alone tables db) =
    EStateM.bind (Tickets.ofExcept (work db)) (fun r db' => .ok r.2 (tables.applyAll db' r.1)) db
  simp only [transaction, ExceptT.run_mk, alone_lockRows, lockedWork, Program.alone, Store.applyAll, List.foldl_nil]
  rcases work db with _ | ⟨writes, a⟩ <;> rfl

@[simp] theorem ofExcept_bind (x : Except HttpException α) (f : α → Except HttpException β) :
    Tickets.ofExcept (x >>= f) = Tickets.ofExcept x >>= fun a => Tickets.ofExcept (f a) := by
  cases x <;> rfl

@[simp] theorem ofExcept_pure (a : α) : Tickets.ofExcept (pure a) = pure a := rfl

@[simp] theorem ofExcept_orError (x : Option α) (e : HttpException) :
    Tickets.ofExcept (orError x e) = Tickets.orThrow x e := by
  cases x <;> rfl

/-- A check raises where it does not hold. -/
theorem ofExcept_check {c c' : Prop} [Decidable c] [Decidable c'] (h : c' ↔ ¬ c) (e : HttpException) :
    Tickets.ofExcept (check c e) = Tickets.throwIf c' e := by
  unfold check Tickets.throwIf
  by_cases hc : c
  · rw [if_pos hc, if_neg (by simpa [h] using hc)]
    rfl
  · rw [if_neg hc, if_pos (h.mpr hc)]
    rfl

theorem alone_write_bind (writes : List Write) (m : TicketM α) :
    (alone (write writes) >>= fun _ => m) = do { modify fun db => tables.applyAll db writes; m } := rfl

@[simp] theorem alone_ignored_write (writes : List Write) :
    alone (ignored (write writes)) = modify fun db => tables.applyAll db writes := rfl

theorem forM_saveTicket (tickets : List Ticket) :
    tickets.forM saveTicket = modify fun db => tickets.foldl Db.save db := by
  induction tickets with
  | nil => rfl
  | cons t rest ih =>
    rw [List.forM_eq_forM] at ih
    rw [List.forM_eq_forM, List.forM_cons, ih]
    rfl

end

section
variable (s : Services)

@[simp] theorem alone_getTicketById (id : Nat) (viewer : Actor) :
    alone (getTicketById s id viewer) = Tickets.getTicketById s id viewer := by
  simp [getTicketById, Tickets.getTicketById]

theorem alone_markTicketViewed (id : Nat) (viewer : Actor) :
    alone (markTicketViewed s id viewer) = Tickets.markTicketViewed s id viewer := by
  simp only [markTicketViewed, commitViewed, saveOpened, Tickets.markTicketViewed, Tickets.commitViewed, alone_bind,
    alone_getTicketById, alone_write_bind, alone_ofExcept, alone_whenSome, alone_ignored_write, alone_pure]
  rfl

theorem alone_submitSatisfaction (id : Nat) (dto : SubmitSatisfactionDto) (requesterId : Nat) :
    alone (submitSatisfaction s id dto requesterId) = Tickets.submitSatisfaction s id dto requesterId := by
  simp only [submitSatisfaction, Tickets.submitSatisfaction, alone_bind, alone_select, alone_orThrow, alone_write_bind,
    alone_ofExcept, alone_pure]
  rfl

theorem alone_createTicket (dto : CreateTicketDto) (caller : Actor) :
    alone (createTicket s dto caller) = Tickets.ignored (Tickets.createTicket s dto caller) := by
  simp only [createTicket, Tickets.createTicket, Tickets.ignored, alone_withAutoAssignmentLock, alone_bind, alone_select,
    alone_ofExcept, alone_ignored_write, bind_assoc, pure_bind]
  rfl

/-! ### Queues -/

/-- The ticket that was just read still waits. -/
theorem stillWaits_self {db : Db} {techId : Nat} {t : Ticket} (h : db.oldest (waitsFor techId) = some t) :
    (db.ticket? t.id).any (stillWaits t) = true := by
  obtain ⟨hmem, hwaits⟩ := Db.mem_of_oldest h
  simp only [waitsFor, Bool.and_eq_true] at hwaits
  rw [Db.ticket?_of_mem hmem]
  simp [stillWaits, hwaits.1.2]

@[simp] theorem alone_unpauseNextWaitingTicketAndSetInProgress (techId : Nat) :
    alone (unpauseNextWaitingTicketAndSetInProgress s techId) =
      Tickets.unpauseNextWaitingTicketAndSetInProgress s techId := by
  funext db
  simp only [unpauseNextWaitingTicketAndSetInProgress, Tickets.unpauseNextWaitingTicketAndSetInProgress, alone_bind,
    alone_select, get_bind_apply]
  cases hnext : db.oldest (waitsFor techId) with
  | none =>
    rw [show promotion s db techId = .ok none by simp [promotion, hnext]]
    rfl
  | some t =>
    rw [show promotion s db techId =
        (calculateTicketSlaDeadline s none t.issueTypeId t.overtimeSlaDate s.now).map fun slaDeadline =>
          some (updatedRow t fun row => promotedRow s row slaDeadline) by simp only [promotion, hnext]]
    dsimp only
    simp only [promote, alone_bind, alone_ofExcept, alone_write, alone_pure]
    cases calculateTicketSlaDeadline s none t.issueTypeId t.overtimeSlaDate s.now with
    | error e => rfl
    | ok slaDeadline =>
      have hstill := stillWaits_self hnext
      have hrow := Db.ticket?_of_mem (Db.mem_of_oldest hnext).1
      have hwrite : tables.applyAll db [.promote t fun row => promotedRow s row slaDeadline] =
          db.setTicket (updatedRow t fun row => promotedRow s row slaDeadline) := by
        change (if (db.ticket? t.id).any (stillWaits t) then db.update t.id _ else db) = _
        rw [if_pos hstill, Db.update, hrow]
      change EStateM.Result.ok ((db.ticket? t.id).any (stillWaits t))
        (tables.applyAll db [.promote t fun row => promotedRow s row slaDeadline]) = _
      rw [hstill, hwrite]
      rfl

@[simp] theorem alone_handOn (techId : Nat) : alone (handOn s techId) = Tickets.handOn s techId := by
  simp [handOn, Tickets.handOn, Tickets.ignored]

@[simp] theorem alone_handOnPreviousOwner (previousAssigneeId : Nat) :
    alone (handOnPreviousOwner s previousAssigneeId) = Tickets.handOnPreviousOwner s previousAssigneeId := by
  simp [handOnPreviousOwner, Tickets.handOnPreviousOwner]

/-- The hand-over, from the row it promotes. -/
theorem unpauseNextWaitingTicketAndSetInProgress_apply (techId : Nat) (db : Db) :
    Tickets.unpauseNextWaitingTicketAndSetInProgress s techId db = match promotion s db techId with
      | .ok none => .ok false db
      | .ok (some row) => .ok true (db.setTicket row)
      | .error e => .error e db := by
  rw [Tickets.unpauseNextWaitingTicketAndSetInProgress, get_bind_apply, bind_apply]
  rcases promotion s db techId with _ | _ | row <;> rfl

/-- How a hand-over ends that found this row. -/
def handedOn (db : Db) (idle : EStateM.Result HttpException Db Unit) :
    Except HttpException (Option Ticket) → EStateM.Result HttpException Db Unit
  | .ok none => idle
  | .ok (some row) => .ok () (db.setTicket row)
  | .error e => .error e db

theorem handOn_apply (techId : Nat) (db : Db) :
    Tickets.handOn s techId db = handedOn db (.ok () db) (promotion s db techId) := by
  unfold Tickets.handOn
  rw [bind_apply, unpauseNextWaitingTicketAndSetInProgress_apply]
  rcases promotion s db techId with _ | _ | row <;> rfl

/-- A result whose failure is not reported. -/
def reported : EStateM.Result HttpException Db Unit → EStateM.Result HttpException Db Unit
  | .ok _ db => .ok () db
  | .error _ db => .ok () db

theorem alone_swallowed (m : AccessM Unit) (db : Db) : alone (swallowed m) db = reported (alone m db) := by
  have hbind := Program.alone_bind tables m.run
    (fun _ => (.done (.ok ()) : Program Lock Write Db (Except HttpException Unit))) db
  change ended ((m.run.bind fun _ => .done (.ok ())).alone tables db) = _
  rw [hbind]
  unfold alone
  rcases m.run.alone tables db with ⟨_ | a, db'⟩ <;> rfl

@[simp] theorem alone_cancellationHandoff (techId : Nat) :
    alone (cancellationHandoff s techId) = Tickets.cancellationHandoff s techId := by
  funext db
  rw [cancellationHandoff, alone_swallowed]
  simp only [alone_bind, alone_select, alone_ite, alone_handOn, alone_pure]
  change reported ((if runningCount db techId = 0 then Tickets.handOn s techId else pure ()) db) =
    (if runningCount db techId = 0 then _ else pure () : TicketM Unit) db
  split_ifs with hrunning
  · rw [handOn_apply]
    rcases promotion s db techId with _ | _ | row <;> rfl
  · rfl

theorem alone_pickUpOpen (technicianId : Nat) (db : Db) (h : promotion s db technicianId = .ok none)
    (hfree : isFreeToPickUp s db technicianId = true) :
    alone (pickUpOpen s technicianId) db = handedOn db (.ok () db) (pickupRow s db technicianId) := by
  simp only [pickUpOpen, alone_bind, alone_select, get_bind_apply, pickupRow, hfree, h, if_true]
  change _ = handedOn db _ (Except.bind (.ok none) _)
  dsimp only [Except.bind]
  cases hnext : (nextOpenTicket s db technicianId).filter fun _ =>
      !(isCappedRoundRobin s.config && (roundRobinCapHours s.config : Rat) ≤ getWeeklySlaLoad s db technicianId) with
  | none => rfl
  | some t =>
    have hrow := Db.ticket?_of_mem (nextOpenTicket_eq_some s (Option.eq_some_of_filter_eq_some hnext)).1
    have hsave : ∀ slaDeadline, tables.applyAll db [.save (startedRow s t technicianId slaDeadline)] =
        db.setTicket (savedRow t (startedRow s t technicianId slaDeadline)) := by
      intro slaDeadline
      change db.save (startedRow s t technicianId slaDeadline) = _
      rw [Db.save, show (startedRow s t technicianId slaDeadline).id = t.id from rfl, hrow]
    simp only [alone_bind, alone_ofExcept, alone_ite, alone_ignored_write, alone_pure]
    cases hgate : canAutomaticallyAssign s technicianId .all t.requesterId with
    | false => cases calculateTicketSlaDeadline s none t.issueTypeId t.overtimeSlaDate s.now <;> rfl
    | true =>
      cases calculateTicketSlaDeadline s none t.issueTypeId t.overtimeSlaDate s.now with
      | error e => rfl
      | ok slaDeadline =>
        change EStateM.Result.ok () (tables.applyAll db [.save (startedRow s t technicianId slaDeadline)]) = _
        rw [hsave]
        rfl

/-- A hand-over goes on only where no waiting ticket was promoted. -/
theorem alone_unlessPromoted (techId : Nat) (rest : AccessM Unit) (db : Db) :
    alone (unlessPromoted (unpauseNextWaitingTicketAndSetInProgress s techId) rest) db =
      handedOn db (alone rest db) (promotion s db techId) := by
  simp only [unlessPromoted, alone_bind, alone_unpauseNextWaitingTicketAndSetInProgress, alone_ite, alone_pure]
  rw [bind_apply, unpauseNextWaitingTicketAndSetInProgress_apply]
  rcases promotion s db techId with _ | _ | row <;> rfl

theorem alone_pickUp (technicianId : Nat) (db : Db) :
    alone (pickUp s technicianId) db = handedOn db (.ok () db) (pickupRow s db technicianId) := by
  simp only [pickUp, alone_bind, alone_select, get_bind_apply, alone_ite, alone_pure]
  by_cases hfree : isFreeToPickUp s db technicianId = true
  · rw [if_pos hfree, alone_unlessPromoted]
    cases hp : promotion s db technicianId with
    | error e =>
      simp only [pickupRow, hfree, hp, if_true]
      rfl
    | ok promoted =>
      cases promoted with
      | none => exact alone_pickUpOpen s technicianId db hp hfree
      | some row =>
        simp only [pickupRow, hfree, hp, if_true]
        rfl
  · rw [if_neg hfree]
    simp only [pickupRow, hfree]
    rfl

/-- The hand-over after an update reads the tables in several accesses. -/
@[simp] theorem alone_terminalHandoff (technicianId : Nat) :
    alone (terminalHandoff s technicianId) = Tickets.terminalHandoff s technicianId := by
  funext db
  have hrest : alone (if isSeniorTechId s technicianId then pure () else pickUp s technicianId) db =
      handedOn db (.ok () db) (if isSeniorTechId s technicianId then .ok none else pickupRow s db technicianId) := by
    split_ifs
    · rfl
    · exact alone_pickUp s technicianId db
  rw [terminalHandoff, alone_withAutoAssignmentLock, alone_swallowed]
  have hhandoff : Tickets.terminalHandoff s technicianId db =
      reported (handedOn db (.ok () db) (terminalHandoffRow s db technicianId)) := by
    rw [Tickets.terminalHandoff, get_bind_apply]
    rcases terminalHandoffRow s db technicianId with _ | _ | row <;> rfl
  have hpromote : ∀ rest : AccessM Unit, alone (unlessPromoted (promoteRemaining s technicianId) rest) db =
      handedOn db (alone rest db)
        (if remainingActiveCount db technicianId = 0 then promotion s db technicianId else .ok none) := by
    intro rest
    have hread : alone (promoteRemaining s technicianId) db = (if remainingActiveCount db technicianId = 0 then
        alone (unpauseNextWaitingTicketAndSetInProgress s technicianId) else pure false) db := by
      simp only [promoteRemaining, alone_bind, alone_select, get_bind_apply, alone_ite, alone_pure]
    rw [unlessPromoted, alone_bind, bind_apply, hread]
    split_ifs
    · rw [← alone_unlessPromoted, unlessPromoted, alone_bind, bind_apply]
    · rfl
  have hrow : handedOn db (.ok () db) (terminalHandoffRow s db technicianId) = handedOn db
      (handedOn db (.ok () db) (if isSeniorTechId s technicianId then .ok none else pickupRow s db technicianId))
      (if remainingActiveCount db technicianId = 0 then promotion s db technicianId else .ok none) := by
    unfold terminalHandoffRow
    split_ifs
    · rcases promotion s db technicianId with _ | _ | row <;> rfl
    · rfl
    · rcases promotion s db technicianId with _ | _ | row <;> rfl
    · rfl
  rw [hpromote, hhandoff, hrow, hrest]

/-! ### Updates -/

theorem alone_persistTicketUpdate (t : Ticket) (expectedUpdatedAt : Nat) :
    alone (persistTicketUpdate t expectedUpdatedAt) = Tickets.persistTicketUpdate t expectedUpdatedAt := by
  simp only [persistTicketUpdate, Tickets.persistTicketUpdate, alone_transaction, checkedWrites, ofExcept_bind,
    ofExcept_pure, ofExcept_orError, bind_assoc, pure_bind,
    ofExcept_check (c := _ ≠ TicketStatus.cancelled) not_not.symm, ofExcept_check (c := _ = expectedUpdatedAt) Iff.rfl]
  rfl

theorem alone_persistDuplicateTicket (t : Ticket) (expectedUpdatedAt : Nat) (actor : Actor) :
    alone (persistDuplicateTicket s t expectedUpdatedAt actor) =
      Tickets.persistDuplicateTicket s t expectedUpdatedAt actor := by
  simp only [persistDuplicateTicket, Tickets.persistDuplicateTicket, alone_transaction, duplicateWrites, ofExcept_bind,
    ofExcept_pure, ofExcept_orError, bind_assoc, pure_bind, ofExcept_check (c := _ = expectedUpdatedAt) Iff.rfl]
  rfl

theorem alone_persistUpdate (plan : UpdatePlan) (actor : Actor) :
    alone (persistUpdate s plan actor) = Tickets.persistUpdate s plan actor := by
  unfold persistUpdate Tickets.persistUpdate
  cases plan.persist with
  | save => rw [alone_ignored_write]; rfl
  | checked => exact alone_persistTicketUpdate plan.ticket plan.ticket.updatedAt
  | duplicate => exact alone_persistDuplicateTicket s plan.ticket plan.ticket.updatedAt actor

theorem alone_logUpdate (plan : UpdatePlan) : alone (logUpdate plan) = modify fun db => db.logUpdate plan := by
  unfold logUpdate Db.logUpdate
  cases plan.loggedStatus <;> rfl

theorem alone_updateTicket (id : Nat) (dto : UpdateTicketDto) (actor : Actor) :
    alone (updateTicket s id dto actor) = Tickets.updateTicket s id dto actor := by
  have hjustify : ∀ justification : Option StatusJustification,
      alone (whenSome justification fun justification => ignored (write [.justify justification])) =
        modify fun db => db.justify justification := by
    intro justification
    cases justification with
    | none =>
      funext db
      change EStateM.Result.ok () db = .ok () (db.justify none)
      simp [Db.justify]
    | some justification => rfl
  simp only [updateTicket, commitUpdate, Tickets.updateTicket, Tickets.commitUpdate, alone_bind, alone_select, alone_orThrow,
    alone_ofExcept, hjustify, alone_write_bind, applyAll_save, forM_saveTicket, alone_persistUpdate, alone_logUpdate,
    alone_whenSome, alone_terminalHandoff, alone_pure]

/-! ### Under the assignment lock -/

theorem alone_assignTicketInternal (id : Nat) (dto : AssignTicketDto) (actor : Actor) (automaticPool : Option Pool) :
    alone (assignTicketInternal s id dto actor automaticPool) =
      Tickets.assignTicketInternal s id dto actor automaticPool := by
  simp only [assignTicketInternal, commitAssign, Tickets.assignTicketInternal, Tickets.commitAssign,
    alone_withAutoAssignmentLock, alone_bind, alone_throwIf, alone_select, alone_orThrow, alone_ofExcept, alone_write_bind,
    alone_whenSome, alone_handOnPreviousOwner, alone_pure]
  rfl

theorem alone_correctTicketAssignee (id : Nat) (dto : CorrectTicketAssigneeDto) (actor : Actor) :
    alone (correctTicketAssignee s id dto actor) = Tickets.correctTicketAssignee s id dto actor := by
  simp only [correctTicketAssignee, commitAssigneeCorrection, Tickets.correctTicketAssignee,
    Tickets.commitAssigneeCorrection, alone_withAutoAssignmentLock, alone_bind, alone_throwIf, alone_select, alone_orThrow,
    alone_ofExcept, alone_write_bind, alone_whenSome, alone_handOn, alone_handOnPreviousOwner]
  rfl

theorem alone_escalate (id : Nat) (dto : EscalateTicketDto) (actor : Actor) :
    alone (escalate s id dto actor) = Tickets.escalate s id dto actor := by
  simp only [escalate, Tickets.escalate, alone_withAutoAssignmentLock, alone_bind, alone_throwIf, alone_getTicketById,
    alone_select, alone_ofExcept, alone_ignored_write]
  rfl

theorem alone_acceptEscalation (ticketId escalationId actorId : Nat) :
    alone (acceptEscalation s ticketId escalationId actorId) = Tickets.acceptEscalation s ticketId escalationId actorId := by
  have hlog : ∀ t, alone (logTakeover t) = modify fun db => db.logTakeover t := by
    intro t
    unfold logTakeover Db.logTakeover
    split_ifs <;> rfl
  simp only [acceptEscalation, Tickets.acceptEscalation, alone_withAutoAssignmentLock, alone_bind, alone_select,
    alone_ofExcept, alone_orThrow, alone_throwIf, alone_write_bind, hlog]
  rfl

theorem alone_returnEscalation (ticketId escalationId : Nat) (returnReason : String) (actorId : Nat) :
    alone (returnEscalation ticketId escalationId returnReason actorId) =
      Tickets.returnEscalation ticketId escalationId returnReason actorId := by
  simp only [returnEscalation, Tickets.returnEscalation, alone_withAutoAssignmentLock, alone_bind, alone_select,
    alone_ofExcept, alone_throwIf, alone_ignored_write]
  rfl

theorem alone_assignPendingTicketsOnLogin (techId : Nat) :
    alone (assignPendingTicketsOnLogin s techId) = Tickets.assignPendingTicketsOnLogin s techId := by
  simp only [assignPendingTicketsOnLogin, Tickets.assignPendingTicketsOnLogin, alone_withAutoAssignmentLock, alone_bind,
    alone_select]
  congr 1
  funext db
  rcases pendingPickup s db techId with _ | _ | t <;> rfl

/-! ### Without a lock -/

theorem alone_overrideResolutionTime (id : Nat) (body : ResolutionOverride) (actor : Actor) :
    alone (overrideResolutionTime s id body actor) = Tickets.overrideResolutionTime s id body actor := by
  simp only [overrideResolutionTime, Tickets.overrideResolutionTime, alone_bind, alone_throwIf, alone_getTicketById,
    alone_ofExcept, alone_ignored_write]
  rfl

theorem alone_pauseAllActiveTickets (technicianId : Option Nat) :
    alone (pauseAllActiveTickets s technicianId) = Tickets.ignored (Tickets.pauseAllActiveTickets s technicianId) := by
  simp only [pauseAllActiveTickets, Tickets.pauseAllActiveTickets, Tickets.ignored, alone_bind, alone_select,
    alone_ignored_write, applyAll_save, forM_saveTicket, bind_assoc, pure_bind]
  rfl

theorem alone_saveChanged (f : Ticket → Except HttpException (Option Ticket)) (tickets : List Ticket) :
    alone (saveChanged f tickets) = (do
      let changed ← Tickets.ofExcept (changedTickets f tickets)
      changed.forM saveTicket) := by
  simp only [saveChanged, alone_bind, alone_ofExcept, alone_ignored_write, applyAll_save, forM_saveTicket]

/-- A job that saves what it changed, with the number of changed tickets left out. -/
theorem ignored_saveChanged (f : Ticket → Except HttpException (Option Ticket)) (tickets : List Ticket) :
    (do
      let changed ← Tickets.ofExcept (changedTickets f tickets)
      changed.forM saveTicket
      pure changed.length : TicketM Nat) >>= (fun _ => pure ()) = alone (saveChanged f tickets) := by
  simp only [alone_saveChanged, forM_saveTicket, bind_assoc, pure_bind]
  rfl

theorem alone_resumeAllActiveTickets (technicianId : Option Nat) (resumeAt : Int) :
    alone (resumeAllActiveTickets s technicianId resumeAt) =
      Tickets.ignored (Tickets.resumeAllActiveTickets s technicianId resumeAt) := by
  simp only [resumeAllActiveTickets, Tickets.resumeAllActiveTickets, Tickets.ignored, alone_bind, alone_select, bind_assoc]
  congr 1
  funext db
  cases s.config with
  | none => rfl
  | some config => exact (ignored_saveChanged _ _).symm

theorem alone_resumeCwwPresentTechnicianTickets :
    alone (resumeCwwPresentTechnicianTickets s) = Tickets.ignored (Tickets.resumeCwwPresentTechnicianTickets s) := by
  simp only [resumeCwwPresentTechnicianTickets, Tickets.resumeCwwPresentTechnicianTickets, Tickets.ignored, alone_bind,
    alone_select, bind_assoc]
  congr 1
  funext db
  cases s.config.filter (inCwwClockinWindow s) with
  | none => rfl
  | some config => exact (ignored_saveChanged _ _).symm

theorem alone_processOvertimeSlaSchedule :
    alone (processOvertimeSlaSchedule s) = Tickets.processOvertimeSlaSchedule s := by
  simp only [processOvertimeSlaSchedule, Tickets.processOvertimeSlaSchedule, alone_bind, alone_select]
  congr 1
  funext db
  cases s.config with
  | none => rfl
  | some config => exact alone_saveChanged _ _

theorem alone_recalculateTicket (config : TicketingConfig) (t : Ticket) :
    alone (recalculateTicket s config t) = Tickets.recalculateTicket s config t := by
  simp only [recalculateTicket, Tickets.recalculateTicket, alone_bind, alone_ofExcept, alone_whenSome, alone_ignored_write]
  congr 1
  funext t
  cases t <;> rfl

theorem alone_recalculateActiveSlaDeadlines :
    alone (recalculateActiveSlaDeadlines s) = Tickets.recalculateActiveSlaDeadlines s := by
  simp only [recalculateActiveSlaDeadlines, Tickets.recalculateActiveSlaDeadlines, alone_bind, alone_select]
  congr 1
  funext db
  cases s.config with
  | none => rfl
  | some config =>
    change alone ((db.tickets.filter fun t => t.status = .in_progress).forM (recalculateTicket s config)) =
      (db.tickets.filter fun t => t.status = .in_progress).forM (Tickets.recalculateTicket s config)
    induction db.tickets.filter fun t => t.status = .in_progress with
    | nil => rfl
    | cons t rest ih =>
      rw [List.forM_eq_forM, List.forM_eq_forM] at ih ⊢
      rw [List.forM_cons, List.forM_cons, alone_bind, alone_recalculateTicket, ih]

theorem alone_claimOvertimeTicket (id : Nat) (actor : Actor) :
    alone (claimOvertimeTicket s id actor) = Tickets.claimOvertimeTicket s id actor := by
  have hopen : ∀ (t : Ticket) e, Tickets.ofExcept (check
        (t.overtimeDate ≠ none ∧ t.status = .open ∧ t.assignedToId = none) e) =
      Tickets.throwIf (t.overtimeDate = none ∨ t.status ≠ .open ∨ t.assignedToId ≠ none) e := by
    intro t e
    refine ofExcept_check ?_ e
    simp only [ne_eq, not_and_or, not_not]
  have hclaims : ∀ (t : Ticket) e, Tickets.ofExcept (check
        ((s.activeUserRow actor.id).any (fun staff => staff.role = actor.role) ∧ canClaimOvertime s t actor) e) =
      Tickets.throwIf ((s.activeUserRow actor.id).all (fun staff => staff.role ≠ actor.role) ∨
        canClaimOvertime s t actor = false) e := by
    intro t e
    refine ofExcept_check ?_ e
    cases s.activeUserRow actor.id with
    | none => simp
    | some staff =>
      simp only [Option.all_some, Option.any_some, decide_eq_true_eq, ne_eq, decide_not, Bool.not_eq_true',
        decide_eq_false_iff_not, Bool.not_eq_true, not_and_or]
  simp only [claimOvertimeTicket, Tickets.claimOvertimeTicket, alone_bind, alone_withAutoAssignmentLock, alone_transaction,
    alone_getTicketById, alone_pure, claimWrites, ofExcept_bind, ofExcept_pure, ofExcept_orError, hopen, hclaims, bind_assoc,
    pure_bind]
  rfl

theorem alone_cancelTicket (id : Nat) (dto : CancelTicketDto) (actorId : Nat) :
    alone (cancelTicket s id dto actorId) = Tickets.cancelTicket s id dto actorId := by
  have hversion : ∀ (t : Ticket) (version : Nat) e, Tickets.ofExcept (check (t.updatedAt = version) e) =
      Tickets.throwIf (t.updatedAt ≠ version) e := fun t version e => ofExcept_check Iff.rfl e
  simp only [cancelTicket, Tickets.cancelTicket, alone_bind, alone_withAutoAssignmentLock, alone_transaction,
    alone_whenSome, alone_cancellationHandoff, alone_ofExcept, cancelWrites, ofExcept_bind, ofExcept_pure, ofExcept_orError,
    hversion, bind_assoc, pure_bind]
  rfl

theorem alone_saveRequester {db : Db} {id : Nat} {t : Ticket} {requester : User} {dto : CorrectTicketRequesterDto}
    {actor : Actor} (ht : db.ticket? id = some t) (h : assertRequesterCorrection s db t requester dto actor = .ok ()) :
    alone (saveRequester s t requester dto actor) db = (match dto.pendingStaffId with
      | some pendingStaffId => do
        let requester ← Tickets.ofExcept (completedRequester s t pendingStaffId)
        updateTicketRow t.id fun row => requesterCorrected s row requester
      | none => saveTicket (requesterCorrected s t requester) : TicketM Unit) db := by
  unfold saveRequester
  cases dto.pendingStaffId with
  | none => rfl
  | some pendingStaffId =>
    simp only [assertRequesterCorrection, bind_eq_ok, check_eq_ok] at h
    obtain ⟨_, hversion, _, hstatus, _, -, _, hread, -⟩ := h
    have hwrites : completedWrites s t.id dto pendingStaffId actor db =
        (completedRequester s t pendingStaffId).map fun requester =>
          ([.update t.id fun row => requesterCorrected s row requester], ()) := by
      rw [← Db.id_of_ticket? ht] at ht
      simp only [completedWrites, ht, orError, check, hversion, hstatus, hread, if_true, bind, Except.bind]
      cases completedRequester s t pendingStaffId <;> rfl
    dsimp only
    rw [alone_transaction, get_bind_apply, hwrites]
    cases completedRequester s t pendingStaffId <;> rfl

theorem alone_correctTicketRequester (id : Nat) (dto : CorrectTicketRequesterDto) (actor : Actor) :
    alone (correctTicketRequester s id dto actor) = Tickets.correctTicketRequester s id dto actor := by
  simp only [correctTicketRequester, Tickets.correctTicketRequester, alone_bind, alone_withAutoAssignmentLock,
    alone_select, alone_orThrow, alone_ofExcept]
  congr 1
  funext requester db
  rw [get_bind_apply, get_bind_apply, bind_apply, bind_apply]
  cases ht : db.ticket? id with
  | none => rfl
  | some t =>
    change (Tickets.ofExcept (assertRequesterCorrection s db t requester dto actor) >>= _) db =
      (Tickets.ofExcept (assertRequesterCorrection s db t requester dto actor) >>= _) db
    rw [bind_apply, bind_apply]
    cases hassert : assertRequesterCorrection s db t requester dto actor with
    | error e => rfl
    | ok u => exact alone_saveRequester s ht hassert

end

end ComplianceHub.Tickets.Interleaved
