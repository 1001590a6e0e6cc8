import ComplianceHub.Tickets.Attendance
import ComplianceHub.Tickets.Separation

/-!
# Automatic assignment

* `reassignUnavailableTechnicianTickets` : the tickets of a technician who becomes unavailable;
* `Services.rereading` : the services whose pools are read again from a roster before the write;
* `AssignsAutomatically` : an automatic path writes an assignee. There are six: filing, a reset to Open, the pickup
  after a completion, the pickup on attendance, the absence and the attendance alert;
* `automatic_assignment_is_eligible` : each of them ends in the same gate.
-/

namespace ComplianceHub.Tickets

open ComplianceHub.Lib

/-! ## Absence -/

section
variable (s : Services)

/-- The tickets an absent technician gives back. -/
def isReassignable (techId : Nat) (t : Ticket) : Bool :=
  t.assignedToId = some techId &&
    (t.status = .assigned || (t.status = .in_progress && t.ticketType = .specialized_concerns))

/-- Nullify assignedTo so it acts like an open ticket for the auto assignment logic. -/
def unassignedTicket (t : Ticket) : Ticket :=
  let t := { t with assignedToId := none, status := .open, lastAssignedAt := none, isSlaWaiting := false }
  if t.ticketType = .specialized_concerns then
    if t.slaDeadline.isSome ∧ t.slaPausedAt = none then { t with slaPausedAt := some s.now } else t
  else { t with slaStartedAt := none, slaDeadline := none, slaPausedAt := none }

/-- The first free technician of the ticket's pool who passes the gate. -/
def absenceAssignee (db : Db) (t : Ticket) : Option User :=
  if t.ticketType ≠ .pantawid_ict_support ∧ s.isOfficeDay s.today = false then none
  else
    let presentTechs := s.getAutoAssignmentTechnicians (.type t.ticketType)
    let eligibleTechs := presentTechs.filter fun tech => !s.isSeniorTech tech.role
    eligibleTechs.find? fun tech =>
      openCount db tech.id = 0 && canAutomaticallyAssign s tech.id (.type t.ticketType) t.requesterId

def assignedOnAbsence (t : Ticket) (techId : Nat) : Ticket :=
  { t with assignedToId := some techId, status := .assigned, lastAssignedAt := some s.now }

def reassignUnavailableTicket (t : Ticket) : TicketM Unit := do
  let t := unassignedTicket s t
  saveTicket t
  if t.ticketType = .specialized_concerns then pure ()
  else
    let db ← get
    whenSome (absenceAssignee s db t) fun tech => saveTicket (assignedOnAbsence s t tech.id)

end

/-- Each ticket is handled with what the services answer then. -/
def reassignUnavailableTechnicianTickets (reads : Nat → Services) (techId : Nat) : TicketM Unit := do
  let db ← get
  (db.tickets.filter (isReassignable techId)).forM fun t => reassignUnavailableTicket (reads t.id) t

/-- The owner of a row, if any, has passed the gate for it. -/
def OwnerPassed (s : Services) (t : Ticket) : Prop :=
  ∀ owner, t.assignedToId = some owner → canAutomaticallyAssign s owner (.type t.ticketType) t.requesterId = true

section
variable {s : Services} {db db' : Db}

theorem OwnerPassed.savedRow {t : Ticket} (h : OwnerPassed s t) (row : Ticket) : OwnerPassed s (savedRow row t) := by
  obtain ⟨version, hv⟩ := savedRow_eq row t
  rw [hv]
  exact h

/-- A saved entity takes the place of its row. -/
theorem Db.mem_save {t u : Ticket} (h : u ∈ (db.save t).tickets) :
    u.id = t.id ∧ (∃ row, u = savedRow row t) ∨ u ∈ db.tickets ∧ u.id ≠ t.id := by
  unfold Db.save at h
  cases hrow : db.ticket? t.id with
  | none =>
    rw [hrow] at h
    refine .inr ⟨h, fun hid => ?_⟩
    rw [← hid, Db.ticket?_of_mem h] at hrow
    cases hrow
  | some row =>
    rw [hrow] at h
    obtain ⟨version, hv⟩ := savedRow_eq row t
    rcases Db.mem_setTicket h with rfl | ⟨hu, hne⟩
    · exact .inl ⟨by rw [hv], row, rfl⟩
    · refine .inr ⟨hu, ?_⟩
      rwa [hv] at hne

theorem unassignedTicket_eq (t : Ticket) : (unassignedTicket s t).id = t.id ∧ (unassignedTicket s t).assignedToId = none := by
  unfold unassignedTicket
  dsimp only
  split_ifs <;> exact ⟨rfl, rfl⟩

theorem mem_reassignUnavailableTicket {t u : Ticket} {r : Unit}
    (h : Returns (reassignUnavailableTicket s t) db r db') (hu : u ∈ db'.tickets) :
    u.id = t.id ∧ OwnerPassed s u ∨ u ∈ db.tickets ∧ u.id ≠ t.id := by
  obtain ⟨hid, hnone⟩ := unassignedTicket_eq (s := s) t
  have hopened : ∀ u ∈ (db.save (unassignedTicket s t)).tickets,
      u.id = t.id ∧ OwnerPassed s u ∨ u ∈ db.tickets ∧ u.id ≠ t.id := by
    intro u hu
    rcases Db.mem_save hu with ⟨huid, row, rfl⟩ | ⟨hmem, hne⟩
    · refine .inl ⟨huid.trans hid, OwnerPassed.savedRow (fun owner howner => ?_) row⟩
      rw [hnone] at howner
      cases howner
    · exact .inr ⟨hmem, hid ▸ hne⟩
  simp only [reassignUnavailableTicket, returns_bind, returns_saveTicket] at h
  obtain ⟨_, _, rfl, h⟩ := h
  split_ifs at h
  · obtain ⟨-, rfl⟩ := (returns_pure _ _).mp h
    exact hopened u hu
  · simp only [returns_bind, returns_get] at h
    obtain ⟨_, _, ⟨rfl, rfl⟩, h⟩ := h
    rcases returns_whenSome.mp h with ⟨-, rfl⟩ | ⟨tech, htech, h⟩
    · exact hopened u hu
    · rw [returns_saveTicket] at h
      subst h
      rcases Db.mem_save hu with ⟨huid, row, rfl⟩ | ⟨hmem, -⟩
      · refine .inl ⟨huid.trans hid, OwnerPassed.savedRow (fun owner howner => ?_) row⟩
        obtain rfl : tech.id = owner := Option.some.inj howner
        unfold absenceAssignee at htech
        split_ifs at htech
        have hpassed := List.find?_some htech
        simp only [Bool.and_eq_true] at hpassed
        exact hpassed.2
      · exact hopened u hmem

/-- After the loop the row of a ticket it handled has an owner who passed, or none. -/
theorem mem_reassignUnavailableTickets {reads : Nat → Services} {tickets : List Ticket} {u : Ticket} {r : Unit}
    (h : Returns (tickets.forM fun t => reassignUnavailableTicket (reads t.id) t) db r db') (hu : u ∈ db'.tickets) :
    OwnerPassed (reads u.id) u ∨ u ∈ db.tickets ∧ u.id ∉ tickets.map Ticket.id := by
  induction tickets generalizing db with
  | nil =>
    obtain ⟨-, rfl⟩ := (returns_pure _ _).mp h
    exact .inr ⟨hu, List.not_mem_nil⟩
  | cons t rest ih =>
    simp only [List.forM_eq_forM, List.forM_cons, returns_bind] at h ih
    obtain ⟨_, db₁, hfirst, hrest⟩ := h
    rcases ih hrest with hpassed | ⟨hmem, hnot⟩
    · exact .inl hpassed
    · rcases mem_reassignUnavailableTicket hfirst hmem with ⟨hid, hpassed⟩ | ⟨hmem, hne⟩
      · exact .inl (hid ▸ hpassed)
      · refine .inr ⟨hmem, ?_⟩
        rw [List.map_cons, List.mem_cons, not_or]
        exact ⟨hne, hnot⟩

end

/-! ## The gate -/

section
variable (s : Services)

/-- The assignee is a member of one of the pools as they are read again, and not the requester. -/
structure PassesGate (pools : List Pool) (owner requesterId : Nat) : Prop where
  ne_requester : owner ≠ requesterId
  inPool : ∃ pool ∈ pools, ∃ u ∈ s.currentTechnicians pool, u.id = owner

variable {s} {db db' : Db}

theorem passesGate_of_canAutomaticallyAssign {pools : List Pool} {pool : Pool} {owner requesterId : Nat}
    (h : canAutomaticallyAssign s owner pool requesterId = true) (hpool : pool ∈ pools) :
    PassesGate s pools owner requesterId := by
  refine ⟨ne_requester_of_canAutomaticallyAssign s h, pool, hpool, ?_⟩
  simp only [canAutomaticallyAssign, Bool.and_eq_true, List.any_eq_true, decide_eq_true_eq] at h
  exact h.2

/-! ## The six paths -/

/-- Filing: the requester may still become another account, which is compared again. -/
theorem passesGate_filing {dto : CreateTicketDto} {caller : Actor} {owner : Nat} {t : Ticket}
    (h : (Op.createTicket dto caller).Completes s db db') (hauto : dto.assignedToId = none)
    (hday : s.isOvertimeDay s.today = false) (ht : t ∈ db'.tickets) (hnew : db.ticket? t.id = none)
    (howner : t.assignedToId = some owner) : PassesGate s (fallbackChain t.ticketType) owner t.requesterId := by
  obtain ⟨id, h⟩ := returns_ignored.mp h
  simp only [createTicket, returns_bind, returns_get, returns_ofExcept, returns_modify, returns_pure] at h
  obtain ⟨_, _, ⟨rfl, rfl⟩, filed, _, ⟨hfiled, rfl⟩, _, _, rfl, -, rfl⟩ := h
  have hseparated := (createTicketInternal_filed s db hfiled).separated
  have hrow : t = { filed with id := db.nextId } := by
    refine (Db.mem_insertTicket ht).resolve_left fun hmem => ?_
    rw [Db.ticket?_of_mem hmem] at hnew
    cases hnew
  subst hrow
  change filed.assignedToId = some owner at howner
  change PassesGate s (fallbackChain filed.ticketType) owner filed.requesterId
  simp only [createTicketInternal, bind_eq_ok] at hfiled
  obtain ⟨requester, -, -, -, routing, -, a, ha, _, -, saved, -, hfiled⟩ := hfiled
  cases hfiled
  change (dropStaleAssignment s dto requester.1 a).assignedToId = some owner at howner
  change Separated routing.ticketType (dropStaleAssignment s dto requester.1 a).assignedToId saved.1 at hseparated
  change PassesGate s (fallbackChain routing.ticketType) owner saved.1
  rw [howner] at hseparated
  simp only [initialAssignment, hday, hauto, Bool.false_eq_true, if_false] at ha
  split_ifs at ha with htype
  · cases ha
    simp [dropStaleAssignment, hauto] at howner
  · split at ha
    case h_2 =>
      cases ha
      simp [dropStaleAssignment, hauto] at howner
    case h_1 tech pool hchosen =>
      cases ha
      simp only [dropStaleAssignment, hauto, assignTo] at howner
      split_ifs at howner with hgate
      obtain rfl : tech.id = owner := Option.some.inj howner
      obtain ⟨pool', hpool, hmap⟩ := List.exists_of_findSome?_eq_some hchosen
      obtain ⟨_, -, heq⟩ := Option.map_eq_some_iff.mp hmap
      cases heq
      have hpassed := passesGate_of_canAutomaticallyAssign hgate hpool
      exact ⟨fun heq => hseparated.resolve_left htype (congrArg some heq), hpassed.inPool⟩

/-- A reset to Open: the ticket may be given away again at once. -/
theorem passesGate_reset {id owner : Nat} {dto : UpdateTicketDto} {actor : Actor} {saved t : Ticket}
    (h : Returns (updateTicket s id dto actor) db saved db') (hopen : dto.status = some .open)
    (ht : db'.ticket? id = some t) (howner : t.assignedToId = some owner) :
    PassesGate s [.type t.ticketType] owner t.requesterId := by
  obtain ⟨row, plan, db₁, hrow, hplan, -, hpersist, hfree⟩ := returns_updateTicket s h
  have hid : plan.ticket.id = id := (planUpdate_id s hplan).trans (Db.id_of_ticket? hrow)
  have hnone : plan.handoff = none := by
    cases hhandoff : plan.handoff with
    | none => rfl
    | some owner =>
      have hoff := planUpdate_handoff s hplan hhandoff
      have htarget := hoff.target.symm.trans hopen
      exact absurd (Option.some.inj htarget) (isHandoffStatus_ne_open hoff.isHandoff)
  rw [hnone] at hfree
  cases hfree
  obtain ⟨-, hrequester, ⟨hne, -⟩ | ⟨-, hchosen⟩⟩ := planUpdate_people hplan
  · exact absurd hopen hne
  obtain ⟨t', ht'id, hrows, -, ⟨-, rfl⟩ | ⟨⟨reason, hdup⟩, -⟩⟩ := hpersist.row s (ticket?_beforeSave s hrow hplan)
  · have hsaved : t = savedRow row plan.ticket := by
      have hmem := Db.mem_of_ticket? ht
      have hlogged : (db₁.logUpdate plan).tickets = db₁.tickets := by
        rw [Db.logUpdate]
        split <;> rfl
      rw [hlogged, hrows] at hmem
      refine (Db.mem_setTicket hmem).resolve_right fun hother => hother.2 ?_
      rw [Db.id_of_ticket? ht, ht'id, hid]
    obtain ⟨version, hv⟩ := savedRow_eq row plan.ticket
    rw [hsaved, hv] at howner ⊢
    change PassesGate s [.type plan.ticket.ticketType] owner plan.ticket.requesterId
    rw [hrequester]
    exact passesGate_of_canAutomaticallyAssign (hchosen owner howner) List.mem_cons_self
  · have hstatus := status_of_planUpdate_persist hplan hdup
    rw [hopen] at hstatus
    cases hstatus

/-- The pickup after a completion: another ticket, that had no owner. -/
theorem passesGate_completion {id owner : Nat} {dto : UpdateTicketDto} {actor : Actor} {row t : Ticket}
    (h : (Op.updateTicket id dto actor).Completes s db db') (hrow : row ∈ db.tickets) (hnone : row.assignedToId = none)
    (hother : row.id ≠ id) (ht : t ∈ db'.tickets) (hid : t.id = row.id) (howner : t.assignedToId = some owner) :
    PassesGate s [.all] owner t.requesterId := by
  obtain ⟨t', ht', hid', hstep⟩ := h.later hrow
  obtain rfl : t' = t := Db.eq_of_id_eq ht' ht (hid'.trans hid.symm)
  rcases hstep with rfl | hstep
  · rw [hnone] at howner
    cases howner
  cases hstep with
  | updated hrow' _ _ => exact absurd (Db.id_of_ticket? hrow') hother
  | markedDuplicate hrow' _ _ => exact absurd (Db.id_of_ticket? hrow') hother
  | pushedBack _ _ =>
    rw [savedRow_assignedToId, hnone] at howner
    cases howner
  | pickedUp hp =>
    obtain ⟨slaDeadline, -, heq⟩ := hp.eq
    rw [heq, savedRow_assignedToId] at howner
    obtain rfl := Option.some.inj howner
    rw [heq, savedRow_requesterId]
    exact passesGate_of_canAutomaticallyAssign hp.isEligible List.mem_cons_self
  | promoted _ _ hp =>
    have hwaits := hp.waits
    simp [waitsFor, hnone] at hwaits
  | resumed hop => cases hop

/-- The support types of the technicians. -/
def supportPools : List Pool := [.type .desktop_support, .type .it_support, .type .pantawid_ict_support]

theorem technicianType_mem {role : Role} {ticketType : TicketType} (h : technicianType s role = some ticketType) :
    .type ticketType ∈ supportPools := by
  unfold technicianType at h
  dsimp only at h
  split_ifs at h
  all_goals
    cases h
    decide

/-- The pickup on attendance: a ticket that had no owner. -/
theorem passesGate_attendance {techId owner : Nat} {row t : Ticket} {u : Unit}
    (h : Returns (assignPendingTicketsOnLogin s techId) db u db') (hrow : row ∈ db.tickets)
    (hnone : row.assignedToId = none) (ht : t ∈ db'.tickets) (hid : t.id = row.id) (howner : t.assignedToId = some owner) :
    PassesGate s supportPools owner t.requesterId := by
  have hkept : t ∈ db.tickets → PassesGate s supportPools owner t.requesterId := fun hmem => by
    obtain rfl := Db.eq_of_id_eq hmem hrow hid
    rw [hnone] at howner
    cases howner
  obtain rfl | ⟨saved, hpickup, rfl⟩ := returns_assignPendingTicketsOnLogin s h
  · exact hkept ht
  obtain ⟨pending, -, -, -, ⟨role, pendingType, htype, hgate⟩, hpicked⟩ := pendingPickup_eq_some s hpickup
  rcases Db.mem_save ht with ⟨-, stored, rfl⟩ | ⟨hmem, -⟩
  · obtain ⟨_, rfl, -⟩ := pickedUpTicket_eq s hpicked
    rw [savedRow_assignedToId] at howner
    obtain rfl : techId = owner := Option.some.inj howner
    rw [savedRow_requesterId]
    exact passesGate_of_canAutomaticallyAssign hgate (technicianType_mem htype)
  · exact hkept hmem

/-- The attendance alert: an assignment with the pool it was chosen from. -/
theorem passesGate_alert {id : Nat} {dto : AssignTicketDto} {actor : Actor} {pool : Pool} {t : Ticket}
    (h : (Op.assignTicketInternal id dto actor (some pool)).Completes s db db') (ht : db'.ticket? id = some t) :
    PassesGate s [pool] dto.assignedToId t.requesterId := by
  obtain ⟨saved, hreturns⟩ := returns_ignored.mp h
  obtain ⟨row, plan, hrow, hplan, -, -⟩ := returns_assignTicketInternal s hreturns
  -- an assignment writes no requester
  have hrequester : t.requesterId = row.requesterId := by
    obtain ⟨t', ht', hid, hstep⟩ := h.later (Db.mem_of_ticket? hrow)
    have hsame : t' = t := by
      have hstored := Db.ticket?_of_mem ht'
      rw [hid, Db.id_of_ticket? hrow, ht, Option.some.injEq] at hstored
      exact hstored.symm
    subst hsame
    rcases hstep with rfl | hstep
    · rfl
    cases hstep with
    | assigned _ hplan' =>
      obtain ⟨loaded, hload, -, hassigned, -⟩ := planAssign_eq_ok s hplan'
      obtain ⟨_, hticket, -⟩ := assignedTicket_eq s hassigned
      rw [savedRow_requesterId, hticket]
      exact (loadTicket_loads hload).requesterId
    | promoted _ _ hp =>
      obtain ⟨_, -, rfl⟩ := hp.eq
      rfl
    | resumed hop => cases hop
  simp only [planAssign, bind_eq_ok, check_eq_ok, Option.all_some] at hplan
  obtain ⟨loaded, hload, -, -, assigned, hassigned, -, hgate, -⟩ := hplan
  obtain ⟨_, hticket, -⟩ := assignedTicket_eq s hassigned
  have hassignedRequester : assigned.requesterId = row.requesterId := by
    rw [hticket]
    exact (loadTicket_loads hload).requesterId
  rw [hassignedRequester, ← hrequester] at hgate
  exact passesGate_of_canAutomaticallyAssign hgate List.mem_cons_self

end

/-! ## Eligibility at the gate -/

/-- The services whose pools are read again from these tables, for this day, before the write. -/
def Services.rereading (s : Services) (r : Roster) (date : Int) : Services :=
  { s with currentTechnicians := fun pool => r.getAutoAssignmentTechnicians pool date }

/-- An automatic path may write the owner of the row `t`, from one of these pools. Filing and a reset to Open ask for
the day anew before the gate, the other paths keep the day they began on. -/
inductive AssignsAutomatically (s : Services) (r : Roster) (db db' : Db) (t : Ticket) : List Pool → Int → Prop where
  | filing {dto : CreateTicketDto} {caller : Actor} :
      (Op.createTicket dto caller).Completes (s.rereading r r.today) db db' → dto.assignedToId = none →
      s.isOvertimeDay s.today = false → db.ticket? t.id = none →
      AssignsAutomatically s r db db' t (fallbackChain t.ticketType) r.today
  | reset {dto : UpdateTicketDto} {actor : Actor} :
      (Op.updateTicket t.id dto actor).Completes (s.rereading r r.today) db db' → dto.status = some .open →
      AssignsAutomatically s r db db' t [.type t.ticketType] r.today
  | completion {id : Nat} {dto : UpdateTicketDto} {actor : Actor} {row : Ticket} :
      (Op.updateTicket id dto actor).Completes (s.rereading r s.today) db db' → t.id ≠ id →
      row ∈ db.tickets → row.id = t.id → row.assignedToId = none → AssignsAutomatically s r db db' t [.all] s.today
  | attendance {techId : Nat} {row : Ticket} :
      (Op.assignPendingTicketsOnLogin techId).Completes (s.rereading r s.today) db db' →
      row ∈ db.tickets → row.id = t.id → row.assignedToId = none → AssignsAutomatically s r db db' t supportPools s.today
  | absence {reads : Nat → Services} {techId : Nat} {row : Ticket} :
      Returns (reassignUnavailableTechnicianTickets reads techId) db () db' → reads t.id = s.rereading r s.today →
      row ∈ db.tickets → row.id = t.id → isReassignable techId row = true →
      AssignsAutomatically s r db db' t [.type t.ticketType] s.today
  | alert {dto : AssignTicketDto} {actor : Actor} {pool : Pool} :
      (Op.assignTicketInternal t.id dto actor (some pool)).Completes (s.rereading r s.today) db db' →
      t.assignedToId = some dto.assignedToId → AssignsAutomatically s r db db' t [pool] s.today

section
variable {s : Services} {r : Roster} {db db' : Db} {t : Ticket} {pools : List Pool} {date : Int} {owner : Nat}

/-- Each path ends in the gate. -/
theorem AssignsAutomatically.passesGate (h : AssignsAutomatically s r db db' t pools date) (ht : t ∈ db'.tickets)
    (howner : t.assignedToId = some owner) : PassesGate (s.rereading r date) pools owner t.requesterId := by
  have hrow := Db.ticket?_of_mem ht
  cases h with
  | filing hop hauto hday hnew => exact passesGate_filing hop hauto hday ht hnew howner
  | reset hop hopen =>
    obtain ⟨saved, hreturns⟩ := returns_ignored.mp hop
    exact passesGate_reset hreturns hopen hrow howner
  | completion hop hother hmem hid hnone => exact passesGate_completion hop hmem hnone (hid ▸ hother) ht hid.symm howner
  | attendance hop hmem hid hnone => exact passesGate_attendance hop hmem hnone ht hid.symm howner
  | absence hreturns hreads hmem hid hgiven =>
    simp only [reassignUnavailableTechnicianTickets, returns_bind, returns_get] at hreturns
    obtain ⟨_, _, ⟨rfl, rfl⟩, hloop⟩ := hreturns
    rcases mem_reassignUnavailableTickets hloop ht with hpassed | ⟨-, hnot⟩
    · rw [hreads] at hpassed
      exact passesGate_of_canAutomaticallyAssign (hpassed owner howner) List.mem_cons_self
    · refine absurd ?_ hnot
      rw [← hid]
      exact List.mem_map_of_mem (List.mem_filter.mpr ⟨hmem, hgiven⟩)
  | alert hop hstored =>
    obtain rfl := Option.some.inj (hstored.symm.trans howner)
    exact passesGate_alert hop hrow

/-- **Automatic assignment is eligible**: whoever an automatic path writes as an owner is not the requester, and has
passed everything a pool of the path asks for, as the roster stood when it was read again. -/
theorem automatic_assignment_is_eligible (h : AssignsAutomatically s r db db' t pools date) (ht : t ∈ db'.tickets)
    (howner : t.assignedToId = some owner) : owner ≠ t.requesterId ∧ ∃ pool ∈ pools, r.Eligible pool date owner := by
  obtain ⟨hne, pool, hpool, u, hu, rfl⟩ := h.passesGate ht howner
  exact ⟨hne, pool, hpool, Roster.eligible_of_mem_getAutoAssignmentTechnicians hu⟩

end

/-- Technician 2 is marked Present by hand, technician 3 has clocked in at eight. -/
def officeRoster : Roster where
  now := 3600000
  roleCapability := officeCapability
  users := [1, 2, 3].map fun id => { id, role := officeRole id }
  attendance := [{ userId := 2, date := 0, isManualOverride := true }, { userId := 3, date := 0, clockInTime := some 0 }]
  userKey := by decide
  attendanceKey := by decide

/-- The office with automatic assignment to one of its technicians. -/
def automaticOffice (technicianId : Nat) : Services :=
  { office 3600000 with
    getAutoAssignmentTechnicians := fun pool =>
      (officeRoster.getAutoAssignmentTechnicians pool 0).filter fun tech => tech.id = technicianId }

/-- A request is filed, and given to the technician. -/
theorem exists_filed_for (technicianId : Nat) (htech : technicianId ∈ [2, 3]) :
    ∃ db' t, AssignsAutomatically (automaticOffice technicianId) officeRoster {} db' t (fallbackChain t.ticketType) 0 ∧
      t ∈ db'.tickets ∧ t.assignedToId = some technicianId := by
  have hany : ∀ technicianId ∈ [2, 3], (((Op.createTicket request (officeActor 1)).next
      ((automaticOffice technicianId).rereading officeRoster officeRoster.today) {}).any fun db' =>
        ∃ t ∈ db'.tickets, t.assignedToId = some technicianId) = true := by decide +kernel
  obtain ⟨db', hnext, h⟩ := (Option.any_eq_true _ _).mp (hany technicianId htech)
  obtain ⟨t, ht, howner⟩ := of_decide_eq_true h
  exact ⟨db', t, .filing (Op.completes_of_next hnext) rfl rfl rfl, ht, howner⟩

/-- The night of a compressed week: technician 3 clocked in after one, for a shift that ends past midnight. -/
def nightRoster (now : Int) : Roster where
  now
  config := some { scheduleMode := .cww }
  roleCapability := officeCapability
  users := [1, 3].map fun id => { id, role := officeRole id }
  attendance := [{ userId := 3, date := 0, clockInTime := some 18000500 }]
  userKey := by decide
  attendanceKey := by decide

/-- The office just before that midnight. -/
def nightOffice : Services :=
  { office 57599900 with
    getAutoAssignmentTechnicians := fun pool => (nightRoster 57599900).getAutoAssignmentTechnicians pool 0 }

/-- Technician 3 picks up a ticket just before midnight; the gate reads the day that has ended. -/
theorem exists_pickup_at_midnight : ∃ db db' t, AssignsAutomatically nightOffice (nightRoster 57601000) db db' t supportPools 0 ∧
    t ∈ db'.tickets ∧ t.assignedToId = some 3 := by
  have hany : (((Op.createTicket request (officeActor 1)).next (office 0) {}).any fun db =>
      ((Op.assignPendingTicketsOnLogin 3).next (nightOffice.rereading (nightRoster 57601000) nightOffice.today) db).any
        fun db' => ∃ row ∈ db.tickets, row.assignedToId = none ∧
          ∃ t ∈ db'.tickets, row.id = t.id ∧ t.assignedToId = some 3) = true := by decide +kernel
  obtain ⟨db, -, h⟩ := (Option.any_eq_true _ _).mp hany
  obtain ⟨db', hnext, h⟩ := (Option.any_eq_true _ _).mp h
  obtain ⟨row, hrow, hnone, t, ht, hid, howner⟩ := of_decide_eq_true h
  exact ⟨db, db', t, .attendance (Op.completes_of_next hnext) hrow hid hnone, ht, howner⟩

/-- A manual override needs no clock-in, and after midnight the shift of the day that has ended is not asked for. -/
theorem shift_is_not_always_active :
    (¬ ∀ (s : Services) (r : Roster) (db db' : Db) (t : Ticket) (pools : List Pool) (date : Int) (owner : Nat),
      AssignsAutomatically s r db db' t pools date → t ∈ db'.tickets → t.assignedToId = some owner →
        ∃ a ∈ r.attendance, a.userId = owner ∧ a.date = date ∧ a.status = .present ∧
          ∃ clockInTime ∈ a.clockInTime, r.now ≤ r.clockOutTime clockInTime) ∧
    ¬ ∀ (s : Services) (r : Roster) (db db' : Db) (t : Ticket) (pools : List Pool) (date : Int) (owner : Nat),
      AssignsAutomatically s r db db' t pools date → t ∈ db'.tickets → t.assignedToId = some owner →
        ∃ a ∈ r.attendance, a.userId = owner ∧ a.date = date ∧ a.status = .present ∧ r.isShiftActive a = true := by
  constructor
  · intro h
    obtain ⟨db', t, hfiled, ht, howner⟩ := exists_filed_for 2 (by decide)
    have hnone : ¬ ∃ a ∈ officeRoster.attendance, a.userId = 2 ∧ a.date = 0 ∧ a.status = .present ∧
        ∃ clockInTime ∈ a.clockInTime, officeRoster.now ≤ officeRoster.clockOutTime clockInTime := by decide +kernel
    exact hnone (h _ _ _ _ _ _ _ _ hfiled ht howner)
  · intro h
    obtain ⟨db, db', t, hpicked, ht, howner⟩ := exists_pickup_at_midnight
    have hnone : ¬ ∃ a ∈ (nightRoster 57601000).attendance, a.userId = 3 ∧ a.date = 0 ∧ a.status = .present ∧
        (nightRoster 57601000).isShiftActive a = true := by decide +kernel
    exact hnone (h _ _ _ _ _ _ _ _ hpicked ht howner)

theorem automatic_assignment_is_eligible_filed : ∃ (db' : Db) (t : Ticket), t ∈ db'.tickets ∧ t.assignedToId = some 3 ∧
    3 ≠ t.requesterId ∧ ∃ pool ∈ fallbackChain t.ticketType, officeRoster.Eligible pool 0 3 := by
  obtain ⟨db', t, hfiled, ht, howner⟩ := exists_filed_for 3 (by decide)
  exact ⟨db', t, ht, howner, automatic_assignment_is_eligible hfiled ht howner⟩

end ComplianceHub.Tickets
