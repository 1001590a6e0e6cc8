import ComplianceHub.Tickets.Queue
import ComplianceHub.Tickets.Read

/-!
# Jobs of the scheduler

* `assignPendingTicketsOnLogin` : a technician whose attendance is recorded picks up an open ticket;
* `pauseAllActiveTickets`, `resumeAllActiveTickets`, `resumeCwwPresentTechnicianTickets`,
  `processOvertimeSlaSchedule` : the minute job of the work schedule;
* `recalculateActiveSlaDeadlines` : live deadlines after a change of the office days.
-/

namespace ComplianceHub.Tickets

open ComplianceHub.Sla

section
variable (s : Services)

/-! ## Pickup on attendance -/

/-- The technician capability of a role, the first of three. -/
def technicianType (role : Role) : Option TicketType :=
  let c := s.roleCapability role
  if c.isDesktop then some .desktop_support
  else if c.isItSupport then some .it_support
  else if c.isPantawidIct then some .pantawid_ict_support
  else none

/-- The support types a technician picks up, in fallback order. -/
def pendingTypes : TicketType → List TicketType
  | .desktop_support => [.desktop_support, .it_support, .pantawid_ict_support]
  | .it_support => [.it_support, .desktop_support, .pantawid_ict_support]
  | _ => [.pantawid_ict_support, .desktop_support, .it_support]

/-- The oldest open ticket for a technician: overtime carry-overs first, then by support type. -/
def pendingTicket (db : Db) (techId : Nat) (ticketType : TicketType) : Option Ticket :=
  let isOfficeDayToday := s.isOfficeDay s.today
  let unassigned (t : Ticket) : Bool := t.status = .open && t.assignedToId.isNone && t.requesterId ≠ techId
  let carriedOver (t : Ticket) : Bool := t.overtimeDate.any fun date => date < s.today
  let carryOver := if isOfficeDayToday then
      db.oldest fun t => unassigned t && carriedOver t && (pendingTypes ticketType).contains t.ticketType
    else none
  carryOver <|> (pendingTypes ticketType).findSome? fun pendingType =>
    db.oldest fun t => unassigned t && t.ticketType = pendingType &&
      (t.overtimeDate.isNone || (carriedOver t && isOfficeDayToday))

/-- The picked-up ticket of a technician who has `currentOpen` tickets. -/
def pickedUpTicket (t : Ticket) (techId currentOpen : Nat) (breached : Bool) : Except HttpException Ticket := do
  let shouldStartInProgress : Bool := currentOpen = 0 || breached
  let t := { t with
    assignedToId := some techId
    status := if shouldStartInProgress then .in_progress else .assigned
    lastAssignedAt := some s.now
    isSlaWaiting := 0 < currentOpen && !breached
    slaPausedAt := none }
  if shouldStartInProgress then
    let slaDeadline ← calculateTicketSlaDeadline s none t.issueTypeId t.overtimeSlaDate s.now
    pure { t with slaStartedAt := some s.now, accumulatedPauseSeconds := 0, slaDeadline }
  else pure { t with slaStartedAt := none, slaDeadline := none }

theorem pickedUpTicket_eq {t t' : Ticket} {techId currentOpen : Nat} {breached : Bool}
    (h : pickedUpTicket s t techId currentOpen breached = .ok t') : ∃ sla : TicketSla,
      t' = { t with
        assignedToId := some techId, lastAssignedAt := some s.now, toTicketSla := sla
        status := if currentOpen = 0 || breached then .in_progress else .assigned } ∧
      sla.isSlaWaiting = (0 < currentOpen && !breached) ∧ sla.slaPausedAt = none := by
  unfold pickedUpTicket at h
  dsimp only at h
  split_ifs at h ⊢ with hstarts
  · obtain ⟨slaDeadline, -, h⟩ := bind_eq_ok.mp h
    cases h
    exact ⟨_, rfl, rfl, rfl⟩
  · cases h
    exact ⟨_, rfl, rfl, rfl⟩

theorem pickedUpTicket_id {t t' : Ticket} {techId currentOpen : Nat} {breached : Bool}
    (h : pickedUpTicket s t techId currentOpen breached = .ok t') : t'.id = t.id := by
  obtain ⟨_, rfl, -⟩ := pickedUpTicket_eq s h
  rfl

/-- The technician may pick up a ticket of this support type now. -/
def canPickUp (db : Db) (techId : Nat) (ticketType : TicketType) : Bool :=
  (ticketType = .pantawid_ict_support || s.isOfficeDay s.today) &&
    ((s.getAutoAssignmentTechnicians (.type ticketType)).any fun tech => tech.id = techId) &&
    if isCappedRoundRobin s.config then getWeeklySlaLoad s db techId < roundRobinCapHours s.config
    else busyCount db techId = 0

/-- The entity the pickup saves. -/
def pendingPickup (db : Db) (techId : Nat) : Except HttpException (Option Ticket) := do
  match (s.getUserById techId).filter fun tech => !s.isSeniorTech tech.role with
  | none => pure none
  | some tech =>
    match (technicianType s tech.role).filter (canPickUp s db techId) with
    | none => pure none
    | some ticketType =>
      -- OT carryovers are first picked up on an ordinary office day, never on another OT day.
      match (pendingTicket s db techId ticketType).filter fun t =>
          t.overtimeDate.isNone || (s.isOfficeDay s.today && !s.isOvertimeDay s.today) with
      | none => pure none
      | some pending =>
        let t ← pickedUpTicket s pending techId (busyCount db techId) (hasBreachedActiveTicket s db techId)
        if canAutomaticallyAssign s techId (.type ticketType) pending.requesterId then pure (some t) else pure none

/-- A failed pickup is not reported. -/
def assignPendingTicketsOnLogin (techId : Nat) : TicketM Unit := do
  let db ← get
  match pendingPickup s db techId with
  | .ok (some t) => saveTicket t
  | _ => pure ()

theorem returns_assignPendingTicketsOnLogin {techId : Nat} {db db' : Db} {u : Unit}
    (h : Returns (assignPendingTicketsOnLogin s techId) db u db') :
    db' = db ∨ ∃ t, pendingPickup s db techId = .ok (some t) ∧ db' = db.save t := by
  simp only [assignPendingTicketsOnLogin, returns_bind, returns_get] at h
  obtain ⟨_, _, ⟨rfl, rfl⟩, h⟩ := h
  split at h
  case h_1 t ht => exact .inr ⟨t, ht, (returns_saveTicket _).mp h⟩
  case h_2 => exact .inl ((returns_pure _ _).mp h).2.symm

/-- A pickup takes an unassigned open ticket. -/
theorem pendingPickup_eq_some {db : Db} {techId : Nat} {t : Ticket} (h : pendingPickup s db techId = .ok (some t)) :
    ∃ row ∈ db.tickets, row.status = .open ∧ row.assignedToId = none ∧
      (∃ role pendingType, technicianType s role = some pendingType ∧
        canAutomaticallyAssign s techId (.type pendingType) row.requesterId = true) ∧
      pickedUpTicket s row techId (busyCount db techId) (hasBreachedActiveTicket s db techId) = .ok t := by
  unfold pendingPickup at h
  split at h
  · cases h
  split at h
  · cases h
  rename_i ticketType hticketType
  have htype := Option.eq_some_of_filter_eq_some hticketType
  split at h
  · cases h
  rename_i pending hpending
  obtain ⟨t', ht', h⟩ := bind_eq_ok.mp h
  split_ifs at h with hgate
  swap
  · cases h
  cases h
  have hunassigned : ∀ p : Ticket → Bool, db.oldest (fun t => (t.status = .open && t.assignedToId.isNone &&
      t.requesterId ≠ techId) && p t) = some pending →
      pending ∈ db.tickets ∧ pending.status = .open ∧ pending.assignedToId = none := by
    intro p hp
    obtain ⟨hmem, ht⟩ := Db.mem_of_oldest hp
    simp only [Bool.and_eq_true, decide_eq_true_eq, Option.isNone_iff_eq_none] at ht
    exact ⟨hmem, ht.1.1.1, ht.1.1.2⟩
  have hfound := Option.eq_some_of_filter_eq_some hpending
  suffices hrow : pending ∈ db.tickets ∧ pending.status = .open ∧ pending.assignedToId = none from
    ⟨pending, hrow.1, hrow.2.1, hrow.2.2, ⟨_, ticketType, htype, hgate⟩, ht'⟩
  rcases orElse_eq_some.mp hfound with hfound | ⟨-, hfound⟩
  · split_ifs at hfound
    simp only [Bool.and_assoc] at hfound hunassigned
    exact hunassigned _ hfound
  · obtain ⟨pendingType, -, hfound⟩ := List.exists_of_findSome?_eq_some hfound
    simp only [Bool.and_assoc] at hfound hunassigned
    exact hunassigned _ hfound

/-! ## Bulk writes -/

/-- The tickets that a step changes. -/
def changedTickets (f : Ticket → Except HttpException (Option Ticket)) (tickets : List Ticket) :
    Except HttpException (List Ticket) :=
  (tickets.mapM f).map fun (results : List (Option Ticket)) => results.filterMap id

theorem changedTickets_cons {f : Ticket → Except HttpException (Option Ticket)} {t : Ticket} {rest changed : List Ticket} :
    changedTickets f (t :: rest) = .ok changed ↔
      ∃ t' changed', f t = .ok t' ∧ changedTickets f rest = .ok changed' ∧ changed = t'.toList ++ changed' := by
  simp only [changedTickets, map_eq_ok, List.mapM_cons, bind_eq_ok]
  constructor
  · rintro ⟨_, ⟨t', ht, results, hrest, h⟩, rfl⟩
    cases h
    exact ⟨t', _, ht, ⟨results, hrest, rfl⟩, by cases t' <;> rfl⟩
  · rintro ⟨t', _, ht, ⟨results, hrest, rfl⟩, rfl⟩
    exact ⟨t' :: results, ⟨t', ht, results, hrest, rfl⟩, by cases t' <;> rfl⟩

/-- Each changed ticket comes from one of the list, in the same order. -/
theorem changedTickets_eq_ok {f : Ticket → Except HttpException (Option Ticket)}
    (hf : ∀ t t', f t = .ok (some t') → t'.id = t.id) :
    ∀ {tickets changed : List Ticket}, changedTickets f tickets = .ok changed →
      (changed.map Ticket.id).Sublist (tickets.map Ticket.id) ∧ ∀ t' ∈ changed, ∃ t ∈ tickets, f t = .ok (some t') := by
  intro tickets
  induction tickets with
  | nil =>
    intro changed h
    cases h
    simp
  | cons t rest ih =>
    intro changed h
    obtain ⟨t', changed', ht, hrest, rfl⟩ := changedTickets_cons.mp h
    obtain ⟨hsub, hmem⟩ := ih hrest
    have hmem' : ∀ u ∈ changed', ∃ v ∈ t :: rest, f v = .ok (some u) := fun u hu =>
      (hmem u hu).imp fun v ⟨hv, h⟩ => ⟨List.mem_cons_of_mem _ hv, h⟩
    cases t' with
    | none => exact ⟨hsub.cons _, hmem'⟩
    | some t' =>
      refine ⟨?_, fun u hu => ?_⟩
      · have := hf t t' ht
        simpa [this] using hsub.cons_cons t.id
      · rcases List.mem_cons.mp hu with rfl | hu
        · exact ⟨t, List.mem_cons_self, ht⟩
        · exact hmem' u hu

/-- Saving the changed tickets of a query: each row is replaced by its own change. -/
theorem Evolves.saveChanged {R : Ticket → Ticket → Prop} (hR : ∀ t, R t t)
    {f : Ticket → Except HttpException (Option Ticket)} (hf : ∀ t t', f t = .ok (some t') → t'.id = t.id) {db : Db}
    {p : Ticket → Bool} {changed : List Ticket} (h : changedTickets f (db.tickets.filter p) = .ok changed)
    (hstep : ∀ row ∈ db.tickets, p row = true → ∀ t, f row = .ok (some t) → R row (savedRow row t)) :
    Evolves R db (changed.foldl Db.save db) := by
  obtain ⟨hsub, hmem⟩ := changedTickets_eq_ok hf h
  have hnodup : (changed.map Ticket.id).Nodup := by
    refine (hsub.trans ?_).nodup db.primaryKey
    exact List.filter_sublist.map _
  refine .saveAll hR hnodup fun t ht row hrow => ?_
  obtain ⟨row', hrow', hf'⟩ := hmem t ht
  obtain ⟨hmem', hp⟩ := List.mem_filter.mp hrow'
  have hid := hf row' t hf'
  rw [hid, Db.ticket?_of_mem hmem', Option.some.injEq] at hrow
  exact hrow ▸ hstep row' hmem' hp t hf'

/-! ## The work schedule -/

def ownedBy (technicianId : Option Nat) (t : Ticket) : Bool :=
  technicianId.all fun id => t.assignedToId = some id

def isRunningClock (t : Ticket) : Bool :=
  t.status = .in_progress && t.slaStartedAt.isSome && !t.isSlaWaiting && t.slaPausedAt.isNone

def isPausedClock (t : Ticket) : Bool := t.status = .in_progress && !t.isSlaWaiting && t.slaPausedAt.isSome

/-- The entity the pause saves, with the owner its accepted escalation shows. -/
def schedulePaused (db : Db) (t : Ticket) : Ticket := { enrichTicket db t with slaPausedAt := some s.now }

def pauseAllActiveTickets (technicianId : Option Nat) : TicketM Nat := do
  let db ← get
  let tickets := (db.tickets.filter fun t => isRunningClock t && ownedBy technicianId t).map (schedulePaused s db)
  tickets.forM saveTicket
  pure tickets.length

theorem evolves_pauseAllActiveTickets {R : Ticket → Ticket → Prop} (hR : ∀ t, R t t) {technicianId : Option Nat}
    {db db' : Db} {n : Nat} (h : Returns (pauseAllActiveTickets s technicianId) db n db')
    (hstep : ∀ row ∈ db.tickets, isRunningClock row = true → ownedBy technicianId row = true →
      R row (savedRow row (schedulePaused s db row))) :
    Evolves R db db' ∧ db'.escalations = db.escalations := by
  simp only [pauseAllActiveTickets, returns_bind, returns_get, returns_forM_saveTicket, returns_pure] at h
  obtain ⟨_, _, ⟨rfl, rfl⟩, _, _, rfl, -, rfl⟩ := h
  have hid : ∀ t, (schedulePaused s db t).id = t.id := fun t => (loads_enrichTicket db t).id
  refine ⟨.saveAll hR ?_ fun t ht row hrow => ?_, by simp⟩
  · rw [List.map_map, show Ticket.id ∘ schedulePaused s db = Ticket.id from funext hid]
    exact (List.filter_sublist.map _).nodup db.primaryKey
  · obtain ⟨row', hrow', rfl⟩ := List.mem_map.mp ht
    obtain ⟨hmem, hp⟩ := List.mem_filter.mp hrow'
    rw [hid, Db.ticket?_of_mem hmem, Option.some.injEq] at hrow
    obtain ⟨hrunning, howned⟩ := Bool.and_eq_true_iff.mp hp
    exact hrow ▸ hstep row' hmem hrunning howned

def resumeAllActiveTickets (technicianId : Option Nat) (resumeAt : Int) : TicketM Nat := do
  let db ← get
  match s.config with
  | none => pure 0
  | some config =>
    let tickets ← ofExcept (changedTickets (fun t => applySlaResume s t resumeAt config)
      (db.tickets.filter fun t => isPausedClock t && ownedBy technicianId t))
    tickets.forM saveTicket
    pure tickets.length

theorem id_applySlaResume {config : TicketingConfig} {resumeAt : Int} (t t' : Ticket)
    (h : applySlaResume s t resumeAt config = .ok (some t')) : t'.id = t.id := by
  obtain ⟨_, -, _, rfl, -⟩ := applySlaResume_eq s h
  rfl

/-- What a resume step does to a row. -/
def Resumes (row t : Ticket) : Prop :=
  ∃ resumeAt config, s.config = some config ∧ applySlaResume s row resumeAt config = .ok (some t)

theorem evolves_resumeAllActiveTickets {R : Ticket → Ticket → Prop} (hR : ∀ t, R t t) {technicianId : Option Nat}
    {resumeAt : Int} {db db' : Db} {n : Nat} (h : Returns (resumeAllActiveTickets s technicianId resumeAt) db n db')
    (hstep : ∀ row ∈ db.tickets, isPausedClock row = true → ∀ t, Resumes s row t → R row (savedRow row t)) :
    Evolves R db db' ∧ db'.escalations = db.escalations := by
  simp only [resumeAllActiveTickets, returns_bind, returns_get] at h
  obtain ⟨_, _, ⟨rfl, rfl⟩, h⟩ := h
  split at h
  · exact (returns_pure _ _).mp h |>.2 ▸ ⟨.refl hR db, rfl⟩
  · rename_i config hconfig
    simp only [returns_bind, returns_ofExcept, returns_forM_saveTicket, returns_pure] at h
    obtain ⟨changed, _, ⟨hchanged, rfl⟩, _, _, rfl, -, rfl⟩ := h
    refine ⟨.saveChanged hR (id_applySlaResume s) hchanged fun row hrow hp t ht => ?_, by simp⟩
    exact hstep row hrow (Bool.and_eq_true_iff.mp hp).1 t ⟨resumeAt, config, hconfig, ht⟩

/-- The start of a present technician's compressed-week day: the clock-in, kept inside the clock-in window. -/
def cwwResumeAt (config : TicketingConfig) (recorded : Option Int) : Option Int := do
  let start ← createManilaDate s.today config.cwwClockinStart
  let stop ← createManilaDate s.today config.cwwClockinEnd
  pure (max start (min (recorded.getD s.now) stop))

/-- Today's clock-in of the owner. -/
def clockIn (t : Ticket) : Option (Option Int) := t.assignedToId.bind fun id => s.clockIns.lookup id

def cwwResumed (config : TicketingConfig) (t : Ticket) : Except HttpException (Option Ticket) :=
  match (clockIn s t).bind (cwwResumeAt s config) with
  | some resumeAt => applySlaResume s t resumeAt config
  | none => .ok none

def inCwwClockinWindow (config : TicketingConfig) : Bool :=
  config.scheduleMode = .cww && !config.isFlagCeremonyPaused &&
    config.cwwClockinStart ≤ getManilaTimeString s.now && getManilaTimeString s.now < config.cwwClockinEnd &&
    s.isOfficeDay s.today

def resumeCwwPresentTechnicianTickets : TicketM Nat := do
  let db ← get
  match s.config.filter (inCwwClockinWindow s) with
  | none => pure 0
  | some config =>
    let tickets ← ofExcept (changedTickets (cwwResumed s config)
      (db.tickets.filter fun t => isPausedClock t && (clockIn s t).isSome))
    tickets.forM saveTicket
    pure tickets.length

theorem evolves_resumeCwwPresentTechnicianTickets {R : Ticket → Ticket → Prop} (hR : ∀ t, R t t) {db db' : Db} {n : Nat}
    (h : Returns (resumeCwwPresentTechnicianTickets s) db n db')
    (hstep : ∀ row ∈ db.tickets, isPausedClock row = true → ∀ t, Resumes s row t → R row (savedRow row t)) :
    Evolves R db db' ∧ db'.escalations = db.escalations := by
  simp only [resumeCwwPresentTechnicianTickets, returns_bind, returns_get] at h
  obtain ⟨_, _, ⟨rfl, rfl⟩, h⟩ := h
  split at h
  · exact (returns_pure _ _).mp h |>.2 ▸ ⟨.refl hR db, rfl⟩
  · rename_i config hconfig
    simp only [returns_bind, returns_ofExcept, returns_forM_saveTicket, returns_pure] at h
    obtain ⟨changed, _, ⟨hchanged, rfl⟩, _, _, rfl, -, rfl⟩ := h
    have hresumes : ∀ row t, cwwResumed s config row = .ok (some t) → Resumes s row t := by
      intro row t ht
      unfold cwwResumed at ht
      split at ht
      · exact ⟨_, config, Option.eq_some_of_filter_eq_some hconfig, ht⟩
      · cases ht
    refine ⟨.saveChanged hR (fun row t ht => ?_) hchanged fun row hrow hp t ht => ?_, by simp⟩
    · obtain ⟨_, _, -, ht⟩ := hresumes row t ht
      exact id_applySlaResume s row t ht
    · exact hstep row hrow (Bool.and_eq_true_iff.mp hp).1 t (hresumes row t ht)

/-- Inside the shift and outside lunch. -/
def inWorkingHours (config : TicketingConfig) : Bool :=
  let time := getManilaTimeString s.now
  let start := if config.scheduleMode = .cww then config.cwwClockinStart else config.officeClockin
  let stop := if config.scheduleMode = .cww then config.cwwClockoutStart else config.officeClockout
  start ≤ time && time < stop && !("12:00:00" ≤ time && time < "13:00:00")

/-- The ticket after the overtime schedule, none where it stays. -/
def overtimeScheduled (config : TicketingConfig) (t : Ticket) : Except HttpException (Option Ticket) :=
  if t.overtimeSlaDate = some s.today ∧ inWorkingHours s config then applySlaResume s t s.now config
  else if t.slaPausedAt.isNone ∧ t.slaStartedAt.isSome then .ok (some { t with slaPausedAt := some s.now })
  else .ok none

def processOvertimeSlaSchedule : TicketM Unit := do
  let db ← get
  match s.config with
  | none => pure ()
  | some config =>
    let changed ← ofExcept (changedTickets (overtimeScheduled s config)
      (db.tickets.filter fun t => t.status = .in_progress && !t.isSlaWaiting))
    changed.forM saveTicket

theorem evolves_processOvertimeSlaSchedule {R : Ticket → Ticket → Prop} (hR : ∀ t, R t t) {db db' : Db} {u : Unit}
    (h : Returns (processOvertimeSlaSchedule s) db u db')
    (hresume : ∀ row ∈ db.tickets, isPausedClock row = true → ∀ t, Resumes s row t → R row (savedRow row t))
    (hpause : ∀ row ∈ db.tickets, isRunningClock row = true →
      R row (savedRow row { row with slaPausedAt := some s.now })) :
    Evolves R db db' ∧ db'.escalations = db.escalations := by
  simp only [processOvertimeSlaSchedule, returns_bind, returns_get] at h
  obtain ⟨_, _, ⟨rfl, rfl⟩, h⟩ := h
  split at h
  · exact (returns_pure _ _).mp h |>.2 ▸ ⟨.refl hR db, rfl⟩
  · rename_i config hconfig
    simp only [returns_bind, returns_ofExcept, returns_forM_saveTicket] at h
    obtain ⟨changed, _, ⟨hchanged, rfl⟩, rfl⟩ := h
    have hcases : ∀ row t, overtimeScheduled s config row = .ok (some t) →
        Resumes s row t ∨ row.slaPausedAt = none ∧ row.slaStartedAt.isSome ∧ t = { row with slaPausedAt := some s.now } := by
      intro row t ht
      unfold overtimeScheduled at ht
      split_ifs at ht with h1 h2
      · exact .inl ⟨s.now, config, hconfig, ht⟩
      · cases ht
        exact .inr ⟨Option.isNone_iff_eq_none.mp h2.1, h2.2, rfl⟩
      · cases ht
    refine ⟨.saveChanged hR (fun row t ht => ?_) hchanged fun row hrow hp t ht => ?_, by simp⟩
    · rcases hcases row t ht with ⟨_, _, -, ht⟩ | ⟨-, -, rfl⟩
      · exact id_applySlaResume s row t ht
      · rfl
    · simp only [Bool.and_eq_true, decide_eq_true_eq] at hp
      rcases hcases row t ht with hres | ⟨hnone, hstarted, rfl⟩
      · have ⟨_, _, _, hres'⟩ := hres
        obtain ⟨pausedAt, hpaused, -⟩ := applySlaResume_eq s hres'
        exact hresume row hrow (by simp [isPausedClock, hp.1, hp.2, hpaused]) t hres
      · exact hpause row hrow (by simp [isRunningClock, hp.1, hp.2, hnone, hstarted])

/-! ## Recalculation -/

/-- A running clock with its deadline from the present calendar, none where it stays. The open pause of a ticket
is not credited yet, so a paused ticket is left to its resume. -/
def recalculated (config : TicketingConfig) (t : Ticket) : Except HttpException (Option Ticket) :=
  match t.slaStartedAt, issueSlaHours (issueTypeConfig s t.toTicketRouting), t.slaPausedAt with
  | some _, some slaHours, none => do
    let adjusted ← creditedDeadline s t config slaHours t.accumulatedPauseSeconds
    if t.slaDeadline = some adjusted then pure none else pure (some { t with slaDeadline := some adjusted })
  | _, _, _ => .ok none

/-- Recalculate and save one ticket. -/
def recalculateTicket (config : TicketingConfig) (t : Ticket) : TicketM Unit := do
  match ← ofExcept (recalculated s config t) with
  | some t => saveTicket t
  | none => pure ()

def recalculateActiveSlaDeadlines : TicketM Unit := do
  let db ← get
  match s.config with
  | none => pure ()
  | some config => (db.tickets.filter fun t => t.status = .in_progress).forM (recalculateTicket s config)

/-- A running clock and the row with its recalculated deadline. -/
def Recalculates (row t : Ticket) : Prop := ∃ config, s.config = some config ∧ recalculated s config row = .ok (some t)

theorem recalculated_eq_some {config : TicketingConfig} {row t : Ticket} (h : recalculated s config row = .ok (some t)) :
    row.slaPausedAt = none ∧ ∃ slaHours adjusted, row.slaStartedAt.isSome ∧
      issueSlaHours (issueTypeConfig s row.toTicketRouting) = some slaHours ∧
      creditedDeadline s row config slaHours row.accumulatedPauseSeconds = .ok adjusted ∧
      t = { row with slaDeadline := some adjusted } := by
  unfold recalculated at h
  split at h
  · rename_i started slaHours hstarted hhours hpaused
    obtain ⟨adjusted, hadjusted, h⟩ := bind_eq_ok.mp h
    split_ifs at h
    · cases h
    · cases h
      exact ⟨hpaused, slaHours, adjusted, by simp [hstarted], hhours, hadjusted, rfl⟩
  · cases h

theorem returns_forM_recalculateTicket {config : TicketingConfig} {tickets : List Ticket} {db db' : Db} {u : Unit}
    (h : Returns (tickets.forM (recalculateTicket s config)) db u db') :
    ∃ changed, changedTickets (recalculated s config) tickets = .ok changed ∧ db' = changed.foldl Db.save db := by
  induction tickets generalizing db with
  | nil => exact ⟨[], rfl, ((returns_pure _ _).mp h).2.symm⟩
  | cons t rest ih =>
    simp only [List.forM_eq_forM, List.forM_cons, returns_bind] at h ih
    obtain ⟨_, db₁, h₁, h₂⟩ := h
    obtain ⟨changed, hchanged, rfl⟩ := ih h₂
    simp only [recalculateTicket, returns_bind, returns_ofExcept] at h₁
    obtain ⟨t', _, ⟨ht, rfl⟩, h₁⟩ := h₁
    refine ⟨t'.toList ++ changed, changedTickets_cons.mpr ⟨t', changed, ht, hchanged, rfl⟩, ?_⟩
    cases t' with
    | none => exact ((returns_pure _ _).mp h₁).2 ▸ rfl
    | some t' => exact (returns_saveTicket _).mp h₁ ▸ rfl

theorem evolves_recalculateActiveSlaDeadlines {R : Ticket → Ticket → Prop} (hR : ∀ t, R t t) {db db' : Db} {u : Unit}
    (h : Returns (recalculateActiveSlaDeadlines s) db u db')
    (hstep : ∀ row ∈ db.tickets, row.status = .in_progress → ∀ t, Recalculates s row t → R row (savedRow row t)) :
    Evolves R db db' ∧ db'.escalations = db.escalations := by
  simp only [recalculateActiveSlaDeadlines, returns_bind, returns_get] at h
  obtain ⟨_, _, ⟨rfl, rfl⟩, h⟩ := h
  split at h
  · exact (returns_pure _ _).mp h |>.2 ▸ ⟨.refl hR db, rfl⟩
  · rename_i config hconfig
    obtain ⟨changed, hchanged, rfl⟩ := returns_forM_recalculateTicket s h
    refine ⟨.saveChanged hR (fun row t ht => ?_) hchanged fun row hrow hp t ht => ?_, by simp⟩
    · obtain ⟨-, _, _, -, -, -, rfl⟩ := recalculated_eq_some s ht
      rfl
    · exact hstep row hrow (by simpa using hp) t ⟨config, hconfig, ht⟩

end

end ComplianceHub.Tickets
