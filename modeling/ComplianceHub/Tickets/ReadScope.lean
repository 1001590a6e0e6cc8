import ComplianceHub.Tickets.Attendance
import ComplianceHub.Tickets.Operation

/-!
# The privacy of overtime tickets

* `overtimeReadScope`, `applyOvertimeReadScope` : the predicate that lists and reports add to their queries, over the
  stored columns;
* `NeverForbids`, `forbids_getTicketById` : after its access check `getTicketById` forbids nothing;
* `ShowsStoredOwner` : where the owner that the details show decides as the stored one does;
* `overtime_scopes_agree_iff` : lists and details admit the same viewers exactly there.
-/

namespace ComplianceHub.Tickets

open ComplianceHub.Sla

/-- The services whose overtime attendance comes from these tables. -/
def Services.onRoster (s : Services) (r : Roster) : Services := { s with hasOvertimeClockIn := r.hasOvertimeClockIn }

/-! ## The scope of lists -/

/-- The staff of an overtime day: a present row with a clock-in, of an active staff account. -/
def isOvertimeParticipant (r : Roster) (viewerId : Nat) (date : Int) : Bool :=
  r.attendance.any fun a => a.userId = viewerId && a.date = date && a.status = .present && a.clockInTime.isSome &&
    r.users.any fun u => u.id = a.userId && u.active && u.role ≠ .user && u.role ≠ .super_admin

def overtimeReadScope (r : Roster) (db : Db) (t : Ticket) (viewerId : Nat) (staff : Bool) : Bool :=
  match t.overtimeDate with
  | none => true
  | some date =>
    let own := t.requesterId = viewerId || t.createdById = some viewerId || t.assignedToId = some viewerId
    let participants := staff && t.status = .open && t.assignedToId = none && isOvertimeParticipant r viewerId date
    let escalation := staff && canAccessTicketByEscalation db t.id viewerId
    own || participants || escalation

def applyOvertimeReadScope (s : Services) (r : Roster) (db : Db) (t : Ticket) (viewer : Actor) : Bool :=
  isOvertimeAdministrator s viewer.role || overtimeReadScope r db t viewer.id (isOvertimeStaff viewer.role)

/-- For an active staff account the joined rows say what the attendance row says. -/
theorem isOvertimeParticipant_eq {r : Roster} {viewer : Actor} {date : Int}
    (hviewer : ∃ u ∈ r.users, u.id = viewer.id ∧ u.active = true ∧ u.role = viewer.role)
    (hstaff : isOvertimeStaff viewer.role = true) :
    isOvertimeParticipant r viewer.id date = r.hasOvertimeClockIn viewer.id date := by
  obtain ⟨u, hu, hid, hactive, hrole⟩ := hviewer
  rw [Bool.eq_iff_iff]
  constructor
  · intro h
    obtain ⟨a, ha, h⟩ := List.any_eq_true.mp h
    simp only [Bool.and_eq_true, decide_eq_true_eq] at h
    obtain ⟨⟨⟨⟨huser, hdate⟩, hstatus⟩, hclock⟩, -⟩ := h
    unfold Roster.hasOvertimeClockIn
    cases hfind : r.attendance.find? fun a => a.userId = viewer.id && a.date = date && a.status = .present with
    | none =>
      have hnone := List.find?_eq_none.mp hfind a ha
      simp [huser, hdate, hstatus] at hnone
    | some b =>
      -- a staff member has one row a day
      have hb := List.find?_some hfind
      simp only [Bool.and_eq_true, decide_eq_true_eq] at hb
      have hsame : b = a := by
        refine List.inj_on_of_nodup_map r.attendanceKey (List.mem_of_find?_eq_some hfind) ha ?_
        rw [hb.1.1, hb.1.2, huser, hdate]
      rw [hsame]
      exact hclock
  · intro h
    obtain ⟨b, hfind, hclock⟩ := (Option.any_eq_true _ _).mp h
    have hb := List.find?_some hfind
    simp only [Bool.and_eq_true, decide_eq_true_eq] at hb
    refine List.any_eq_true.mpr ⟨b, List.mem_of_find?_eq_some hfind, ?_⟩
    have haccount : (r.users.any fun u => u.id = b.userId && u.active && u.role ≠ .user && u.role ≠ .super_admin) =
        true := by
      refine List.any_eq_true.mpr ⟨u, hu, ?_⟩
      simp only [isOvertimeStaff, decide_eq_true_eq] at hstaff
      simp [hid, hb.1.1, hactive, hrole, hstaff]
    rw [haccount]
    simp [hb, hclock]

/-! ## What the details forbid -/

/-- A computation that never answers Forbidden. -/
def NeverForbids {α : Type} (x : Except HttpException α) : Prop := ∀ text, x ≠ .error (.forbidden text)

theorem neverForbids_ok {α : Type} (a : α) : NeverForbids (.ok a : Except HttpException α) := nofun

theorem NeverForbids.map {α β : Type} {f : α → β} {x : Except HttpException α} (h : NeverForbids x) :
    NeverForbids (x.map f) := by
  rintro text heq
  cases x with
  | ok a => cases heq
  | error e =>
    cases heq
    exact h text rfl

theorem NeverForbids.bind {α β : Type} {f : α → Except HttpException β} {x : Except HttpException α}
    (h : NeverForbids x) (hf : ∀ a, NeverForbids (f a)) : NeverForbids (x >>= f) := by
  rintro text heq
  cases x with
  | ok a => exact hf a text heq
  | error e =>
    cases heq
    exact h text rfl

section
variable (isOfficeDay : Int → Bool) (config : TicketingConfig)

theorem neverForbids_slaLoop : ∀ (guard : Nat) (current : Int) (remainingHours : Rat),
    NeverForbids (slaLoop isOfficeDay config guard current remainingHours)
  | 0, current, remainingHours => by
    unfold slaLoop
    by_cases h : remainingHours ≤ 0
    · rw [if_pos h]
      exact neverForbids_ok _
    · rw [if_neg h]
      exact nofun
  | guard + 1, current, remainingHours => by
    have ih := neverForbids_slaLoop guard
    unfold slaLoop
    dsimp only
    split_ifs
    · exact neverForbids_ok _
    · exact ih _ _
    · split
      · exact ih _ _
      · split_ifs <;> exact ih _ _

theorem neverForbids_calculateSlaDeadline (start : Int) (slaHours : Rat) :
    NeverForbids (calculateSlaDeadline isOfficeDay config start slaHours) := by
  unfold calculateSlaDeadline
  dsimp only
  split_ifs
  · exact neverForbids_ok _
  · exact nofun
  · exact neverForbids_slaLoop isOfficeDay config _ _ _

theorem neverForbids_businessLoop (stop : Int) : ∀ (guard : Nat) (current : Int) (seconds : Rat),
    NeverForbids (businessLoop isOfficeDay config stop guard current seconds)
  | 0, current, seconds => by
    unfold businessLoop
    by_cases h : stop ≤ current
    · rw [if_pos h]
      exact neverForbids_ok _
    · rw [if_neg h]
      exact nofun
  | guard + 1, current, seconds => by
    have ih := neverForbids_businessLoop stop guard
    unfold businessLoop
    dsimp only
    split_ifs
    · exact neverForbids_ok _
    · exact ih _ _
    · split
      · exact ih _ _
      · split_ifs <;> first | exact neverForbids_ok _ | exact ih _ _

theorem neverForbids_calculateBusinessSeconds (start stop : Int) :
    NeverForbids (calculateBusinessSeconds isOfficeDay config start stop) := by
  unfold calculateBusinessSeconds
  dsimp only
  split_ifs
  · exact neverForbids_ok _
  · exact nofun
  · exact (neverForbids_businessLoop isOfficeDay config _ _ _ _).map

end

section
variable {s : Services}

theorem neverForbids_repairDeadline (issue : Option TicketIssueType) (t : Ticket) :
    NeverForbids (repairDeadline s issue t) := by
  unfold repairDeadline
  split_ifs
  · refine NeverForbids.map ?_
    unfold calculateTicketSlaDeadline
    dsimp only
    split_ifs
    · exact neverForbids_ok _
    · split
      · exact (neverForbids_calculateSlaDeadline _ _ _ _).map
      · exact neverForbids_ok _
  · exact neverForbids_ok _

theorem neverForbids_slaResumeAt (t : Ticket) (issue : Option TicketIssueType) (config : Option TicketingConfig) :
    NeverForbids (slaResumeAt s t issue config) := by
  unfold slaResumeAt
  cases t.slaPausedAt with
  | none => exact neverForbids_ok _
  | some pausedAt =>
    by_cases hpaused : isStatusPaused t = true
    · simp only [if_pos hpaused]
      split
      · split
        · split_ifs
          · exact (neverForbids_calculateSlaDeadline _ _ _ _).map
          · exact neverForbids_ok _
        · exact neverForbids_ok _
      · exact neverForbids_ok _
    · simp only [if_neg hpaused]
      split_ifs <;> exact neverForbids_ok _

theorem neverForbids_projectedDeadline (t : Ticket) (issue : Option TicketIssueType) (config : Option TicketingConfig)
    (resumeAt : Option Int) : NeverForbids (projectedDeadline s t issue config resumeAt) := by
  unfold projectedDeadline
  split
  · split_ifs
    · refine (neverForbids_calculateBusinessSeconds _ _ _ _).bind fun seconds => ?_
      exact NeverForbids.bind (neverForbids_calculateSlaDeadline _ _ _ _) fun deadline => neverForbids_ok _
    · exact neverForbids_ok _
  · exact neverForbids_ok _

theorem neverForbids_projectTicketSlaState (t : Ticket) (issue : Option TicketIssueType)
    (config : Option TicketingConfig) : NeverForbids (projectTicketSlaState s t issue config) := by
  unfold projectTicketSlaState
  dsimp only
  by_cases hterminal : t.status = .duplicate ∨ t.status = .cancelled
  · rw [if_pos hterminal]
    exact neverForbids_ok _
  · rw [if_neg hterminal]
    refine (neverForbids_slaResumeAt t issue _).bind fun resumeAt => ?_
    split
    · exact (neverForbids_projectedDeadline t issue _ resumeAt).bind fun projected => neverForbids_ok _
    · exact neverForbids_ok _

/-- The details of a ticket are refused. -/
def ForbidsTicket (s : Services) (db : Db) (id : Nat) (viewer : Actor) : Prop :=
  ∃ text db', (getTicketById s id viewer).run db = .error (.forbidden text) db'

theorem run_getTicketById {db : Db} {id : Nat} {row : Ticket} (viewer : Actor) (hrow : db.ticket? id = some row) :
    (getTicketById s id viewer).run db = (ofExcept (loadTicket s db row viewer)).run db := by
  have hbind : (getTicketById s id viewer).run db =
      EStateM.bind (orThrow (db.ticket? id) (.notFound "Ticket not found"))
        (fun row => ofExcept (loadTicket s db row viewer)) db := rfl
  rw [hbind, hrow]
  rfl

/-- The details are refused by the access check, and by nothing after it. -/
theorem forbidsTicket_iff {db : Db} {id : Nat} {row : Ticket} (viewer : Actor) (hrow : db.ticket? id = some row) :
    ForbidsTicket s db id viewer ↔ assertTicketReadAccess s db (enrichTicket db row) viewer ≠ .ok () := by
  have hforbids : ForbidsTicket s db id viewer ↔ ∃ text, loadTicket s db row viewer = .error (.forbidden text) := by
    unfold ForbidsTicket
    rw [run_getTicketById viewer hrow]
    cases loadTicket s db row viewer with
    | ok e =>
      constructor
      · rintro ⟨_, _, h⟩
        cases h
      · rintro ⟨_, h⟩
        cases h
    | error e =>
      constructor
      · rintro ⟨text, _, h⟩
        cases h
        exact ⟨text, rfl⟩
      · rintro ⟨text, h⟩
        cases h
        exact ⟨text, db, rfl⟩
  rw [hforbids, loadTicket]
  cases haccess : assertTicketReadAccess s db (enrichTicket db row) viewer with
  | ok u =>
    refine iff_of_false ?_ (fun h => h rfl)
    rintro ⟨text, h⟩
    refine NeverForbids.bind (neverForbids_repairDeadline _ _) (fun t => ?_) text h
    exact NeverForbids.bind (neverForbids_projectTicketSlaState _ _ _) fun _ => neverForbids_ok _
  | error e =>
    refine iff_of_true ?_ (by simp)
    unfold assertTicketReadAccess at haccess
    split at haccess
    all_goals
      split_ifs at haccess
      cases haccess
      exact ⟨_, rfl⟩

/-! ## Where they agree -/

theorem applyOvertimeReadScope_iff {r : Roster} {db : Db} {row : Ticket} {viewer : Actor} {date : Int}
    (hdate : row.overtimeDate = some date)
    (hviewer : ∃ u ∈ r.users, u.id = viewer.id ∧ u.active = true ∧ u.role = viewer.role) :
    applyOvertimeReadScope s r db row viewer = true ↔ isOvertimeAdministrator s viewer.role = true ∨
      (row.requesterId = viewer.id ∨ row.createdById = some viewer.id ∨ row.assignedToId = some viewer.id) ∨
      (row.status = .open ∧ row.assignedToId = none ∧ isOvertimeStaff viewer.role = true ∧
        r.hasOvertimeClockIn viewer.id date = true) ∨
      (isOvertimeStaff viewer.role = true ∧ canAccessTicketByEscalation db row.id viewer.id = true) := by
  cases hstaff : isOvertimeStaff viewer.role with
  | false => simp [applyOvertimeReadScope, overtimeReadScope, hdate, hstaff, or_assoc]
  | true =>
    have hparticipant : isOvertimeParticipant r viewer.id date = r.hasOvertimeClockIn viewer.id date :=
      isOvertimeParticipant_eq hviewer hstaff
    simp [applyOvertimeReadScope, overtimeReadScope, hdate, hstaff, hparticipant, or_assoc, and_assoc]

theorem assertTicketReadAccess_iff {db : Db} {t : Ticket} {viewer : Actor} {date : Int}
    (hdate : t.overtimeDate = some date) :
    assertTicketReadAccess s db t viewer = .ok () ↔ isOvertimeAdministrator s viewer.role = true ∨
      (t.requesterId = viewer.id ∨ t.createdById = some viewer.id ∨ t.assignedToId = some viewer.id) ∨
      (t.status = .open ∧ t.assignedToId = none ∧ isOvertimeStaff viewer.role = true ∧
        s.hasOvertimeClockIn viewer.id date = true) ∨
      (isOvertimeStaff viewer.role = true ∧ canAccessTicketByEscalation db t.id viewer.id = true) := by
  rw [assertTicketReadAccess, hdate]
  dsimp only
  split_ifs with hadmin hown hopen hescalation
  · exact iff_of_true rfl (.inl hadmin)
  · exact iff_of_true rfl (.inr (.inl hown))
  · exact iff_of_true rfl (.inr (.inr (.inl hopen)))
  · exact iff_of_true rfl (.inr (.inr (.inr hescalation)))
  · refine iff_of_false nofun ?_
    rintro (h | h | h | h)
    · exact hadmin h
    · exact hown h
    · exact hopen h
    · exact hescalation h

/-- Where the owner of an accepted escalation decides as the stored one does: the viewer is admitted for another
reason, or neither of them admits the viewer. -/
def AdmitsAlike (s : Services) (r : Roster) (db : Db) (row : Ticket) (viewer : Actor) : Prop :=
  ∀ e ∈ db.acceptedEscalation row.id, isTerminalStatus row.status = false → row.assignedToId ≠ some e.escalatedToId →
    isOvertimeAdministrator s viewer.role = true ∨ row.requesterId = viewer.id ∨ row.createdById = some viewer.id ∨
      (isOvertimeStaff viewer.role = true ∧ canAccessTicketByEscalation db row.id viewer.id = true) ∨
      (e.escalatedToId ≠ viewer.id ∧ row.assignedToId ≠ some viewer.id ∧
        ¬ (row.status = .open ∧ row.assignedToId = none ∧ isOvertimeStaff viewer.role = true ∧
          ∀ date ∈ row.overtimeDate, r.hasOvertimeClockIn viewer.id date = true))

/-- **Lists and details of an overtime ticket admit the same viewers** exactly where the owner of an accepted
escalation decides as the stored one does. -/
theorem overtime_scopes_agree_iff {r : Roster} {db : Db} {id : Nat} {row : Ticket} {viewer : Actor}
    (hrow : db.ticket? id = some row) (hovertime : row.overtimeDate.isSome)
    (hviewer : ∃ u ∈ r.users, u.id = viewer.id ∧ u.active = true ∧ u.role = viewer.role) :
    (applyOvertimeReadScope s r db row viewer = true ↔ ¬ ForbidsTicket (s.onRoster r) db id viewer) ↔
      AdmitsAlike s r db row viewer := by
  obtain ⟨date, hdate⟩ := Option.isSome_iff_exists.mp hovertime
  have hloads := loads_enrichTicket db row
  rw [forbidsTicket_iff viewer hrow, not_not, applyOvertimeReadScope_iff hdate hviewer,
    assertTicketReadAccess_iff (hloads.overtimeDate.trans hdate), hloads.requesterId, hloads.createdById, hloads.status,
    hloads.id]
  change (_ ↔ isOvertimeAdministrator s viewer.role = true ∨ _ ∨ (_ ∧ _ ∧ _ ∧ r.hasOvertimeClockIn viewer.id date = true) ∨
    _) ↔ _
  unfold AdmitsAlike
  simp only [hdate, Option.mem_some_iff, forall_eq']
  cases haccepted : db.acceptedEscalation row.id with
  | none =>
    have hsame : enrichTicket db row = row := by simp only [enrichTicket, haccepted]
    rw [hsame]
    exact iff_of_true Iff.rfl nofun
  | some e =>
    cases hterminal : isTerminalStatus row.status with
    | true =>
      rw [enrichTicket_of_terminal db hterminal]
      exact iff_of_true Iff.rfl fun _ _ h => nomatch h
    | false =>
      have hshown : (enrichTicket db row).assignedToId = some e.escalatedToId := by
        simp [enrichTicket, haccepted, hterminal]
      -- its owner is a party to the escalation
      have hparty : e.escalatedToId = viewer.id → canAccessTicketByEscalation db row.id viewer.id = true := by
        intro heq
        have hmem := List.mem_of_find?_eq_some haccepted
        have hof := List.mem_filter.mp (List.mem_reverse.mp hmem)
        exact List.any_eq_true.mpr ⟨e, hof.1, by simp_all⟩
      have hnotnone : row.assignedToId = none → row.assignedToId ≠ some viewer.id ∧
          row.assignedToId ≠ some e.escalatedToId := fun h => by simp [h]
      have hsame : row.assignedToId = some e.escalatedToId → (row.assignedToId = some viewer.id ↔
          e.escalatedToId = viewer.id) := fun h => by simp [h]
      simp only [hshown, Option.mem_some_iff, forall_eq', Option.some.injEq, reduceCtorEq, false_and, and_false, false_or,
        true_implies]
      grind

end

/-- An overtime day of the office, with both technicians as escalation focals. -/
def overtimeOffice (now : Int) : Services :=
  { office now with isOvertimeDay := fun _ => true, escalationFocals := [⟨2, .all⟩, ⟨3, .all⟩] }

/-- Both technicians have clocked in. -/
def overtimeRoster : Roster where
  now := 5000
  roleCapability := officeCapability
  users := [1, 2, 3, 4].map fun id => { id, role := officeRole id }
  attendance := [2, 3].map fun userId => { userId, date := 0, clockInTime := some 0 }
  userKey := by decide
  attendanceKey := by decide

/-- An overtime request is taken over after an escalation, and assigned to technician 2 afterwards. -/
def reassignedRun : List (Services × Op) :=
  [(overtimeOffice 0, .createTicket request (officeActor 1)),
   (overtimeOffice 1000, .assignTicketInternal 1 { assignedToId := 2 } (officeActor 4) none),
   (overtimeOffice 2000, .escalate 1 { escalatedToId := 3 } (officeActor 4)),
   (overtimeOffice 3000, .acceptEscalation 1 1 3),
   (overtimeOffice 4000, .assignTicketInternal 1 { assignedToId := 2 } (officeActor 4) none)]

theorem reassigned_owner_is_listed_and_refused : ¬ ∀ (s : Services) (r : Roster) (db : Db) (id : Nat) (row : Ticket)
    (viewer : Actor), db.ticket? id = some row → row.overtimeDate.isSome →
      (∃ u ∈ r.users, u.id = viewer.id ∧ u.active = true ∧ u.role = viewer.role) →
        (applyOvertimeReadScope s r db row viewer = true ↔ ¬ ForbidsTicket (s.onRoster r) db id viewer) := by
  intro h
  have hany : ((execute reassignedRun).any fun log => ∃ row ∈ log.2.db.tickets, row.overtimeDate.isSome ∧
      applyOvertimeReadScope (overtimeOffice 5000) overtimeRoster log.2.db row (officeActor 2) = true ∧
      assertTicketReadAccess ((overtimeOffice 5000).onRoster overtimeRoster) log.2.db (enrichTicket log.2.db row)
        (officeActor 2) ≠ .ok ()) = true := by decide +kernel
  obtain ⟨log, -, hticket⟩ := (Option.any_eq_true _ _).mp hany
  obtain ⟨row, hmem, hovertime, hlisted, hrefused⟩ := of_decide_eq_true hticket
  have hrow := Db.ticket?_of_mem hmem
  have hviewer : ∃ u ∈ overtimeRoster.users, u.id = (officeActor 2).id ∧ u.active = true ∧
      u.role = (officeActor 2).role := by decide
  refine (h _ _ _ _ _ _ hrow hovertime hviewer).mp hlisted ?_
  exact (forbidsTicket_iff _ hrow).mpr hrefused

/-- The reassigned request before its technician 2 and, on the day, technician 3. -/
theorem overtime_scopes_agree_iff_reassigned : ∃ log, execute reassignedRun = some log ∧
    ∃ row ∈ log.2.db.tickets, ∀ viewer ∈ [officeActor 2, officeActor 3],
      (applyOvertimeReadScope (overtimeOffice 5000) overtimeRoster log.2.db row viewer = true ↔
          ¬ ForbidsTicket ((overtimeOffice 5000).onRoster overtimeRoster) log.2.db row.id viewer) ↔
        AdmitsAlike (overtimeOffice 5000) overtimeRoster log.2.db row viewer := by
  have hany : ((execute reassignedRun).any fun log => ∃ row ∈ log.2.db.tickets, row.overtimeDate.isSome) = true := by
    decide +kernel
  obtain ⟨log, hlog, hticket⟩ := (Option.any_eq_true _ _).mp hany
  obtain ⟨row, hmem, hovertime⟩ := of_decide_eq_true hticket
  have haccount : ∀ viewer ∈ [officeActor 2, officeActor 3],
      ∃ u ∈ overtimeRoster.users, u.id = viewer.id ∧ u.active = true ∧ u.role = viewer.role := by decide
  refine ⟨log, hlog, row, hmem, fun viewer hviewer => ?_⟩
  exact overtime_scopes_agree_iff (Db.ticket?_of_mem hmem) hovertime (haccount viewer hviewer)

end ComplianceHub.Tickets
