import ComplianceHub.Tickets.Resume

/-!
# Updates of a text or of the priority

`updateTicket` saves the entity that `getTicketById` has built for display.

* `ReadsBack` : a read gives a row's owner and clock as they are stored;
* `loadTicket_reads_back_iff` : when a loaded entity has the owner and the clock of its row;
* `text_edit_keeps_owner_and_clock_iff` : an update of a text or of the priority leaves the owner and the clock of its
  row exactly where a read gives them back.
-/

namespace ComplianceHub.Tickets

open ComplianceHub.Interruption ComplianceHub.Sla ComplianceHub.WorkClock

section
variable (s : Services)

/-- The deadline that a read projects for a suspended clock. -/
def shownDeadline (t : Ticket) : Except HttpException (Option Int) := do
  let issue := issueTypeConfig s t.toTicketRouting
  let config := s.config.map fun config => ticketCalendar config t.overtimeSlaDate
  let resumeAt ← slaResumeAt s t issue config
  projectedDeadline s t issue config resumeAt

/-- The owner of an active ticket is the focal of its newest accepted escalation. -/
def ShowsOwner (db : Db) (row : Ticket) : Prop :=
  ∀ e, db.acceptedEscalation row.id = some e → isTerminalStatus row.status = true ∨ row.assignedToId = some e.escalatedToId

/-- An In Progress row is not waiting, has its start, and where it has an owner and SLA hours its deadline. -/
def NeedsNoRepair (row : Ticket) : Prop :=
  row.status = .in_progress → row.isSlaWaiting = false ∧ row.slaStartedAt.isSome = true ∧
    (row.slaDeadline = none → row.assignedToId = none ∨
      getTicketSlaHours s (issueTypeConfig s row.toTicketRouting) row.issueTypeId = 0)

/-- A deadline that is projected is the stored one. -/
def ShowsDeadline (row : Ticket) : Prop :=
  row.slaStartedAt.isSome = true → ∀ d d', row.slaDeadline = some d → shownDeadline s row = .ok (some d') → d' = d

/-- A read gives back the stored owner and clock. -/
structure ReadsBack (db : Db) (row : Ticket) : Prop where
  owner : ShowsOwner db row
  repaired : NeedsNoRepair s row
  deadline : ShowsDeadline s row

end

/-- The status, the owner, and all columns of the clock with its ledger. -/
structure KeepsOwnerAndClock (row row' : Ticket) : Prop where
  status : row'.status = row.status
  assignedToId : row'.assignedToId = row.assignedToId
  clock : row'.toTicketSla = row.toTicketSla

/-- Subject, description, priority and resolution texts, and nothing else. -/
structure TextOnly (dto : UpdateTicketDto) : Prop where
  eq : dto = { subject := dto.subject, description := dto.description, priority := dto.priority,
               resolutionNotes := dto.resolutionNotes, resolutionSteps := dto.resolutionSteps }

variable {s : Services} {db db' : Db} {row t t' : Ticket} {viewer actor : Actor} {e : LoadedTicket} {dto : UpdateTicketDto}

/-! ## What a read shows -/

theorem enrichTicket_eq (db : Db) (row : Ticket) :
    enrichTicket db row = { row with assignedToId := (enrichTicket db row).assignedToId } := by
  unfold enrichTicket
  split
  · split_ifs <;> rfl
  · rfl

theorem showsOwner_iff : ShowsOwner db row ↔ (enrichTicket db row).assignedToId = row.assignedToId := by
  unfold ShowsOwner enrichTicket
  cases db.acceptedEscalation row.id with
  | none => simp
  | some escalation =>
    simp only [Option.some.injEq, forall_eq']
    split_ifs with hterminal
    · simp [hterminal]
    · simp only [hterminal, false_or, Bool.false_eq_true]
      exact eq_comm

/-- The entity before its deadline is projected, where nothing is repaired. -/
theorem shownDeadline_clearUnread (db : Db) (row : Ticket) (viewer : Actor) :
    shownDeadline s (clearUnread viewer (enrichTicket db row)) = shownDeadline s row := by
  rw [enrichTicket_eq]
  unfold clearUnread
  split_ifs <;> rfl

theorem projectTicketSlaState_keeps_iff {state : TicketSlaState} (hduplicate : t.status ≠ .duplicate)
    (hcancelled : t.status ≠ .cancelled)
    (h : projectTicketSlaState s t (issueTypeConfig s t.toTicketRouting) s.config = .ok (t', state)) :
    t'.slaDeadline = t.slaDeadline ↔ ShowsDeadline s t := by
  unfold projectTicketSlaState at h
  dsimp only at h
  rw [if_neg (by simp [hduplicate, hcancelled])] at h
  obtain ⟨resumeAt, hresume, h⟩ := bind_eq_ok.mp h
  have hshown : shownDeadline s t = projectedDeadline s t (issueTypeConfig s t.toTicketRouting)
      (s.config.map fun config => ticketCalendar config t.overtimeSlaDate) resumeAt := by
    unfold shownDeadline
    dsimp only
    rw [hresume]
    rfl
  unfold ShowsDeadline
  rw [hshown]
  cases hstarted : t.slaStartedAt with
  | none =>
    rw [hstarted] at h
    cases h
    simp
  | some start =>
    cases hdeadline : t.slaDeadline with
    | none =>
      rw [hstarted, hdeadline] at h
      cases h
      simp [hdeadline]
    | some stored =>
      rw [hstarted, hdeadline] at h
      obtain ⟨projected, hprojected, h⟩ := bind_eq_ok.mp h
      cases h
      rw [hprojected]
      cases projected with
      | none => simp
      | some d => simp

/-! ## What a read repairs -/

theorem calculateTicketSlaDeadline_eq_none_iff {issue : Option TicketIssueType} {issueTypeId : Option Nat}
    {overtimeSlaDate d : Option Int} {start : Int}
    (h : calculateTicketSlaDeadline s issue issueTypeId overtimeSlaDate start = .ok d) :
    d = none ↔ getTicketSlaHours s issue issueTypeId = 0 := by
  unfold calculateTicketSlaDeadline at h
  dsimp only at h
  by_cases hhours : getTicketSlaHours s issue issueTypeId = 0
  · rw [if_pos hhours] at h
    cases h
    exact iff_of_true rfl hhours
  · rw [if_neg hhours] at h
    refine iff_of_false ?_ hhours
    rintro rfl
    cases hconfig : s.config with
    | none =>
      rw [hconfig] at h
      cases h
    | some config =>
      rw [hconfig] at h
      obtain ⟨_, -, hnone⟩ := map_eq_ok.mp h
      cases hnone

/-- In a row that needs no repair only the deadline is shown differently, its owner and the unread flags apart. -/
theorem loadTicket_of_needsNoRepair (hrepaired : NeedsNoRepair s row) (howner : ShowsOwner db row)
    (h : loadTicket s db row viewer = .ok e) : ∃ state, projectTicketSlaState s (clearUnread viewer (enrichTicket db row))
      (issueTypeConfig s row.toTicketRouting) s.config = .ok (e.ticket, state) := by
  simp only [loadTicket, bind_eq_ok] at h
  obtain ⟨-, -, t, ht, ⟨t', state⟩, hp, he⟩ := h
  cases he
  rw [showsOwner_iff] at howner
  have hsla : (enrichTicket db row).toTicketSla = row.toTicketSla := by rw [enrichTicket_eq]
  have hstatus : (enrichTicket db row).status = row.status := (loads_enrichTicket db row).status
  have hwaiting : repairWaiting (enrichTicket db row) = enrichTicket db row := by
    unfold repairWaiting
    rw [if_neg]
    rintro ⟨hin, hwaits⟩
    rw [hstatus] at hin
    rw [hsla, (hrepaired hin).1] at hwaits
    cases hwaits
  have hstart : repairStart (enrichTicket db row) = enrichTicket db row := by
    unfold repairStart
    rw [if_neg]
    rintro ⟨hin, hnone⟩
    rw [hstatus] at hin
    have hsome := (hrepaired hin).2.1
    rw [← hsla, hnone] at hsome
    cases hsome
  rw [hwaiting, hstart] at ht
  have hsame : t = enrichTicket db row := by
    unfold repairDeadline at ht
    split_ifs at ht with hneeds
    · obtain ⟨hin, hnone, hsome⟩ := hneeds
      rw [hstatus] at hin
      obtain ⟨d, hd, rfl⟩ := map_eq_ok.mp ht
      rcases (hrepaired hin).2.2 (by rw [← hsla, hnone]) with hfree | hhours
      · rw [howner, hfree] at hsome
        cases hsome
      · rw [← (loads_enrichTicket db row).routing] at hhours
        obtain rfl := (calculateTicketSlaDeadline_eq_none_iff hd).mpr (by
          rw [← (loads_enrichTicket db row).routing]
          exact hhours)
        rw [← hnone]
    · exact (Except.ok.inj ht).symm
  rw [hsame] at hp
  exact ⟨state, hp⟩

/-- A row that needs a repair is not shown as it is stored. -/
theorem needsNoRepair_of_loadTicket (howner : ShowsOwner db row) (h : loadTicket s db row viewer = .ok e)
    (hclock : e.ticket.toTicketSla = row.toTicketSla) : NeedsNoRepair s row := by
  intro hin
  have hstarted := loadTicket_started h hin
  rw [hclock] at hstarted
  simp only [loadTicket, bind_eq_ok] at h
  obtain ⟨-, -, t, ht, ⟨t', state⟩, hp, he⟩ := h
  cases he
  obtain ⟨d, hd, hshown⟩ := projectTicketSlaState_eq s hp
  have hcleared : (clearUnread viewer t).toTicketSla = t.toTicketSla := by
    unfold clearUnread
    split_ifs <;> rfl
  have hloads := (loads_enrichTicket db row).repairWaiting.repairStart
  refine ⟨?_, hstarted, fun hnone => ?_⟩
  · have hwaiting : (repairStart (repairWaiting (enrichTicket db row))).isSlaWaiting = false := by
      have hrepaired : (repairWaiting (enrichTicket db row)).isSlaWaiting = false := by
        unfold repairWaiting
        split_ifs with hneeds
        · rfl
        · by_contra hwaits
          exact hneeds ⟨(loads_enrichTicket db row).status.trans hin, by simpa using hwaits⟩
      unfold repairStart
      split_ifs <;> exact hrepaired
    have hkept : t.isSlaWaiting = false := by
      unfold repairDeadline at ht
      split_ifs at ht
      · obtain ⟨_, -, rfl⟩ := map_eq_ok.mp ht
        exact hwaiting
      · cases ht
        exact hwaiting
    rw [← hclock, hshown]
    change (clearUnread viewer t).toTicketSla.isSlaWaiting = false
    rw [hcleared]
    exact hkept
  · by_contra hneeds
    rw [not_or] at hneeds
    have hdeadline : (repairStart (repairWaiting (enrichTicket db row))).slaDeadline = none := by
      have henriched : (enrichTicket db row).slaDeadline = none := by rw [enrichTicket_eq]; exact hnone
      have hwaiting : (repairWaiting (enrichTicket db row)).slaDeadline = none := by
        unfold repairWaiting
        split_ifs <;> exact henriched
      unfold repairStart
      split_ifs <;> exact hwaiting
    have hsome : t.slaDeadline.isSome = true := by
      unfold repairDeadline at ht
      rw [if_pos ⟨hloads.status.trans hin, hdeadline, by
        rw [hloads.assignedToId, showsOwner_iff.mp howner]
        exact Option.isSome_iff_ne_none.mpr hneeds.1⟩] at ht
      obtain ⟨repaired, hcalc, rfl⟩ := map_eq_ok.mp ht
      rw [Option.isSome_iff_ne_none]
      intro hzero
      have hhours := (calculateTicketSlaDeadline_eq_none_iff hcalc).mp hzero
      rw [hloads.routing] at hhours
      exact hneeds.2 hhours
    have hstays : d.isSome = true := by
      rcases hd with rfl | ⟨-, -, hprojected, -⟩
      · rw [hcleared]
        exact hsome
      · exact hprojected
    have hnotnone : t'.slaDeadline = d := by rw [hshown]
    rw [← hnotnone, hclock, hnone] at hstays
    cases hstays

/-- When a loaded entity has the owner and the clock of its row. -/
theorem loadTicket_reads_back_iff (h : loadTicket s db row viewer = .ok e) (hduplicate : row.status ≠ .duplicate)
    (hcancelled : row.status ≠ .cancelled) :
    e.ticket.assignedToId = row.assignedToId ∧ e.ticket.toTicketSla = row.toTicketSla ↔ ReadsBack s db row := by
  have hshows : e.ticket.assignedToId = row.assignedToId ↔ ShowsOwner db row := by
    rw [showsOwner_iff, (loadTicket_loads h).assignedToId]
  have hsla : (clearUnread viewer (enrichTicket db row)).toTicketSla = row.toTicketSla := by
    rw [enrichTicket_eq]
    unfold clearUnread
    split_ifs <;> rfl
  have hrouting : (clearUnread viewer (enrichTicket db row)).toTicketRouting = row.toTicketRouting := by
    rw [enrichTicket_eq]
    unfold clearUnread
    split_ifs <;> rfl
  have hstatus : (clearUnread viewer (enrichTicket db row)).status = row.status := by
    rw [enrichTicket_eq]
    unfold clearUnread
    split_ifs <;> rfl
  have hprojects : NeedsNoRepair s row → ShowsOwner db row →
      (e.ticket.toTicketSla = row.toTicketSla ↔ ShowsDeadline s row) := by
    intro hrepaired howner
    obtain ⟨state, hp⟩ := loadTicket_of_needsNoRepair hrepaired howner h
    rw [← hrouting] at hp
    have hiff := projectTicketSlaState_keeps_iff (by rwa [hstatus]) (by rwa [hstatus]) hp
    have hcongr : ShowsDeadline s (clearUnread viewer (enrichTicket db row)) ↔ ShowsDeadline s row := by
      unfold ShowsDeadline
      rw [hsla, shownDeadline_clearUnread]
    rw [← hcongr, ← hiff]
    obtain ⟨d, -, heq⟩ := projectTicketSlaState_eq s hp
    rw [heq]
    change ({ (clearUnread viewer (enrichTicket db row)).toTicketSla with slaDeadline := d } : TicketSla) = _ ↔
      d = (clearUnread viewer (enrichTicket db row)).toTicketSla.slaDeadline
    rw [hsla]
    constructor
    · intro heq
      exact congrArg TicketSla.slaDeadline heq
    · rintro rfl
      rfl
  constructor
  · rintro ⟨howner, hclock⟩
    have hshown := hshows.mp howner
    have hrepaired := needsNoRepair_of_loadTicket hshown h hclock
    exact ⟨hshown, hrepaired, (hprojects hrepaired hshown).mp hclock⟩
  · rintro ⟨howner, hrepaired, hdeadline⟩
    exact ⟨hshows.mpr howner, (hprojects hrepaired howner).mpr hdeadline⟩

/-! ## The update -/

theorem TextOnly.status (h : TextOnly dto) : dto.status = none := by rw [h.eq]

theorem TextOnly.routing (h : TextOnly dto) : routingUpdateRequested dto = false := by
  rw [h.eq]
  rfl

/-- The plan is the entity that was read, with other texts. -/
theorem planUpdate_text {plan : UpdatePlan} (hdto : TextOnly dto) (h : planUpdate s db row dto actor = .ok plan) :
    ∃ loaded content, loadTicket s db row actor = .ok loaded ∧ loaded.ticket.status ≠ .duplicate ∧
      loaded.ticket.status ≠ .cancelled ∧ plan = {
        ticket := { loaded.ticket with toTicketContent := content }, originalStatus := loaded.ticket.status
        persist := .checked } := by
  simp only [planUpdate, bind_eq_ok, check_eq_ok] at h
  obtain ⟨loaded, hload, -, hcancelled, -, -, -, -, h⟩ := h
  by_cases hrole : actor.role = .user
  · rw [if_pos hrole] at h
    simp only [planRequesterUpdate, bind_eq_ok] at h
    obtain ⟨-, -, -, -, h⟩ := h
    rw [hdto.status, if_neg (by simp)] at h
    simp only [bind_eq_ok, check_eq_ok] at h
    obtain ⟨-, hopen, h⟩ := h
    change loaded.ticket.status = .open at hopen
    cases h
    exact ⟨loaded, _, hload, by simp [hopen], hcancelled, rfl⟩
  · rw [if_neg hrole] at h
    obtain ⟨_, _, _, _, _, content, hrouted, -, hduplicate, hpart, rfl⟩ := planStaffUpdate_eq_ok s h
    rcases hrouted with ⟨-, rfl, rfl, rfl⟩ | ⟨hrequested, -⟩
    · refine ⟨loaded, content, hload, hduplicate, hcancelled, ?_⟩
      cases hpart with
      | none _ hplan =>
        rw [hplan]
        unfold recordTransition
        rw [record_self]
        rfl
      | duplicate hstatus =>
        rw [hdto.status] at hstatus
        cases hstatus
      | move hstatus =>
        rw [hdto.status] at hstatus
        cases hstatus
    · rw [hdto.routing] at hrequested
      cases hrequested

/-- What an update of texts leaves in its row. -/
theorem returns_updateTicket_text {id : Nat} (hdto : TextOnly dto) (hrow : db.ticket? id = some row)
    (h : Returns (updateTicket s id dto actor) db t' db') :
    ∃ loaded row', loadTicket s db row actor = .ok loaded ∧ loaded.ticket.status ≠ .duplicate ∧
      loaded.ticket.status ≠ .cancelled ∧ db'.ticket? id = some row' ∧ row'.status = loaded.ticket.status ∧
      row'.assignedToId = loaded.ticket.assignedToId ∧ row'.toTicketSla = loaded.ticket.toTicketSla := by
  obtain ⟨found, plan, db₁, hfound, hplan, -, hpersist, hhandoff⟩ := returns_updateTicket s h
  obtain rfl : row = found := Option.some.inj (hrow.symm.trans hfound)
  have hid := planUpdate_id s hplan
  obtain ⟨loaded, content, hload, hduplicate, hcancelled, rfl⟩ := planUpdate_text hdto hplan
  have hstored : (db.beforeSave { ticket := { loaded.ticket with toTicketContent := content }
                                  originalStatus := loaded.ticket.status, persist := .checked }).ticket?
      loaded.ticket.id = some row := ticket?_beforeSave s hrow hplan
  have hsaved := hpersist.1
  dsimp only at hhandoff
  cases hhandoff
  refine ⟨loaded, savedRow row { loaded.ticket with toTicketContent := content }, hload, hduplicate, hcancelled, ?_, ?_⟩
  · change db₁.ticket? id = _
    rw [hsaved, Db.save, hstored]
    dsimp only
    have hsame : loaded.ticket.id = id := hid.trans (Db.id_of_ticket? hrow)
    have hsavedId : (savedRow row { loaded.ticket with toTicketContent := content }).id = id := by
      obtain ⟨version, hv⟩ := savedRow_eq row { loaded.ticket with toTicketContent := content }
      rw [hv]
      exact hsame
    rw [Db.ticket?_setTicket, if_pos hsavedId.symm, ← hsame, hstored]
    rfl
  · obtain ⟨version, hv⟩ := savedRow_eq row { loaded.ticket with toTicketContent := content }
    rw [hv]
    exact ⟨rfl, rfl, rfl⟩

/-- When an update of the subject, the description, the priority or the resolution texts leaves the owner and the clock
of its ticket as they were. -/
theorem text_edit_keeps_owner_and_clock_iff {id : Nat} (hrow : db.ticket? id = some row) (hdto : TextOnly dto)
    (hr : Returns (updateTicket s id dto actor) db t' db') :
    (∃ row', db'.ticket? id = some row' ∧ KeepsOwnerAndClock row row') ↔ ReadsBack s db row := by
  obtain ⟨loaded, row', hload, hduplicate, hcancelled, hrow', hstatus, howner, hclock⟩ :=
    returns_updateTicket_text hdto hrow hr
  have hloads := loadTicket_loads hload
  rw [hloads.status] at hduplicate hcancelled
  rw [← loadTicket_reads_back_iff hload hduplicate hcancelled, ← howner, ← hclock]
  constructor
  · rintro ⟨found, hfound, hkeeps⟩
    obtain rfl : row' = found := Option.some.inj (hrow'.symm.trans hfound)
    exact ⟨hkeeps.assignedToId, hkeeps.clock⟩
  · rintro ⟨howner, hclock⟩
    exact ⟨row', hrow', hstatus.trans hloads.status, howner, hclock⟩

/-- The tables and the entity of an update that returns. -/
def updated (s : Services) (id : Nat) (dto : UpdateTicketDto) (actor : Actor) (db : Db) : Option (Ticket × Db) :=
  match (updateTicket s id dto actor).run db with
  | .ok t db' => some (t, db')
  | .error _ _ => none

theorem returns_of_updated {s : Services} {id : Nat} {dto : UpdateTicketDto} {actor : Actor} {db : Db} {r : Ticket × Db}
    (h : updated s id dto actor db = some r) : Returns (updateTicket s id dto actor) db r.1 r.2 := by
  unfold updated at h
  split at h
  · cases h
    assumption
  · cases h

/-- A ticket on an issue of four hours, in progress since 08:00. -/
def inProgressAtEight : Ticket := { suspendedAtNine with slaPausedAt := none }

/-- A higher priority at 09:00. -/
def raisedPriority : UpdateTicketDto := { priority := some .high }

/-- The priority of a running ticket is raised, its owner and its clock stay. -/
theorem text_edit_keeps_running_clock : ∃ t' db',
    Returns (updateTicket (office 3600000) 1 raisedPriority (officeActor 2)) { tickets := [inProgressAtEight] } t' db' ∧
      ∃ row', db'.ticket? 1 = some row' ∧ KeepsOwnerAndClock inProgressAtEight row' := by
  have hreads : ReadsBack (office 3600000) { tickets := [inProgressAtEight] } inProgressAtEight := by
    refine ⟨?_, ?_, ?_⟩
    · intro escalation haccepted
      cases haccepted
    · intro _
      exact ⟨rfl, rfl, fun hnone => by cases hnone⟩
    · intro _ d d' _ hshown
      cases hshown
  have hany : (updated (office 3600000) 1 raisedPriority (officeActor 2) { tickets := [inProgressAtEight] }).isSome = true := by
    decide +kernel
  obtain ⟨r, hr⟩ := Option.isSome_iff_exists.mp hany
  have hr := returns_of_updated hr
  exact ⟨r.1, r.2, hr, (text_edit_keeps_owner_and_clock_iff rfl ⟨rfl⟩ hr).mpr hreads⟩

/-- A ticket is escalated by technician 2 to technician 3, who accepts, and an administrator corrects its owner to
technician 2. -/
def correctedEscalation : List (Services × Op) :=
  [(office 0, .createTicket request (officeActor 1)),
    (office 1000, .assignTicketInternal 1 { assignedToId := 2 } (officeActor 4) none),
    (office 2000, .escalate 1 { escalatedToId := 3, notes := none } (officeActor 2)),
    (office 3000, .acceptEscalation 1 1 3),
    (office 4000, .correctTicketAssignee 1 { assignedToId := 2, expectedUpdatedAt := 2 } (officeActor 4))]

/-- Raising its priority gives the ticket back to technician 3. -/
theorem raised_priority_undoes_the_correction : TextOnly raisedPriority ∧ ∃ log, execute correctedEscalation = some log ∧
    ∃ row t' db' row', log.2.db.ticket? 1 = some row ∧ row.assignedToId = some 2 ∧
      Returns (updateTicket (office 5000) 1 raisedPriority (officeActor 4)) log.2.db t' db' ∧
      db'.ticket? 1 = some row' ∧ row'.assignedToId = some 3 := by
  have hany : ((execute correctedEscalation).any fun log =>
      (log.2.db.ticket? 1).any fun row => row.assignedToId = some 2 &&
        (updated (office 5000) 1 raisedPriority (officeActor 4) log.2.db).any fun r =>
          (r.2.ticket? 1).any fun row' => row'.assignedToId = some 3) = true := by decide +kernel
  obtain ⟨log, hlog, h⟩ := (Option.any_eq_true _ _).mp hany
  obtain ⟨row, hrow, h⟩ := (Option.any_eq_true _ _).mp h
  obtain ⟨howner, h⟩ := Bool.and_eq_true_iff.mp h
  obtain ⟨r, hr, h⟩ := (Option.any_eq_true _ _).mp h
  obtain ⟨row', hrow', howner'⟩ := (Option.any_eq_true _ _).mp h
  exact ⟨⟨rfl⟩, log, hlog, row, r.1, r.2, row', hrow, of_decide_eq_true howner, returns_of_updated hr, hrow',
    of_decide_eq_true howner'⟩

end ComplianceHub.Tickets
