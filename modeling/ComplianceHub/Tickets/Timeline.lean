import ComplianceHub.Tickets.Steps

/-!
# The interruption ledger over runs

* `RowStep.records` : a step records the status change of its row in the ledger. The writers that skip
  `recordInterruptionTransition` move between statuses that are no interruption;
* `timeline` : the statuses a ticket entered in a run, with their times;
* `interruptionHistory_mirrors_status` : after every run the ledger of each ticket is the record of its timeline.
-/

namespace ComplianceHub.Tickets

open ComplianceHub.Interruption ComplianceHub.Lib

section
variable {s : Services} {db : Db} {op : Op} {row t t' : Ticket}

/-- The ledger of `t` is the one of `row` with the status change between them. -/
def Recorded (s : Services) (row t : Ticket) : Prop :=
  t.interruptionHistory = recordInterruptionTransition row.interruptionHistory row.status t.status s.now

theorem Recorded.of_same (hhistory : t.interruptionHistory = row.interruptionHistory) (hstatus : t.status = row.status) :
    Recorded s row t := by
  rw [Recorded, hhistory, hstatus, record_self]

theorem Recorded.of_kind_none (hhistory : t.interruptionHistory = row.interruptionHistory) (hrow : kind row.status = none)
    (ht : kind t.status = none) : Recorded s row t := by
  rw [Recorded, hhistory, record_of_kind_none hrow ht]

theorem Recorded.savedRow (h : Recorded s row t) (stored : Ticket) : Recorded s row (savedRow stored t) := by
  obtain ⟨version, hv⟩ := savedRow_eq stored t
  rw [hv]
  exact h

theorem kind_of_live {status : TicketStatus} (h : isLiveStatus status = true) : kind status = none := by
  cases status <;> simp_all [isLiveStatus, kind]

theorem recorded_updated {dto : UpdateTicketDto} {actor : Actor} {plan : UpdatePlan}
    (h : planUpdate s db row dto actor = .ok plan) (hsaved : ∀ reason, plan.persist ≠ .duplicate reason) :
    Recorded s row plan.ticket := by
  obtain ⟨loaded, hload, -, ⟨hpart, -⟩ | hstaff⟩ := planUpdate_eq_ok s h
  · have hloads := loadTicket_loads hload
    cases hpart with
    | close hresolved hplan =>
      rw [hplan]
      rw [hloads.status] at hresolved
      exact .of_kind_none hloads.interruptionHistory (by rw [hresolved]; rfl) rfl
    | edit _ hplan =>
      rw [hplan]
      exact .of_same hloads.interruptionHistory hloads.status
  · obtain ⟨_, _, _, _, moved, _, -, -, -, hpart, rfl⟩ := planStaffUpdate_eq_ok s hstaff
    have hloads := loadTicket_loads hload
    have hmoved : moved.ticket.interruptionHistory = row.interruptionHistory ∧ moved.originalStatus = row.status := by
      cases hpart with
      | none _ hplan =>
        rw [hplan]
        exact ⟨hloads.interruptionHistory, hloads.status⟩
      | duplicate _ _ hdup =>
        obtain ⟨reason, hpersist⟩ := hdup.persist
        exact absurd hpersist (hsaved reason)
      | move _ _ _ hmove =>
        refine ⟨?_, hmove.originalStatus.trans hloads.status⟩
        rw [(moveTo_moved s hmove.moveTo).eq]
        exact hloads.interruptionHistory
    change recordInterruptionTransition moved.ticket.interruptionHistory moved.originalStatus moved.ticket.status s.now = _
    rw [hmoved.1, hmoved.2]
    rfl

/-- Every step records the status change of its row. -/
theorem RowStep.records (h : RowStep s db op row t) : Recorded s row t := by
  cases h with
  | updated _ hplan hsaved => exact (recorded_updated hplan hsaved).savedRow _
  | markedDuplicate _ hlive _ => exact .of_kind_none rfl (kind_of_live hlive) rfl
  | pushedBack _ _ => exact (Recorded.of_same rfl rfl).savedRow _
  | pickedUp hp =>
    obtain ⟨_, -, rfl⟩ := hp.eq
    refine (Recorded.of_kind_none ?_ ?_ ?_).savedRow _
    · rfl
    · rw [hp.isOpen]
      rfl
    · rfl
  | promoted _ _ hp =>
    obtain ⟨_, -, rfl⟩ := hp.eq
    rfl
  | assigned _ hplan =>
    obtain ⟨loaded, hload, -, hassigned, -⟩ := planAssign_eq_ok s hplan
    obtain ⟨_, hticket, -⟩ := assignedTicket_eq s hassigned
    have hloads := loadTicket_loads hload
    refine Recorded.savedRow ?_ _
    rw [hticket]
    by_cases hlive : isLiveStatus loaded.ticket.status = true
    · refine .of_kind_none hloads.interruptionHistory (kind_of_live (hloads.status ▸ hlive)) ?_
      simp only [reassignedStatus, hlive, if_true]
      split_ifs <;> rfl
    · refine .of_same hloads.interruptionHistory ?_
      simp only [reassignedStatus, hlive]
      exact hloads.status
  | requesterSaved _ _ => exact (Recorded.of_same rfl rfl).savedRow _
  | requesterUpdated _ _ => exact .of_same rfl rfl
  | assigneeCorrected _ hplan _ =>
    obtain ⟨-, -, -, hstatus, ⟨-, rfl⟩ | ⟨hresolved, hactive, -⟩⟩ := planAssigneeCorrection_eq_ok s hplan
    · exact (Recorded.of_same rfl rfl).savedRow _
    · obtain ⟨_, hticket, -⟩ := correctedActiveTicket_eq s hactive
      refine Recorded.savedRow ?_ _
      rw [hticket]
      refine .of_kind_none rfl ?_ ?_
      · cases hs : row.status <;> simp_all [isCorrectableStatus, kind]
      · dsimp only
        split_ifs <;> rfl
  | @correctedAndPromoted _ _ _ _ _ plan _ hplan hpromotes hp =>
    -- the correction leaves the ticket Assigned, and the promotion takes it on: no interruption on the way
    obtain ⟨-, -, -, hstatus, ⟨-, rfl⟩ | ⟨hresolved, hactive, -⟩⟩ := planAssigneeCorrection_eq_ok s hplan
    · cases hpromotes
    · obtain ⟨_, hticket, -⟩ := correctedActiveTicket_eq s hactive
      obtain ⟨_, -, rfl⟩ := hp.eq
      obtain ⟨version, hv⟩ := savedRow_eq row plan.ticket
      refine .of_kind_none ?_ ?_ rfl
      · change recordInterruptionTransition _ _ _ _ = _
        rw [hv, hticket]
        refine record_of_kind_none ?_ rfl _ _
        dsimp only
        split_ifs <;> rfl
      · cases hs : row.status <;> simp_all [isCorrectableStatus, kind]
  | claimed hopen _ _ ht =>
    obtain ⟨_, rfl, -⟩ := claimedTicket_eq s ht
    refine (Recorded.of_kind_none ?_ ?_ ?_).savedRow _
    · rfl
    · rw [hopen]
      rfl
    · dsimp only
      split_ifs <;> rfl
  | unreadCleared =>
    unfold updatedRow clearUnreadColumn
    split_ifs
    · exact .of_same rfl rfl
    · exact .of_same rfl rfl
  | viewed _ hload hopens ht =>
    obtain ⟨_, -, rfl⟩ := map_eq_ok.mp ht
    have hloads := loadTicket_loads hload
    simp only [opensTicket, Bool.and_eq_true, decide_eq_true_eq, hloads.status] at hopens
    refine (Recorded.of_kind_none ?_ ?_ ?_).savedRow _
    · exact hloads.interruptionHistory
    · rw [hopens.1.1.1]
      rfl
    · rfl
  | rated ht =>
    obtain ⟨hdone, _, _, rfl⟩ := ratedTicket_eq s ht
    have hloads := loads_enrichTicket db row
    rw [hloads.status] at hdone
    refine (Recorded.of_kind_none ?_ ?_ ?_).savedRow _
    · exact hloads.interruptionHistory
    · rcases hdone with h | h <;> rw [h] <;> rfl
    · rfl
  | cancelled _ _ => rfl
  | takenOver _ _ _ _ _ ht =>
    obtain ⟨_, -, rfl⟩ := takenOver_eq s ht
    refine Recorded.savedRow ?_ _
    by_cases hdone : row.status = .resolved ∨ row.status = .closed
    · exact .of_same (if_pos hdone) (if_pos hdone)
    · simp only [Recorded, if_neg hdone]
  | resolutionTimeOverridden _ _ => exact .of_same rfl rfl
  | pickedUpOnLogin hopen _ _ ht =>
    obtain ⟨_, rfl, -⟩ := pickedUpTicket_eq s ht
    refine (Recorded.of_kind_none ?_ ?_ ?_).savedRow _
    · rfl
    · rw [hopen]
      rfl
    · dsimp only
      split_ifs <;> rfl
  | schedulePaused _ _ =>
    have hloads := loads_enrichTicket db row
    have hpaused : Recorded s row (Tickets.schedulePaused s db row) :=
      .of_same hloads.interruptionHistory hloads.status
    exact hpaused.savedRow _
  | overtimePaused _ => exact (Recorded.of_same rfl rfl).savedRow _
  | resumed _ _ hr =>
    obtain ⟨_, _, -, hr⟩ := hr
    obtain ⟨_, -, _, rfl, -⟩ := applySlaResume_eq s hr
    exact (Recorded.of_same rfl rfl).savedRow _
  | recalculated _ hr =>
    obtain ⟨_, -, hr⟩ := hr
    obtain ⟨-, _, _, -, -, -, rfl⟩ := recalculated_eq_some s hr
    exact (Recorded.of_same rfl rfl).savedRow _

end

/-! ## Runs -/

/-- The entry of a transition in the timeline of a ticket: its filing, or its new status. -/
def timelineEntry (id : Nat) (e : Transition State (Services × Op)) : Option (Int × TicketStatus) :=
  match e.before.db.ticket? id, e.after.db.ticket? id with
  | none, some t => some (e.label.1.now, t.status)
  | some row, some t => if t.status = row.status then none else some (e.label.1.now, t.status)
  | _, none => none

/-- The statuses a ticket entered in a run, with their times. -/
def timeline (id : Nat) (history : List (Transition State (Services × Op))) : List (Int × TicketStatus) :=
  history.filterMap (timelineEntry id)

/-- The ledger of each ticket records its timeline, which ends in its status; a ticket not filed yet has none. -/
structure LedgersMirror (history : List (Transition State (Services × Op))) (st : State) : Prop where
  mirrors : ∀ t ∈ st.db.tickets, Mirrors t.interruptionHistory (timeline t.id history)
  last : ∀ t ∈ st.db.tickets, ∃ time ≤ st.clock, (timeline t.id history).getLast? = some (time, t.status)
  absent : ∀ id, st.db.ticket? id = none → timeline id history = []

theorem timeline_concat (id : Nat) (history : List (Transition State (Services × Op)))
    (e : Transition State (Services × Op)) :
    timeline id (history ++ [e]) = timeline id history ++ (timelineEntry id e).toList := by
  rw [timeline, List.filterMap_append, ← timeline]
  cases h : timelineEntry id e <;> simp [h]

theorem LedgersMirror.step {history : List (Transition State (Services × Op))} {st st' : State} {l : Services × Op}
    (hinv : LedgersMirror history st) (h : ticketing.step st l st') : LedgersMirror (history ++ [⟨st, l, st'⟩]) st' := by
  obtain ⟨hclock, hop, hnow⟩ := ticketing_step h
  have hrow : ∀ t ∈ st'.db.tickets,
      Mirrors t.interruptionHistory (timeline t.id (history ++ [⟨st, l, st'⟩])) ∧
        ∃ time ≤ st'.clock, (timeline t.id (history ++ [⟨st, l, st'⟩])).getLast? = some (time, t.status) := by
    intro t ht
    have hafter := Db.ticket?_of_mem ht
    rw [timeline_concat]
    rcases hop.earlier ht with ⟨hfiled, hnew⟩ | ⟨row, hmem, hid, hstep⟩
    · have hentry : timelineEntry t.id ⟨st, l, st'⟩ = some (l.1.now, t.status) := by
        simp [timelineEntry, hnew, hafter]
      have hkind : kind t.status = none := by
        rcases hfiled.owner with ⟨hs, -⟩ | ⟨hs, -⟩ | ⟨hs, -⟩ <;> rw [hs] <;> rfl
      rw [hinv.absent _ hnew, hentry, hfiled.interruptionHistory]
      exact ⟨mirrors_new _ hkind, l.1.now, hnow.ge, rfl⟩
    · have hbefore := hid ▸ Db.ticket?_of_mem hmem
      have hmirrors := hid ▸ hinv.mirrors row hmem
      obtain ⟨time, htime, hlast⟩ := hid ▸ hinv.last row hmem
      have hrecorded : Recorded l.1 row t := by
        rcases hstep with rfl | hstep
        · exact .of_same rfl rfl
        · exact hstep.records
      by_cases hstatus : t.status = row.status
      · have hentry : timelineEntry t.id ⟨st, l, st'⟩ = none := by
          simp [timelineEntry, hbefore, hafter, hstatus]
        rw [hentry, hrecorded, hstatus, record_self, Option.toList_none, List.append_nil]
        exact ⟨hmirrors, time, htime.trans (hclock.trans hnow.ge), hlast⟩
      · have hentry : timelineEntry t.id ⟨st, l, st'⟩ = some (l.1.now, t.status) := by
          simp [timelineEntry, hbefore, hafter, hstatus]
        rw [hentry, hrecorded]
        exact ⟨hmirrors.record hlast (htime.trans hclock) t.status, l.1.now, hnow.ge, List.getLast?_concat⟩
  refine ⟨fun t ht => (hrow t ht).1, fun t ht => (hrow t ht).2, fun id hid => ?_⟩
  have hbefore : st.db.ticket? id = none := by
    cases hrow : st.db.ticket? id with
    | none => rfl
    | some row =>
      obtain ⟨t, ht, htid, -⟩ := hop.later (Db.mem_of_ticket? hrow)
      have hsome := Db.ticket?_of_mem ht
      rw [htid, Db.id_of_ticket? hrow, hid] at hsome
      cases hsome
  rw [timeline_concat, hinv.absent id hbefore]
  simp [timelineEntry, hid]

theorem run_ledgersMirror {history : List (Transition State (Services × Op))} {st : State}
    (h : Run ticketing history st) : LedgersMirror history st := by
  refine Run.invariant (P := fun _ => True) ?_ ?_ h fun _ _ => trivial
  · intro st hinit
    have hempty : st.db.tickets = [] := by rw [show st.db = {} from hinit]
    exact ⟨by simp [hempty], by simp [hempty], fun _ _ => rfl⟩
  · intro history st l st' _ hinv hs _
    exact hinv.step hs

/-- **The interruption ledger mirrors the status history**, in every run of completed operations. -/
theorem interruptionHistory_mirrors_status {history : List (Transition State (Services × Op))} {st : State}
    (h : Run ticketing history st) : ∀ t ∈ st.db.tickets, ∃ ledger, t.interruptionHistory = some ledger ∧
      usableInterruptionHistory (some ledger) = some ledger ∧ ledger.complete = true ∧
      ledger.intervals = periods (timeline t.id history) ∧
      ∀ i (hi : i < ledger.intervals.length), (ledger.intervals[i].endAt = none ↔
        i + 1 = ledger.intervals.length ∧ kind t.status = some ledger.intervals[i].kind) := by
  intro t ht
  have hinv := run_ledgersMirror h
  have husable := (hinv.mirrors t ht).usable
  obtain ⟨created, -, heq⟩ := (hinv.mirrors t ht).eq
  obtain ⟨time, -, hlast⟩ := hinv.last t ht
  refine ⟨_, heq, heq ▸ husable, rfl, rfl, fun i hi => ?_⟩
  have hopen := endAt_eq_none_iff (timeline t.id history) none i hi
  rwa [show lastKind none (timeline t.id history) = kind t.status by simp [lastKind, hlast]] at hopen

/-- A ticket that is paused, resumed, and paused again. -/
def pausedRun : List (Services × Op) :=
  [(office 0, .createTicket request (officeActor 1)),
   (office 1000, .updateTicket 1 { priority := some .high, issueTypeId := .value 1 } (officeActor 4)),
   (office 2000, .assignTicketInternal 1 { assignedToId := 2 } (officeActor 4) none),
   (office 3000, .updateTicket 1 { status := some .pause, statusJustification := some "No reply" } (officeActor 2)),
   (office 4000, .updateTicket 1 { status := some .in_progress } (officeActor 2)),
   (office 5000, .updateTicket 1 { status := some .pause, statusJustification := some "No reply" } (officeActor 2))]

theorem interruptionHistory_mirrors_status_paused : ∃ log, execute pausedRun = some log ∧
    ∀ t ∈ log.2.db.tickets, ∃ ledger, t.interruptionHistory = some ledger ∧
      usableInterruptionHistory (some ledger) = some ledger ∧ ledger.complete = true ∧
      ledger.intervals = periods (timeline t.id log.1) ∧
      ∀ i (hi : i < ledger.intervals.length), (ledger.intervals[i].endAt = none ↔
        i + 1 = ledger.intervals.length ∧ kind t.status = some ledger.intervals[i].kind) := by
  have hsome : (execute pausedRun).isSome = true := by decide +kernel
  obtain ⟨log, hlog⟩ := Option.isSome_iff_exists.mp hsome
  exact ⟨log, hlog, interruptionHistory_mirrors_status (run_of_execute hlog)⟩

end ComplianceHub.Tickets
