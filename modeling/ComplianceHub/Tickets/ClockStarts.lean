import ComplianceHub.Tickets.Ownership

/-!
# Started clocks

Whether the SLA clock of started work is started again.

* `KeepsClock` : a started clock keeps its start and its pauses (`keepsClock_load`, `keepsClock_moveTo`, …);
* `Begins` : the steps that begin work on a ticket of a queue, which set its clock whether it has started or not;
* `RowStep.keepsClock` : a step keeps the clock of a row, begins work on it, returns it to Open, or finds it Open;
* `RowStep.opens` : an Open row was Open before, with the same clock, or was returned;
* `RestartsBegin` : the same of every step of a run, where an Open ticket with a clock was returned since the clock was
  set (`restarts_begin`).
-/

namespace ComplianceHub.Tickets

open ComplianceHub.Lib ComplianceHub.Sla

/-! ## One row -/

/-- A started clock goes on: it keeps its start and the seconds of its pauses. -/
def KeepsClock (row t : TicketSla) : Prop :=
  row.slaStartedAt.isSome = true →
    t.slaStartedAt = row.slaStartedAt ∧ row.accumulatedPauseSeconds ≤ t.accumulatedPauseSeconds

instance (row t : TicketSla) : Decidable (KeepsClock row t) := inferInstanceAs (Decidable (_ → _))

theorem KeepsClock.refl (t : TicketSla) : KeepsClock t t := fun _ => ⟨rfl, le_rfl⟩

theorem KeepsClock.trans {a b c : TicketSla} (h₁ : KeepsClock a b) (h₂ : KeepsClock b c) : KeepsClock a c := by
  intro hstarted
  obtain ⟨hstart₁, hacc₁⟩ := h₁ hstarted
  obtain ⟨hstart₂, hacc₂⟩ := h₂ (hstart₁ ▸ hstarted)
  exact ⟨hstart₂.trans hstart₁, hacc₁.trans hacc₂⟩

section
variable {s : Services} {db : Db} {op : Op} {row t t' : Ticket} {issue : Option TicketIssueType}

theorem KeepsClock.savedRow (h : KeepsClock row.toTicketSla t.toTicketSla) (stored : Ticket) :
    KeepsClock row.toTicketSla (savedRow stored t).toTicketSla := by
  obtain ⟨version, hv⟩ := savedRow_eq stored t
  rw [hv]
  exact h

theorem slaOf_enrichTicket (db : Db) (t : Ticket) : (enrichTicket db t).toTicketSla = t.toTicketSla := by
  unfold enrichTicket
  split
  · split_ifs <;> rfl
  · rfl

theorem keepsClock_enrichTicket (db : Db) (row : Ticket) : KeepsClock row.toTicketSla (enrichTicket db row).toTicketSla := by
  rw [slaOf_enrichTicket]
  exact .refl _

theorem keepsClock_load {viewer : Actor} {e : LoadedTicket} (h : loadTicket s db row viewer = .ok e) :
    KeepsClock row.toTicketSla e.ticket.toTicketSla := by
  refine fun hstarted => ⟨?_, (loadTicket_loads h).accumulatedPauseSeconds.ge⟩
  simp only [loadTicket, bind_eq_ok] at h
  obtain ⟨-, -, u, hu, ⟨u', state⟩, hp, he⟩ := h
  cases he
  have hrepaired : (repairStart (repairWaiting (enrichTicket db row))).slaStartedAt = row.slaStartedAt := by
    have hwaiting : (repairWaiting (enrichTicket db row)).slaStartedAt = row.slaStartedAt := by
      unfold repairWaiting
      have hsame : (enrichTicket db row).slaStartedAt = row.slaStartedAt := by rw [slaOf_enrichTicket]
      split_ifs <;> exact hsame
    unfold repairStart
    rw [if_neg, hwaiting]
    rintro ⟨-, hnone⟩
    rw [hwaiting] at hnone
    simp [hnone] at hstarted
  have hdeadline : u.slaStartedAt = row.slaStartedAt := by
    unfold repairDeadline at hu
    split_ifs at hu
    · obtain ⟨_, -, rfl⟩ := map_eq_ok.mp hu
      exact hrepaired
    · cases hu
      exact hrepaired
  obtain ⟨d, -, rfl⟩ := projectTicketSlaState_eq s hp
  show (clearUnread viewer u).slaStartedAt = row.slaStartedAt
  unfold clearUnread
  split_ifs <;> exact hdeadline

theorem keepsClock_creditTicketPause (t : TicketSla) (start stop : Int) (seconds : Rat) :
    KeepsClock t (creditTicketPause t start stop seconds) := fun _ =>
  ⟨creditTicketPause_slaStartedAt t start stop seconds, creditTicketPause_accumulated_le t start stop seconds⟩

theorem keepsClock_creditSuspension {originalStatus : TicketStatus} {pausedAt : Int}
    (h : creditSuspension s t issue originalStatus pausedAt = .ok t') : KeepsClock t.toTicketSla t'.toTicketSla := by
  obtain ⟨_, _, -, -, rfl⟩ := creditSuspension_eq s h
  exact keepsClock_creditTicketPause _ _ _ _

theorem keepsClock_suspendOrResume {target : TicketStatus} (h : suspendOrResume s t issue target = .ok t') :
    KeepsClock t.toTicketSla t'.toTicketSla := by
  unfold suspendOrResume at h
  dsimp only at h
  split_ifs at h with hstart
  · intro hstarted
    simp [hstart.2] at hstarted
  · cases h
    exact .refl _
  · split at h
    · obtain ⟨credited, hcredit, h⟩ := bind_eq_ok.mp h
      obtain ⟨_, -, h⟩ := bind_eq_ok.mp h
      cases h
      have hcredited := keepsClock_creditSuspension hcredit
      exact hcredited
    · cases h
      exact .refl _
  · cases h
    exact .refl _

theorem keepsClock_stopClock {originalStatus : TicketStatus} (h : stopClock s t issue originalStatus = .ok t') :
    KeepsClock t.toTicketSla t'.toTicketSla := by
  unfold stopClock at h
  split at h
  · obtain ⟨last, hlast, rfl⟩ := map_eq_ok.mp h
    obtain ⟨credited, hcredit, hlast⟩ := bind_eq_ok.mp hlast
    have hcredited := keepsClock_creditSuspension hcredit
    split_ifs at hlast
    · obtain ⟨_, -, rfl⟩ := map_eq_ok.mp hlast
      exact hcredited
    · cases hlast
      exact hcredited
  · cases h
    exact .refl _

theorem keepsClock_moveTo {target : TicketStatus} (htarget : target ≠ .open) (h : moveTo s db t issue target = .ok t') :
    KeepsClock t.toTicketSla t'.toTicketSla := by
  obtain ⟨moved, hmoved, h⟩ := bind_eq_ok.mp h
  have hresumed := keepsClock_suspendOrResume hmoved
  have hentered : KeepsClock t.toTicketSla (entered s db moved target).toTicketSla := by
    cases target
    case «open» => exact absurd rfl htarget
    all_goals exact hresumed
  dsimp only at h
  split_ifs at h
  · exact hentered.trans (keepsClock_stopClock h)
  · cases h
    exact hentered

theorem keepsClock_updated {dto : UpdateTicketDto} {actor : Actor} {plan : UpdatePlan}
    (h : planUpdate s db row dto actor = .ok plan) (hsaved : ∀ reason, plan.persist ≠ .duplicate reason) :
    KeepsClock row.toTicketSla plan.ticket.toTicketSla ∨ dto.status = some .open := by
  obtain ⟨loaded, hload, -, ⟨hpart, -⟩ | hstaff⟩ := planUpdate_eq_ok s h
  · left
    cases hpart with
    | close _ hplan =>
      rw [hplan]
      exact keepsClock_load hload
    | edit _ hplan =>
      rw [hplan]
      exact keepsClock_load hload
  · obtain ⟨routing, slaDeadline, issue, content, moved, _, -, -, -, hpart, rfl⟩ := planStaffUpdate_eq_ok s hstaff
    show KeepsClock row.toTicketSla moved.ticket.toTicketSla ∨ _
    cases hpart with
    | none _ hplan =>
      rw [hplan]
      exact .inl (keepsClock_load hload)
    | duplicate _ _ hdup =>
      obtain ⟨reason, hpersist⟩ := hdup.persist
      exact absurd hpersist (hsaved reason)
    | @move target htarget _ _ hmove =>
      by_cases hopen : target = .open
      · exact .inr (hopen ▸ htarget)
      · have hmoved := keepsClock_moveTo hopen hmove.moveTo
        exact .inl ((keepsClock_load hload).trans hmoved)

theorem keepsClock_activate {wasSchedulePaused : Bool} (h : activate s t issue wasSchedulePaused = .ok t') :
    KeepsClock t.toTicketSla t'.toTicketSla := by
  unfold activate at h
  dsimp only at h
  split_ifs at h with hstart
  · intro hstarted
    simp [hstart.2] at hstarted
  all_goals
    cases h
    exact .refl _

theorem keepsClock_assignedTicket {assignedToId busy : Nat} (h : assignedTicket s t issue assignedToId busy = .ok t') :
    KeepsClock t.toTicketSla t'.toTicketSla := by
  unfold assignedTicket at h
  dsimp only at h
  split_ifs at h
  · cases h
    exact .refl _
  · have hclock := keepsClock_activate h
    exact hclock

theorem keepsClock_correctedActiveTicket {assignedToId busy : Nat}
    (h : correctedActiveTicket s t assignedToId busy = .ok t') : KeepsClock t.toTicketSla t'.toTicketSla := by
  unfold correctedActiveTicket at h
  dsimp only at h
  split_ifs at h
  · cases h
    exact .refl _
  · have hclock := keepsClock_activate h
    exact hclock

theorem keepsClock_takenOver {actorId : Nat} (h : takenOver s t actorId = .ok t') :
    KeepsClock t.toTicketSla t'.toTicketSla := by
  unfold takenOver at h
  dsimp only at h
  split_ifs at h with hdone hstart
  · cases h
    exact .refl _
  · intro hstarted
    simp [hstart] at hstarted
  · cases h
    exact .refl _

theorem keepsClock_applySlaResume {resumeAt : Int} {config : TicketingConfig}
    (h : applySlaResume s t resumeAt config = .ok (some t')) : KeepsClock t.toTicketSla t'.toTicketSla := by
  unfold applySlaResume at h
  split at h
  · cases h
  · rename_i pausedAt _
    split_ifs at h
    · cases h
      exact .refl _
    · obtain ⟨seconds, -, h⟩ := bind_eq_ok.mp h
      dsimp only at h
      have hcredited := keepsClock_creditTicketPause t.toTicketSla pausedAt (max pausedAt resumeAt) seconds
      split at h
      · obtain ⟨deadline, -, h⟩ := bind_eq_ok.mp h
        cases h
        exact hcredited
      · cases h
        exact hcredited

/-! ## One step -/

/-- The step begins work on a ticket: it promotes it from a queue, corrects it to an owner who is free, or opens it. -/
inductive Begins (s : Services) (db : Db) (op : Op) (row : Ticket) : Prop where
  | promoted {owner : Nat} {queue : Db} :
      HandsOver s db op owner queue → queue.oldest (waitsFor owner) = some row → Begins s db op row
  | corrected {dto : CorrectTicketAssigneeDto} {actor : Actor} :
      op = .correctTicketAssignee row.id dto actor → busyCount db dto.assignedToId = 0 → row.isSlaWaiting = true →
      Begins s db op row
  | opened {viewer : Actor} :
      op = .markTicketViewed row.id viewer → opensTicket (enrichTicket db row) viewer = true → Begins s db op row

/-- A clock set by the step, with no pauses. -/
def ClockSet (s : Services) (t : TicketSla) : Prop := t.slaStartedAt = some s.now ∧ t.accumulatedPauseSeconds = 0

theorem Promoted.clockSet {owner : Nat} (h : Promoted s owner row t) : ClockSet s t.toTicketSla := by
  obtain ⟨_, -, rfl⟩ := h.eq
  exact ⟨rfl, rfl⟩

/-- The operation returns a ticket to Open. -/
def Op.Reopens (op : Op) (id : Nat) : Prop := ∃ dto actor, op = .updateTicket id dto actor ∧ dto.status = some .open

theorem opensTicket_load {viewer : Actor} {e : LoadedTicket} (h : loadTicket s db row viewer = .ok e) :
    opensTicket e.ticket viewer = true → opensTicket (enrichTicket db row) viewer = true := by
  intro hopens
  have hloads := loadTicket_loads h
  have henriched := loads_enrichTicket db row
  have hstatus : row.status ≠ .in_progress := by
    rintro hs
    simp [opensTicket, hloads.status, hs] at hopens
  obtain ⟨d, -, hsla, -⟩ := loadTicket_eq_of_ne_in_progress h hstatus
  have hwaiting : e.ticket.isSlaWaiting = (enrichTicket db row).isSlaWaiting := by
    rw [hsla, slaOf_enrichTicket]
  unfold opensTicket at hopens ⊢
  rw [hloads.status, hloads.assignedToId, hwaiting, hloads.priority, ← henriched.status, ← henriched.priority] at hopens
  exact hopens

/-- A step keeps the clock of a row, begins work on it, finds the ticket Open, or returns it to Open. -/
theorem RowStep.keepsClock (h : RowStep s db op row t) :
    KeepsClock row.toTicketSla t.toTicketSla ∨ Begins s db op row ∧ ClockSet s t.toTicketSla ∨ row.status = .open ∨
      op.Reopens row.id := by
  cases h with
  | updated hid hplan hsaved =>
    rcases keepsClock_updated hplan hsaved with hclock | hopen
    · exact .inl (hclock.savedRow row)
    · exact .inr (.inr (.inr ⟨_, _, by rw [Db.id_of_ticket? hid], hopen⟩))
  | markedDuplicate _ _ _ => exact .inl (.refl _)
  | pushedBack _ _ =>
    refine .inl (KeepsClock.savedRow ?_ row)
    exact .refl _
  | pickedUp hp => exact .inr (.inr (.inl hp.isOpen))
  | promoted hover hrow hp => exact .inr (.inl ⟨.promoted hover hrow, hp.clockSet⟩)
  | assigned _ hplan =>
    obtain ⟨loaded, hload, -, hassigned, -⟩ := planAssign_eq_ok s hplan
    exact .inl (((keepsClock_load hload).trans (keepsClock_assignedTicket hassigned)).savedRow row)
  | requesterSaved _ _ =>
    refine .inl (KeepsClock.savedRow ?_ row)
    exact .refl _
  | requesterUpdated _ _ => exact .inl (.refl _)
  | assigneeCorrected _ hplan _ =>
    refine .inl (KeepsClock.savedRow ?_ row)
    obtain ⟨_, -, -, -, ⟨-, rfl⟩ | ⟨-, hcorrected, -⟩⟩ := planAssigneeCorrection_eq_ok s hplan
    · exact .refl _
    · exact keepsClock_correctedActiveTicket hcorrected
  | @correctedAndPromoted id dto actor _ _ plan hid hplan hpromotes hp =>
    obtain ⟨_, -, -, -, ⟨-, rfl⟩ | ⟨-, -, -, hfree⟩⟩ := planAssigneeCorrection_eq_ok s hplan
    · cases hpromotes
    · rw [hpromotes] at hfree
      split_ifs at hfree with hcond
      obtain ⟨hbusy, hwaiting⟩ := Bool.and_eq_true_iff.mp hcond
      have hop : Op.correctTicketAssignee id dto actor = .correctTicketAssignee row.id dto actor := by
        rw [Db.id_of_ticket? hid]
      exact .inr (.inl ⟨.corrected hop (of_decide_eq_true hbusy) hwaiting, hp.clockSet⟩)
  | claimed hopen _ _ _ => exact .inr (.inr (.inl hopen))
  | unreadCleared =>
    unfold updatedRow clearUnreadColumn
    refine .inl ?_
    split_ifs <;> exact .refl _
  | @viewed id viewer _ t _ hid hload hopens ht =>
    have hset : ClockSet s (savedRow (updatedRow row (clearUnreadColumn viewer)) t).toTicketSla := by
      obtain ⟨version, hv⟩ := savedRow_eq (updatedRow row (clearUnreadColumn viewer)) t
      obtain ⟨_, -, rfl⟩ := map_eq_ok.mp ht
      rw [hv]
      exact ⟨rfl, rfl⟩
    refine .inr (.inl ⟨.opened ?_ (opensTicket_load hload hopens), hset⟩)
    rw [Db.id_of_ticket? hid]
  | rated ht =>
    obtain ⟨-, _, _, rfl⟩ := ratedTicket_eq s ht
    refine .inl (KeepsClock.savedRow ?_ row)
    exact keepsClock_enrichTicket db row
  | cancelled _ _ => exact .inl (.refl _)
  | takenOver _ _ _ _ _ ht => exact .inl ((keepsClock_takenOver ht).savedRow row)
  | resolutionTimeOverridden _ _ => exact .inl (.refl _)
  | pickedUpOnLogin hopen _ _ _ => exact .inr (.inr (.inl hopen))
  | schedulePaused _ _ =>
    refine .inl (KeepsClock.savedRow ?_ row)
    exact keepsClock_enrichTicket db row
  | overtimePaused _ =>
    refine .inl (KeepsClock.savedRow ?_ row)
    exact .refl _
  | resumed _ _ hr =>
    obtain ⟨_, _, -, hr⟩ := hr
    exact .inl ((keepsClock_applySlaResume hr).savedRow row)
  | recalculated _ hr =>
    obtain ⟨_, -, hr⟩ := hr
    obtain ⟨-, _, _, -, -, -, rfl⟩ := recalculated_eq_some s hr
    refine .inl (KeepsClock.savedRow ?_ row)
    exact .refl _

/-- An update that asks for no status keeps the clock of an Open ticket as it is. -/
theorem clock_of_openEdit {dto : UpdateTicketDto} {actor : Actor} {plan : UpdatePlan}
    (h : planUpdate s db row dto actor = .ok plan) (hopen : row.status = .open) (hdto : dto.status = none) :
    plan.ticket.slaStartedAt = row.slaStartedAt := by
  obtain ⟨loaded, hload, -, ⟨hpart, -⟩ | hstaff⟩ := planUpdate_eq_ok s h
  all_goals obtain ⟨d, -, hsla, -⟩ := loadTicket_eq_of_ne_in_progress hload (by rw [hopen]; decide)
  all_goals have hloaded : loaded.ticket.slaStartedAt = row.slaStartedAt := by rw [hsla]
  · cases hpart with
    | close _ hplan =>
      rw [hplan]
      exact hloaded
    | edit _ hplan =>
      rw [hplan]
      exact hloaded
  · obtain ⟨routing, slaDeadline, issue, content, moved, _, -, -, -, hpart, rfl⟩ := planStaffUpdate_eq_ok s hstaff
    show moved.ticket.slaStartedAt = row.slaStartedAt
    cases hpart with
    | none _ hplan =>
      rw [hplan]
      exact hloaded
    | duplicate hasks _ _ =>
      rw [hdto] at hasks
      cases hasks
    | move hasks _ _ _ =>
      rw [hdto] at hasks
      cases hasks

/-- A row that is Open was Open before, with the same clock, or has been returned to Open. -/
theorem RowStep.opens (h : RowStep s db op row t) (hopen : t.status = .open) :
    row.status = .open ∧ t.slaStartedAt = row.slaStartedAt ∨ op.Reopens row.id := by
  have hnot : ∀ status, t.status = status → status ≠ .open → row.status = .open ∧ t.slaStartedAt = row.slaStartedAt ∨
      op.Reopens row.id := fun status hstatus hne => absurd (hstatus.symm.trans hopen) hne
  have hsaved : ∀ {u : Ticket}, t = Tickets.savedRow row u → u.status = t.status ∧ u.slaStartedAt = t.slaStartedAt := by
    rintro u rfl
    obtain ⟨version, hv⟩ := savedRow_eq row u
    rw [hv]
    exact ⟨rfl, rfl⟩
  cases h with
  | @updated id dto actor _ plan hid hplan hpersist =>
    obtain ⟨hstatus, hclock⟩ := hsaved rfl
    rw [← hstatus] at hopen
    rw [← hclock]
    have hreopens : dto.status = some .open → (Op.updateTicket id dto actor).Reopens row.id := fun hdto =>
      ⟨dto, actor, by rw [Db.id_of_ticket? hid], hdto⟩
    cases planUpdate_status hplan hpersist with
    | same hnone hsame =>
      have hrow : row.status = .open := hsame.symm.trans hopen
      exact .inl ⟨hrow, clock_of_openEdit hplan hrow hnone⟩
    | moved _ hne hstatus _ _ => exact absurd (hstatus.symm.trans hopen) hne
    | closed _ hstatus =>
      rw [hopen] at hstatus
      cases hstatus
    | reset hdto _ => exact .inr (hreopens hdto)
  | markedDuplicate _ _ _ => exact hnot .duplicate rfl (by decide)
  | pushedBack hassigned _ => exact hnot .assigned ((savedRow_status _ _).trans hassigned) (by decide)
  | pickedUp hp =>
    obtain ⟨_, -, rfl⟩ := hp.eq
    exact hnot .in_progress (savedRow_status _ _) (by decide)
  | promoted _ _ hp =>
    obtain ⟨_, -, rfl⟩ := hp.eq
    exact hnot .in_progress rfl (by decide)
  | assigned _ hplan =>
    obtain ⟨loaded, -, -, hassigned, -⟩ := planAssign_eq_ok s hplan
    obtain ⟨_, hticket, -⟩ := assignedTicket_eq s hassigned
    rw [savedRow_status, hticket] at hopen
    exact absurd hopen (reassignedStatus_ne_open _ _)
  | requesterSaved _ _ =>
    obtain ⟨hstatus, hclock⟩ := hsaved rfl
    exact .inl ⟨hstatus.trans hopen, hclock.symm⟩
  | requesterUpdated _ _ => exact .inl ⟨hopen, rfl⟩
  | assigneeCorrected _ hplan _ =>
    obtain ⟨_, -, -, hcorrectable, ⟨hresolved, rfl⟩ | ⟨-, hcorrected, -⟩⟩ := planAssigneeCorrection_eq_ok s hplan
    · exact hnot .resolved ((savedRow_status _ _).trans hresolved) (by decide)
    · obtain ⟨_, hticket, -⟩ := correctedActiveTicket_eq s hcorrected
      rw [savedRow_status, hticket] at hopen
      dsimp only at hopen
      split_ifs at hopen
  | correctedAndPromoted _ _ _ hp =>
    obtain ⟨_, -, rfl⟩ := hp.eq
    exact hnot .in_progress rfl (by decide)
  | claimed _ _ _ ht =>
    obtain ⟨_, rfl, -⟩ := claimedTicket_eq s ht
    rw [savedRow_status] at hopen
    dsimp only at hopen
    split_ifs at hopen
  | unreadCleared =>
    unfold updatedRow clearUnreadColumn at hopen ⊢
    refine .inl ?_
    split_ifs at hopen ⊢ <;> exact ⟨hopen, rfl⟩
  | viewed _ _ _ ht =>
    obtain ⟨_, -, rfl⟩ := map_eq_ok.mp ht
    exact hnot .in_progress (savedRow_status _ _) (by decide)
  | rated ht =>
    obtain ⟨-, _, _, rfl⟩ := ratedTicket_eq s ht
    exact hnot .closed (savedRow_status _ _) (by decide)
  | cancelled _ _ => exact hnot .cancelled rfl (by decide)
  | takenOver _ _ _ _ _ ht =>
    obtain ⟨_, -, rfl⟩ := takenOver_eq s ht
    rw [savedRow_status] at hopen
    dsimp only at hopen
    split_ifs at hopen with hdone
    rw [hopen] at hdone
    rcases hdone with h | h <;> cases h
  | resolutionTimeOverridden _ _ => exact .inl ⟨hopen, rfl⟩
  | pickedUpOnLogin _ _ _ ht =>
    obtain ⟨_, rfl, -⟩ := pickedUpTicket_eq s ht
    rw [savedRow_status] at hopen
    dsimp only at hopen
    split_ifs at hopen
  | schedulePaused hrunning _ =>
    simp only [isRunningClock, Bool.and_eq_true, decide_eq_true_eq] at hrunning
    exact hnot .in_progress ((savedRow_status _ _).trans ((loads_enrichTicket db row).status.trans hrunning.1.1.1))
      (by decide)
  | overtimePaused hrunning =>
    simp only [isRunningClock, Bool.and_eq_true, decide_eq_true_eq] at hrunning
    exact hnot .in_progress ((savedRow_status _ _).trans hrunning.1.1.1) (by decide)
  | resumed _ hpaused hr =>
    simp only [isPausedClock, Bool.and_eq_true, decide_eq_true_eq] at hpaused
    obtain ⟨_, _, -, hr⟩ := hr
    obtain ⟨_, -, _, rfl, -⟩ := applySlaResume_eq s hr
    exact hnot .in_progress ((savedRow_status _ _).trans hpaused.1.1) (by decide)
  | recalculated hstatus hr =>
    obtain ⟨_, -, hr⟩ := hr
    obtain ⟨-, _, _, -, -, -, rfl⟩ := recalculated_eq_some s hr
    exact hnot .in_progress ((savedRow_status _ _).trans hstatus) (by decide)

end

/-! ## Runs -/

abbrev TicketStep := Transition State (Services × Op)

def clockOf (db : Db) (id : Nat) : Option Int := (db.ticket? id).bind fun t => t.slaStartedAt

def SetsClock (id : Nat) (e : TicketStep) : Prop :=
  (clockOf e.after.db id).isSome = true ∧ clockOf e.after.db id ≠ clockOf e.before.db id

def Reopened (id : Nat) (e : TicketStep) : Prop := e.label.2.Reopens id

/-- A step that changes the start of a started clock or takes pauses from it begins work on the ticket, at its own time
and with no pauses, or returns it to Open, or an earlier step has returned it since the clock was set. -/
def RestartsBegin (history : List TicketStep) : Prop :=
  ∀ past e later, history = past ++ e :: later → ∀ row ∈ e.before.db.tickets, ∀ t ∈ e.after.db.tickets, t.id = row.id →
    KeepsClock row.toTicketSla t.toTicketSla ∨
      Begins e.label.1 e.before.db e.label.2 row ∧ ClockSet e.label.1 t.toTicketSla ∨ Reopened row.id e ∨
      ∃ earlier, Since (Reopened row.id) (SetsClock row.id) past earlier

/-- An Open ticket with a clock has been returned since the clock was set. -/
def OpenReturned (history : List TicketStep) (st : State) : Prop :=
  ∀ t ∈ st.db.tickets, t.status = .open → t.slaStartedAt.isSome = true →
    ∃ earlier, Since (Reopened t.id) (SetsClock t.id) history earlier

section
variable {history : List TicketStep} {st st' : State} {l : Services × Op}

theorem clockOf_of_mem {db : Db} {t : Ticket} (ht : t ∈ db.tickets) : clockOf db t.id = t.slaStartedAt := by
  unfold clockOf
  rw [Db.ticket?_of_mem ht]
  rfl

theorem openReturned_step (hpast : OpenReturned history st) (h : ticketing.step st l st') :
    OpenReturned (history ++ [⟨st, l, st'⟩]) st' := by
  intro t ht hopen hstarted
  obtain ⟨-, hcompletes, -⟩ := ticketing_step h
  rcases hcompletes.earlier ht with ⟨hfiled, -⟩ | ⟨row, hrow, hid, hstep⟩
  · rcases hfiled.owner with ⟨-, -, hnone, -⟩ | ⟨hassigned, -⟩ | ⟨hprogress, -⟩
    · simp [hnone] at hstarted
    · rw [hopen] at hassigned
      cases hassigned
    · rw [hopen] at hprogress
      cases hprogress
  · have hsame : (row.status = .open ∧ t.slaStartedAt = row.slaStartedAt) ∨ l.2.Reopens row.id := by
      rcases hstep with rfl | hstep
      · exact .inl ⟨hopen, rfl⟩
      · exact hstep.opens hopen
    rw [← hid]
    rcases hsame with ⟨hopen', hclock⟩ | hreopens
    · obtain ⟨earlier, hearlier⟩ := hpast row hrow hopen' (hclock ▸ hstarted)
      refine ⟨earlier, since_concat.mpr (.inr ⟨?_, hearlier⟩)⟩
      rintro ⟨-, hchanged⟩
      refine hchanged ?_
      show clockOf st'.db row.id = clockOf st.db row.id
      rw [clockOf_of_mem hrow, hid, clockOf_of_mem ht, hclock]
    · exact ⟨_, since_concat.mpr (.inl ⟨rfl, hreopens⟩)⟩

theorem restartsBegin_step (hpast : RestartsBegin history) (hreturned : OpenReturned history st)
    (h : ticketing.step st l st') : RestartsBegin (history ++ [⟨st, l, st'⟩]) := by
  intro past e later hsplit row hrow t ht hid
  rcases List.eq_nil_or_concat later with rfl | ⟨init, last, rfl⟩
  · obtain ⟨rfl, hlast⟩ := List.append_inj' hsplit rfl
    obtain rfl := List.singleton_injective hlast
    obtain ⟨u, hu, huid, hstep⟩ := (ticketing_step h).2.1.later hrow
    obtain rfl : t = u := by
      have hfound := Db.ticket?_of_mem ht
      rw [hid, ← huid, Db.ticket?_of_mem hu] at hfound
      exact (Option.some.inj hfound).symm
    by_cases hstarted : row.slaStartedAt.isSome = true
    · rcases hstep with rfl | hstep
      · exact .inl (.refl _)
      · rcases hstep.keepsClock with hclock | hbegins | hopen | hreopens
        · exact .inl hclock
        · exact .inr (.inl hbegins)
        · exact .inr (.inr (.inr (hreturned row hrow hopen hstarted)))
        · exact .inr (.inr (.inl hreopens))
    · exact .inl fun hsome => absurd hsome hstarted
  · rw [List.concat_eq_append] at hsplit
    rw [← List.cons_append, ← List.append_assoc] at hsplit
    obtain ⟨hhistory, -⟩ := List.append_inj' hsplit rfl
    exact hpast past e init hhistory row hrow t ht hid

/-- **Restarts**: the clock of started work is started again only as work begins on the ticket, or once it was returned to
Open. -/
theorem restarts_begin (h : Run ticketing history st) : RestartsBegin history := by
  suffices hboth : RestartsBegin history ∧ OpenReturned history st from hboth.1
  refine Run.invariant (I := fun history st => RestartsBegin history ∧ OpenReturned history st)
    (P := fun _ => True) (fun st hinit => ⟨?_, ?_⟩) (fun history st l st' _ hpast hstep _ => ?_) h fun _ _ => trivial
  · intro past e later hsplit
    simp at hsplit
  · intro t ht
    rw [show st.db = {} from hinit] at ht
    cases ht
  · exact ⟨restartsBegin_step hpast.1 hpast.2 hstep, openReturned_step hpast.2 hstep⟩

end

/-- Ticket 1 is started by technician 2, waits behind the work of technician 3, and is promoted. -/
def handedOnRun : List (Services × Op) :=
  [(office 0, .createTicket request (officeActor 1)),
   (office 1000, .createTicket request (officeActor 1)),
   (office 2000, .assignTicketInternal 1 { assignedToId := 2 } (officeActor 4) none),
   (office 3000, .assignTicketInternal 2 { assignedToId := 3 } (officeActor 4) none),
   (office 4000, .assignTicketInternal 1 { assignedToId := 3 } (officeActor 4) none),
   (office 5000, .assignTicketInternal 2 { assignedToId := 2 } (officeActor 4) none)]

theorem restarts_begin_handedOn : ∃ log, execute handedOnRun = some log ∧
    (∃ e ∈ log.1, ∃ row ∈ e.before.db.tickets, ∃ t ∈ e.after.db.tickets, t.id = row.id ∧
      ¬ KeepsClock row.toTicketSla t.toTicketSla) ∧ RestartsBegin log.1 := by
  have hany : ((execute handedOnRun).any fun log => ∃ e ∈ log.1, ∃ row ∈ e.before.db.tickets,
      ∃ t ∈ e.after.db.tickets, t.id = row.id ∧ ¬ KeepsClock row.toTicketSla t.toTicketSla) = true := by decide +kernel
  obtain ⟨log, hlog, hrestarted⟩ := (Option.any_eq_true _ _).mp hany
  exact ⟨log, hlog, of_decide_eq_true hrestarted, restarts_begin (run_of_execute hlog)⟩

end ComplianceHub.Tickets
