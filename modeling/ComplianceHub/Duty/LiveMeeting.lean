import ComplianceHub.Duty.OneDuty

/-!
# Active meeting duty and its meeting

* `IsFor` : a coverage is for an open meeting on its date, at its venue and in its period;
* `Live` : every active coverage of a venue is for a stored meeting;
* `MeetsLive` : an activation finds the meeting of its coverage, and a meeting that is finished has no active coverage;
* `active_duty_has_a_live_meeting` : coverages are live after every run that meets the condition;
* `activated_for_a_deleted_meeting` : an activation does not look for the meeting.
-/

namespace ComplianceHub.Duty

open ComplianceHub.Lib

/-- The meeting of a coverage. -/
structure IsFor (coverage : DutyDailyCoverage) (reservation : DutyMeetingReservation) : Prop where
  named : coverage.reservationId = some reservation.id
  isOpen : reservation.isOpen = true
  date : reservation.meetingDate = coverage.dutyDate
  venue : reservation.venueType = coverage.dutyType
  period : reservation.period = coverage.dutyPeriod

def Live (db : DutyDb) : Prop :=
  ∀ coverage ∈ db.coverages, coverage.status = .active → coverage.dutyType ≠ .OD →
    ∃ reservation ∈ db.reservations, IsFor coverage reservation

/-- An activation of a meeting duty finds its meeting, and a meeting that is finished has no active coverage. -/
def MeetsLive (db : DutyDb) : Event → Prop
  | .operation s (.activateCoverage actor id userId) => ∀ coverage attendance,
      activatable s db actor id userId = .ok (coverage, attendance) → coverage.dutyType ≠ .OD →
      ∃ reservation ∈ db.reservations, IsFor coverage reservation
  | .operation s (.completeReservation actor id) => ∀ reservation,
      completable s db actor id = .ok (some reservation) → ¬ HasActiveCoverage db id
  | _ => True

/-! ## Writes -/

variable {s : Services} {db db' : DutyDb} {op : Operation} {coverage : DutyDailyCoverage}

theorem Live.beside (h : Live db) (hbeside : Beside db db') : Live db' := by
  intro coverage hmem hactive hvenue
  obtain ⟨reservation, hreservation, hfor⟩ := h coverage (hbeside.active coverage hmem hactive) hactive hvenue
  rw [← hbeside.reservations] at hreservation
  exact ⟨reservation, hreservation, hfor⟩

/-- A meeting is written over another: the coverages that were for that one are for it. -/
theorem Live.saveReservation (h : Live db) {row : DutyMeetingReservation}
    (hrow : ∀ coverage ∈ db.coverages, coverage.status = .active → coverage.dutyType ≠ .OD →
      ∀ old ∈ db.reservations, IsFor coverage old → old.id = row.id → IsFor coverage row) : Live (db.saveReservation row) := by
  intro coverage hmem hactive hvenue
  obtain ⟨old, hold, hfor⟩ := h coverage hmem hactive hvenue
  by_cases hid : old.id = row.id
  · exact ⟨row, List.mem_map.mpr ⟨old, hold, if_pos hid⟩, hrow coverage hmem hactive hvenue old hold hfor hid⟩
  · exact ⟨old, List.mem_map.mpr ⟨old, hold, if_neg hid⟩, hfor⟩

theorem IsFor.hasActiveCoverage {reservation : DutyMeetingReservation} (hfor : IsFor coverage reservation)
    (hmem : coverage ∈ db.coverages) (hactive : coverage.status = .active) : HasActiveCoverage db reservation.id :=
  ⟨coverage, hmem, hactive, hfor.named⟩

theorem IsFor.key {reservation : DutyMeetingReservation} (hfor : IsFor coverage reservation) :
    coverage.key = (reservation.meetingDate, reservation.venueType, reservation.period) := by
  rw [hfor.date, hfor.venue, hfor.period, DutyDailyCoverage.key]

/-- A coverage that has ended takes its meeting with it, which no other active coverage is for. -/
theorem Live.completeMeeting (hdb : Sane db) (h : Live db) (hmem : coverage ∈ db.coverages)
    (hstatus : coverage.status = .active ∨ coverage.status = .released) (hbeside : Beside db db')
    (hover : Over coverage.id db') : Live (completeMeeting coverage.reservationId db') := by
  have hlive := h.beside hbeside
  unfold Duty.completeMeeting
  split
  · exact hlive
  · rename_i reservation hfound
    obtain ⟨hfound, -⟩ := Option.filter_eq_some_iff.mp hfound
    obtain ⟨reservationId, hnamed, hstored⟩ := Option.bind_eq_some_iff.mp hfound
    obtain ⟨-, hid⟩ := reservation?_eq_some hstored
    have hvenue : coverage.dutyType ≠ .OD := by
      intro hod
      rw [((hdb.regular coverage hmem).od hod).1] at hnamed
      cases hnamed
    have hactive : coverage.status = .active :=
      hstatus.resolve_right fun hreleased => hvenue ((hdb.regular coverage hmem).released hreleased)
    obtain ⟨own, hown, hownFor⟩ := h coverage hmem hactive hvenue
    refine hlive.saveReservation fun other hother hotherActive _ old hold hfor hsame => absurd hotherActive ?_
    have hids : own.id = old.id := by
      have hnamedOwn := hownFor.named
      rw [hnamed] at hnamedOwn
      rw [← Option.some.inj hnamedOwn, ← hid, hsame]
    rw [hbeside.reservations] at hold
    obtain rfl := hdb.keyed.eq_reservation hown hold hids
    have hotherOld := hbeside.active other hother hotherActive
    have heq : other = coverage := hdb.keyed.eq_of_key hotherOld hmem (hfor.key.trans hownFor.key.symm)
    exact hover other hother (congrArg DutyDailyCoverage.id heq)

/-! ## Operations -/

theorem Live.activated (h : Live db) {userId : Nat} {attendance : TechAttendance}
    (hfound : coverage.dutyType ≠ .OD → ∃ reservation ∈ db.reservations, IsFor coverage reservation) :
    Live ((db.saveAttendance userId coverage.dutyDate (onDuty coverage.dutyType)).saveCoverage
      (activated coverage userId attendance)) := by
  intro row hrow hactive hvenue
  rcases mem_saveCoverage hrow with rfl | ⟨hrow, -⟩
  · obtain ⟨reservation, hmem, hnamed, hopen, hdate, htype, hperiod⟩ := hfound hvenue
    exact ⟨reservation, hmem, hnamed, hopen, hdate, htype, hperiod⟩
  · exact h row hrow hactive hvenue

theorem Live.reinstate (h : Live db) (hod : coverage.dutyType = .OD) (hbeside : Beside db db') :
    Live (reinstate coverage db') := by
  obtain ⟨attendance, hattended⟩ := attendDuty_eq coverage db'
  unfold Duty.reinstate
  rw [hattended]
  intro row hrow hactive hvenue
  rcases mem_saveCoverage hrow with rfl | ⟨hrow, -⟩
  · exact absurd hod hvenue
  · exact h.beside hbeside row hrow hactive hvenue

theorem Live.deleteMeeting (h : Live db) {id : Option Nat} (hfree : ∀ removed, id = some removed → ¬ HasActiveCoverage db removed) :
    Live (deleteMeeting id db) := by
  unfold Duty.deleteMeeting
  split
  · exact h
  · rename_i removed
    intro coverage hmem hactive hvenue
    obtain ⟨reservation, hreservation, hfor⟩ := h coverage hmem hactive hvenue
    refine ⟨reservation, List.mem_filter.mpr ⟨hreservation, decide_eq_true fun hid => ?_⟩, hfor⟩
    have hcovered := hfor.hasActiveCoverage hmem hactive
    rw [hid] at hcovered
    exact hfree removed rfl hcovered

theorem Live.corrected (hdb : Sane db) (h : Live db) {actor : Actor} {body : ReservationBody} {id : Option Nat}
    {row : DutyMeetingReservation} (hread : meetingWrite s db actor body id = .ok (.purpose row)) :
    Live (db.saveReservation row) := by
  rcases meetingWrite_eq_ok hread with ⟨existing, hmem, hwrite⟩ | ⟨_, hwrite, -⟩ | ⟨_, _, hwrite, -, -⟩
  · cases hwrite
    refine h.saveReservation fun coverage _ _ _ old hold hfor hid => ?_
    obtain rfl := hdb.keyed.eq_reservation hold hmem hid
    exact ⟨hfor.named, hfor.isOpen, hfor.date, hfor.venue, hfor.period⟩
  · cases hwrite
  · cases hwrite

/-- The meeting of an active coverage stays where it is. -/
theorem Live.editMeeting (hdb : Sane db) (h : Live db) {body : ReservationBody} {existing row : DutyMeetingReservation}
    (hrow : Rescheduled db body existing row) : Live (db.saveReservation row) := by
  refine h.saveReservation fun coverage hmem hactive _ old hold hfor hid => ?_
  obtain rfl := hdb.keyed.eq_reservation hold hrow.mem (hid.trans hrow.id)
  obtain ⟨hdate, hvenue, hperiod, hopen⟩ := hrow.stays (hfor.hasActiveCoverage hmem hactive)
  refine ⟨?_, hopen.trans hfor.isOpen, hdate.trans hfor.date, hvenue.trans hfor.venue, hperiod.trans hfor.period⟩
  rw [hrow.id]
  exact hfor.named

theorem Live.schedules (hdb : Sane db) (h : Live db) {actor : Actor} {body : ReservationBody} {id : Option Nat}
    {existing : Option DutyMeetingReservation} {row : DutyMeetingReservation}
    (hread : meetingWrite s db actor body id = .ok (.schedule existing row)) : Live (putMeeting existing row db) := by
  rcases meetingWrite_eq_ok hread with ⟨_, -, hwrite⟩ | ⟨_, hwrite, -⟩ | ⟨old, _, hwrite, -, hrow⟩
  · cases hwrite
  · cases hwrite
    intro coverage hmem hactive hvenue
    obtain ⟨reservation, hreservation, hfor⟩ := h coverage hmem hactive hvenue
    exact ⟨reservation, List.mem_append_left _ hreservation, hfor⟩
  · cases hwrite
    unfold putMeeting
    dsimp only
    split_ifs
    · exact h.editMeeting hdb hrow
    · exact h.editMeeting hdb hrow

theorem Live.finalizeCoverage (hdb : Sane db) (h : Live db) (hmem : coverage ∈ db.coverages)
    (hstatus : coverage.status = .active ∨ coverage.status = .released) : Live (finalizeCoverage db coverage) := by
  rcases finalizeCoverage_cases hmem with hwrites | ⟨db', hwrites, hover, heq⟩
  · exact h.beside (hdb.writes hwrites).2
  · rw [heq]
    exact h.completeMeeting hdb hmem hstatus (hdb.writes hwrites).2 hover

theorem Live.change (hdb : Sane db) (h : Live db) (hchange : Change s db op db') (hmeets : MeetsLive db (.operation s op)) :
    Live db' := by
  cases hchange with
  | beside => exact h
  | activates hread => exact h.activated (hmeets _ _ hread)
  | releases hread _ =>
    obtain ⟨hmem, -, hactive⟩ := releasable_eq_ok hread
    refine h.completeMeeting hdb hmem (.inl hactive) (hdb.writes (writes_releases hread)).2 ?_
    exact over_saveCoverage rfl DutyCoverageStatus.noConfusion
  | reinstates _ hod hwrites => exact h.reinstate hod (hdb.writes hwrites).2
  | @completes actor id reservation hread =>
    obtain ⟨hsane, hbeside⟩ := hdb.writes (writes_recordRelievers reservation actor.id
      "Immediate reliever duty completed: " (db.relieversOf reservation.id) db)
    have hfree := hmeets reservation hread
    rw [← (completable_eq_ok hread).2.1] at hfree
    refine (h.beside hbeside).saveReservation fun coverage hmem hactive _ old hold hfor hid => absurd ?_ hfree
    have hcovered := hfor.hasActiveCoverage (hbeside.active coverage hmem hactive) hactive
    rw [hid] at hcovered
    exact hcovered
  | corrects hread => exact h.corrected hdb hread
  | schedules hread => exact h.schedules hdb hread
  | deletes hread =>
    refine h.deleteMeeting fun removed hremoved => ?_
    rw [hremoved] at hread
    exact removable_eq_ok hread
  | relieves _ => exact h
  | clears _ => exact h
  | finalizes hwrites =>
    obtain ⟨hsane, hbeside⟩ := hdb.writes hwrites
    refine (keeps_finalizeCoverages (I := fun db => Sane db ∧ Live db) (fun db coverage h hmem hstatus => ?_) hsane.keyed
      ⟨hsane, h.beside hbeside⟩).2
    exact ⟨h.1.finalizeCoverage hmem, h.2.finalizeCoverage h.1 hmem hstatus⟩

theorem Live.step {e : Event} (hdb : Sane db) (h : Live db) (hstep : DutyStep db e db') (hmeets : MeetsLive db e) :
    Live db' := by
  cases hstep with
  | attendance _ => exact h
  | operation s op =>
    obtain ⟨db', hchange, hwrites⟩ := op.reaches s db
    exact (h.change hdb hchange hmeets).beside ((hdb.change hchange).writes hwrites).2

/-- **Active meeting duty belongs to a live meeting** after every run whose activations and completions meet the
condition. -/
theorem active_duty_has_a_live_meeting {history : List (Transition DutyDb Event)} (h : Run duties history db)
    (hmeets : ∀ e ∈ history, MeetsLive e.before e.label) : Live db := by
  refine (Run.always (I := fun db => Sane db ∧ Live db) ?_
    (fun a e b h hstep hmeets => ⟨h.1.step hstep, h.2.step h.1 hstep hmeets⟩) h hmeets).2
  rintro db ⟨hsane, hnone⟩
  refine ⟨hsane, fun a ha => ?_⟩
  rw [hnone] at ha
  cases ha

/-! ## A deleted meeting -/

/-- The meeting of the day is proposed to the technicians after the OD, and then activated. -/
def rocDuty (between : List Operation) : List Operation :=
  [.reconcileToday] ++ between ++ [.activateCoverage dutyAdministrator 2 2]

instance (reservation : DutyMeetingReservation) : Decidable (IsFor coverage reservation) :=
  decidable_of_iff (coverage.reservationId = some reservation.id ∧ reservation.isOpen = true ∧
      reservation.meetingDate = coverage.dutyDate ∧ reservation.venueType = coverage.dutyType ∧
      reservation.period = coverage.dutyPeriod)
    ⟨fun h => ⟨h.1, h.2.1, h.2.2.1, h.2.2.2.1, h.2.2.2.2⟩, fun h => ⟨h.named, h.isOpen, h.date, h.venue, h.period⟩⟩

theorem active_duty_has_a_live_meeting_once :
    (after nineOClock meetingDay (rocDuty [])).coverages.map DutyDailyCoverage.status = [.intervention_required, .active] ∧
      Live (after nineOClock meetingDay (rocDuty [])) := by
  have hfound : ∀ coverage ∈ (after nineOClock meetingDay [.reconcileToday]).coverages, coverage.dutyType ≠ .OD →
      ∃ reservation ∈ (after nineOClock meetingDay [.reconcileToday]).reservations, IsFor coverage reservation := by
    decide +kernel
  have hmeets : Throughout nineOClock MeetsLive meetingDay (rocDuty []) :=
    ⟨trivial, fun coverage _ hread => hfound coverage (activatable_eq_ok hread).mem, trivial⟩
  obtain ⟨history, hrun, hmeets⟩ := run_operations (rocDuty []) run_meetingDay
    (fun _ he => absurd he List.not_mem_nil) hmeets
  exact ⟨by decide +kernel, active_duty_has_a_live_meeting hrun hmeets⟩

/-- The meeting is deleted while its coverage waits for activation. -/
theorem activated_for_a_deleted_meeting : ¬ ∀ (history : List (Transition DutyDb Event)) (db : DutyDb),
    Run duties history db → Live db := by
  intro hall
  obtain ⟨history, hrun, -⟩ := run_operations (P := fun _ _ => True) (s := nineOClock)
    (rocDuty [.deleteReservation dutyAdministrator 0]) run_meetingDay (fun _ _ => trivial)
    ⟨trivial, trivial, trivial, trivial⟩
  have hlost : (∃ coverage ∈ (after nineOClock meetingDay (rocDuty [.deleteReservation dutyAdministrator 0])).coverages,
      coverage.status = .active ∧ coverage.dutyType ≠ .OD) ∧
      (after nineOClock meetingDay (rocDuty [.deleteReservation dutyAdministrator 0])).reservations = [] := by
    decide +kernel
  obtain ⟨⟨coverage, hmem, hactive, hvenue⟩, hnone⟩ := hlost
  obtain ⟨reservation, hreservation, -⟩ := hall history _ hrun coverage hmem hactive hvenue
  rw [hnone] at hreservation
  cases hreservation

end ComplianceHub.Duty
