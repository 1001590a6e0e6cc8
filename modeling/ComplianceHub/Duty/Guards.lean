import ComplianceHub.Duty.Operations

/-!
# What passes the checks

* `activatable_eq_ok`, `releasable_eq_ok`, `completable_eq_ok`, `removable_eq_ok`, `relievable_eq_ok` : what the checks
  of an operation let through;
* `parseClock_text` : a stored time, written as a text and read again;
* `meetingWrite_eq_ok` : what `saveReservation` may write.
-/

namespace ComplianceHub.Duty

variable {s : Services} {db : DutyDb} {actor : Actor}

theorem orNotFound_eq_ok {α : Type} {row : Option α} {message : String} {a : α} (h : orNotFound row message = .ok a) :
    row = some a := by
  unfold orNotFound at h
  split at h
  · cases h
    rfl
  · cases h

theorem coverage?_eq_some {id : Nat} {coverage : DutyDailyCoverage} (h : db.coverage? id = some coverage) :
    coverage ∈ db.coverages ∧ coverage.id = id :=
  ⟨List.mem_of_find?_eq_some h,
    of_decide_eq_true (List.find?_some (p := fun row : DutyDailyCoverage => decide (row.id = id)) h)⟩

theorem reservation?_eq_some {id : Nat} {reservation : DutyMeetingReservation}
    (h : db.reservation? id = some reservation) : reservation ∈ db.reservations ∧ reservation.id = id :=
  ⟨List.mem_of_find?_eq_some h,
    of_decide_eq_true (List.find?_some (p := fun row : DutyMeetingReservation => decide (row.id = id)) h)⟩

/-! ## Coverages -/

theorem mem_reserving {date : Int} {row : DutyDailyCoverage} : row ∈ db.reserving date ↔
    row ∈ db.coverages ∧ row.dutyDate = date ∧ (row.status = .active ∨ row.status = .intervention_required) := by
  unfold DutyDb.reserving
  simp only [List.mem_filter, Bool.and_eq_true, Bool.or_eq_true, decide_eq_true_eq]

/-- A pending coverage of which no other duty keeps the technician, who is present. -/
structure Activatable (db : DutyDb) (id userId : Nat) (coverage : DutyDailyCoverage) (attendance : TechAttendance) :
    Prop where
  mem : coverage ∈ db.coverages
  named : coverage.id = id
  status : coverage.status = .intervention_required
  alone : ∀ row ∈ db.coverages, row.dutyDate = coverage.dutyDate → row.status = .active →
    row.assignedUserId = some userId → row.id ≠ coverage.id → periodsOverlap row.dutyPeriod coverage.dutyPeriod = false
  attended : db.attendanceOf userId coverage.dutyDate = some attendance
  present : attendance.status = .present

theorem activatable_eq_ok {id userId : Nat} {coverage : DutyDailyCoverage} {attendance : TechAttendance}
    (h : activatable s db actor id userId = .ok (coverage, attendance)) : Activatable db id userId coverage attendance := by
  unfold activatable at h
  obtain ⟨_, -, h⟩ := bind_eq_ok.mp h
  obtain ⟨found, hfound, h⟩ := bind_eq_ok.mp h
  obtain ⟨_, hpending, h⟩ := bind_eq_ok.mp h
  obtain ⟨_, hconflict, h⟩ := bind_eq_ok.mp h
  obtain ⟨_, -, h⟩ := bind_eq_ok.mp h
  split at h
  · cases h
  · rename_i attended hattended
    cases h
    obtain ⟨hmem, hid⟩ := coverage?_eq_some (orNotFound_eq_ok hfound)
    obtain ⟨hattendance, hpresent⟩ := Option.filter_eq_some_iff.mp hattended
    refine ⟨hmem, hid, check_eq_ok.mp hpending, fun row hrow hdate hactive huser hother => ?_, hattendance,
      of_decide_eq_true hpresent⟩
    have hnone := List.find?_eq_none.mp (Option.isNone_iff_eq_none.mp (check_eq_ok.mp hconflict)) row
      (mem_reserving.mpr ⟨hrow, hdate, .inl hactive⟩)
    have hcandidate : coverageCandidateUserId row = some userId := by
      unfold coverageCandidateUserId
      rw [hactive]
      exact huser
    simpa [hother, hcandidate] using hnone

theorem releasable_eq_ok {id : Nat} {coverage : DutyDailyCoverage} (h : releasable s db actor id = .ok coverage) :
    coverage ∈ db.coverages ∧ coverage.id = id ∧ coverage.status = .active := by
  unfold releasable at h
  obtain ⟨_, -, h⟩ := bind_eq_ok.mp h
  obtain ⟨found, hfound, h⟩ := bind_eq_ok.mp h
  obtain ⟨_, hactive, h⟩ := bind_eq_ok.mp h
  obtain ⟨_, -, h⟩ := bind_eq_ok.mp h
  cases h
  obtain ⟨hmem, hid⟩ := coverage?_eq_some (orNotFound_eq_ok hfound)
  exact ⟨hmem, hid, check_eq_ok.mp hactive⟩

/-! ## Meetings -/

theorem completable_eq_ok {id : Nat} {reservation : DutyMeetingReservation}
    (h : completable s db actor id = .ok (some reservation)) :
    reservation ∈ db.reservations ∧ reservation.id = id ∧ reservation.isOpen = true := by
  unfold completable at h
  obtain ⟨_, -, h⟩ := bind_eq_ok.mp h
  obtain ⟨found, hfound, h⟩ := bind_eq_ok.mp h
  obtain ⟨_, hcancelled, h⟩ := bind_eq_ok.mp h
  split_ifs at h with hcompleted
  · cases h
  · obtain ⟨_, -, h⟩ := bind_eq_ok.mp h
    obtain ⟨_, -, h⟩ := bind_eq_ok.mp h
    cases h
    obtain ⟨hmem, hid⟩ := reservation?_eq_some (orNotFound_eq_ok hfound)
    refine ⟨hmem, hid, ?_⟩
    have hopen := check_eq_ok.mp hcancelled
    simp [DutyMeetingReservation.isOpen, isOpenStatus, hopen, hcompleted]

/-- An active coverage is for the meeting. -/
def HasActiveCoverage (db : DutyDb) (id : Nat) : Prop :=
  ∃ coverage ∈ db.coverages, coverage.status = .active ∧ coverage.reservationId = some id

theorem hasActiveDuty_of_coverage {row : DutyMeetingReservation} (h : HasActiveCoverage db row.id) :
    (reservationRestrictions s db row).hasActiveDuty = true := by
  obtain ⟨coverage, hmem, hactive, hfor⟩ := h
  unfold reservationRestrictions
  rw [Bool.or_eq_true]
  refine .inl (List.any_eq_true.mpr ⟨coverage, hmem, ?_⟩)
  simp [hactive, hfor]

theorem removable_eq_ok {id removed : Nat} (h : removable s db actor id = .ok (some removed)) :
    ¬ HasActiveCoverage db removed := by
  unfold removable at h
  obtain ⟨_, -, h⟩ := bind_eq_ok.mp h
  split at h
  · cases h
  · obtain ⟨_, hrestrictions, h⟩ := bind_eq_ok.mp h
    cases h
    intro hactive
    have hfree := (check_eq_ok.mp hrestrictions).2
    rw [hasActiveDuty_of_coverage hactive] at hfree
    cases hfree

/-- A meeting whose relievers are replaced, and the technicians. -/
theorem relievable_eq_ok {reservationId : Nat} {userIds selectedUserIds : List Nat} {reason normalizedReason : String}
    {reservation : DutyMeetingReservation}
    (h : relievable s db actor reservationId userIds reason = .ok (reservation, selectedUserIds, normalizedReason)) :
    (reservation ∈ db.reservations ∧ reservation.id = reservationId) ∧
      ∀ row ∈ db.coverages, row.dutyDate = reservation.meetingDate → row.status = .active →
        row.dutyType ≠ reservation.venueType → periodsOverlap row.dutyPeriod reservation.period = true →
        ∀ userId ∈ selectedUserIds, row.assignedUserId ≠ some userId := by
  unfold relievable at h
  obtain ⟨_, -, h⟩ := bind_eq_ok.mp h
  obtain ⟨found, hfound, h⟩ := bind_eq_ok.mp h
  obtain ⟨_, -, h⟩ := bind_eq_ok.mp h
  obtain ⟨_, -, h⟩ := bind_eq_ok.mp h
  obtain ⟨_, -, h⟩ := bind_eq_ok.mp h
  obtain ⟨_, -, h⟩ := bind_eq_ok.mp h
  obtain ⟨_, -, h⟩ := bind_eq_ok.mp h
  obtain ⟨_, hduty, h⟩ := bind_eq_ok.mp h
  obtain ⟨_, -, h⟩ := bind_eq_ok.mp h
  obtain ⟨_, -, h⟩ := bind_eq_ok.mp h
  cases h
  refine ⟨reservation?_eq_some (orNotFound_eq_ok hfound), fun row hrow hdate hactive htype hperiod userId huser hrowUser => ?_⟩
  have hnone := List.find?_eq_none.mp (Option.isNone_iff_eq_none.mp (check_eq_ok.mp hduty)) row
    (mem_reserving.mpr ⟨hrow, hdate, .inl hactive⟩)
  have hcandidate : coverageCandidateUserId row = some userId := by
    unfold coverageCandidateUserId
    rw [hactive]
    exact hrowUser
  rw [hcandidate, Option.any_some, List.contains_iff_mem.mpr huser] at hnone
  simp [htype, hperiod] at hnone

/-! ## Times -/

theorem padded_toList (n : Fin 60) : (padded n.val).toList = [(n.val / 10).digitChar, (n.val % 10).digitChar] := by
  revert n
  decide +kernel

theorem twoDigitsBelow_hours (n : Fin 24) :
    twoDigitsBelow 24 (n.val / 10).digitChar (n.val % 10).digitChar = some n := by
  revert n
  decide +kernel

theorem twoDigitsBelow_minutes (n : Fin 60) :
    twoDigitsBelow 60 (n.val / 10).digitChar (n.val % 10).digitChar = some n := by
  revert n
  decide +kernel

theorem parseClock_text (t : ClockTime) : parseClock t.text = some t := by
  obtain ⟨hours, minutes, seconds⟩ := t
  have htext : (ClockTime.text ⟨hours, minutes, seconds⟩).toList =
      [(hours.val / 10).digitChar, (hours.val % 10).digitChar, ':', (minutes.val / 10).digitChar,
        (minutes.val % 10).digitChar, ':', (seconds.val / 10).digitChar, (seconds.val % 10).digitChar] := by
    unfold ClockTime.text
    rw [String.toList_append, String.toList_append, String.toList_append, String.toList_append, padded_toList,
      padded_toList, padded_toList ⟨hours.val, hours.isLt.trans (by omega)⟩]
    rfl
  unfold parseClock
  rw [htext]
  simp only [twoDigitsBelow_hours, twoDigitsBelow_minutes]
  rfl

/-- Times that are not changed are in the slot they were in. -/
theorem meetingTimes_stored {stored times : MeetingTimes}
    (h : meetingTimes (stored.range.map fun range => range.1.text) (stored.range.map fun range => range.2.text) =
      .ok times) : times.period = stored.period := by
  obtain ⟨range, period, hslot⟩ := stored
  have hslotted : ∀ range' : Option (ClockTime × ClockTime), slotted range' = .ok times → range' = range →
      times.period = period := by
    rintro _ hslotted rfl
    unfold slotted at hslotted
    split at hslotted
    · rename_i period' hperiod'
      cases hslotted
      exact Except.ok.inj (hperiod'.symm.trans hslot)
    · cases hslotted
  unfold meetingTimes at h
  cases range with
  | none => exact hslotted none h rfl
  | some range =>
    dsimp only [Option.map_some] at h
    split_ifs at h
    rw [parseClock_text, parseClock_text] at h
    dsimp only at h
    split_ifs at h
    exact hslotted _ h rfl

/-! ## Edits of a meeting -/

variable {body : ReservationBody} {existing row : DutyMeetingReservation}

theorem isChanged_eq_false {α : Type} [DecidableEq α] {value : Option (Option α)} {stored : Option α}
    (h : isChanged value stored = false) : value = none ∨ value = some stored := by
  cases value with
  | none => exact .inl rfl
  | some value =>
    refine .inr (congrArg some ?_)
    simpa [isChanged] using h

/-- A field that is not changed is the stored one. -/
theorem join_of_isChanged {α : Type} [DecidableEq α] {value : Option (Option α)} {stored : α}
    (h : isChanged value (some stored) = false) : (value.join <|> some stored) = some stored := by
  rcases isChanged_eq_false h with rfl | rfl <;> rfl

theorem getD_of_isChanged {α : Type} [DecidableEq α] {value : Option (Option α)} {stored : Option α}
    (h : isChanged value stored = false) : value.getD stored = stored := by
  rcases isChanged_eq_false h with rfl | rfl <;> rfl

/-- The status that is saved over a stored one. -/
def statusAfter (body : ReservationBody) (existing : DutyMeetingReservation) : DutyReservationStatus :=
  body.status.join.getD existing.status

theorem scheduledMeeting_eq_ok (h : scheduledMeeting s db actor body (some existing) = .ok row) :
    (body.venueType.join <|> some existing.venueType) = some row.venueType ∧
      (body.meetingDate.join <|> some existing.meetingDate) = some row.meetingDate ∧
      row.status = statusAfter body existing ∧ row.id = existing.id ∧
      meetingTimes (body.startTime.getD existing.startText) (body.endTime.getD existing.endText) = .ok row.times := by
  unfold scheduledMeeting at h
  obtain ⟨venueType, hvenue, h⟩ := bind_eq_ok.mp h
  split at h
  · cases h
  · rename_i meetingDate hdate
    obtain ⟨_, -, h⟩ := bind_eq_ok.mp h
    obtain ⟨_, -, h⟩ := bind_eq_ok.mp h
    obtain ⟨times, htimes, h⟩ := bind_eq_ok.mp h
    obtain ⟨_, -, h⟩ := bind_eq_ok.mp h
    cases h
    refine ⟨?_, hdate, ?_, rfl, htimes⟩
    · unfold assertVenue at hvenue
      split at hvenue
      · cases hvenue
      · rename_i htype
        cases hvenue
        exact htype
      · cases hvenue
    · unfold statusAfter
      cases body.status.join <;> rfl

theorem scheduledMeeting_new (h : scheduledMeeting s db actor body none = .ok row) : row.id = db.nextId := by
  unfold scheduledMeeting at h
  obtain ⟨venueType, -, h⟩ := bind_eq_ok.mp h
  split at h
  · cases h
  · obtain ⟨_, -, h⟩ := bind_eq_ok.mp h
    obtain ⟨_, -, h⟩ := bind_eq_ok.mp h
    obtain ⟨_, -, h⟩ := bind_eq_ok.mp h
    obtain ⟨_, -, h⟩ := bind_eq_ok.mp h
    cases h
    rfl

/-- A stored meeting that is edited. -/
structure Rescheduled (db : DutyDb) (body : ReservationBody) (existing row : DutyMeetingReservation) : Prop where
  mem : existing ∈ db.reservations
  id : row.id = existing.id
  /-- The meeting of an active coverage stays where it is. -/
  stays : HasActiveCoverage db existing.id → row.meetingDate = existing.meetingDate ∧
    row.venueType = existing.venueType ∧ row.period = existing.period ∧ row.isOpen = existing.isOpen
  /-- No meeting is opened again. -/
  reopened : row.isOpen = true → existing.isOpen = true
  venue : (body.venueType.join <|> some existing.venueType) = some row.venueType
  date : (body.meetingDate.join <|> some existing.meetingDate) = some row.meetingDate
  status : row.status = statusAfter body existing
  times : meetingTimes (body.startTime.getD existing.startText) (body.endTime.getD existing.endText) = .ok row.times

theorem assertEditable_eq_ok {admin : Bool} {u : Unit} (h : assertEditable s db admin body existing = .ok u)
    (hpurpose : ¬ (reservationRestrictions s db existing).purposeOnly = true) :
    (HasActiveCoverage db existing.id → changesSchedule body existing = false) ∧
      (existing.status = .cancelled → statusAfter body existing = .cancelled) := by
  unfold assertEditable at h
  obtain ⟨_, -, h⟩ := bind_eq_ok.mp h
  obtain ⟨_, -, h⟩ := bind_eq_ok.mp h
  obtain ⟨_, hactive, h⟩ := bind_eq_ok.mp h
  have hfalse := Bool.eq_false_iff.mpr hpurpose
  refine ⟨fun hcoverage => check_eq_ok.mp hactive hfalse (hasActiveDuty_of_coverage hcoverage), fun hcancelled => ?_⟩
  have hall := check_eq_ok.mp h hfalse hcancelled
  unfold statusAfter
  cases hstatus : body.status.join with
  | none => exact hcancelled
  | some status =>
    rw [hstatus] at hall
    exact of_decide_eq_true hall

theorem rescheduled_of_eq_ok {admin : Bool} {u : Unit} (hmem : existing ∈ db.reservations)
    (heditable : assertEditable s db admin body existing = .ok u)
    (hpurpose : ¬ (reservationRestrictions s db existing).purposeOnly = true)
    (h : scheduledMeeting s db actor body (some existing) = .ok row) : Rescheduled db body existing row := by
  obtain ⟨hkept, hcancelled⟩ := assertEditable_eq_ok heditable hpurpose
  obtain ⟨hvenue, hdate, hstatus, hid, htimes⟩ := scheduledMeeting_eq_ok h
  refine ⟨hmem, hid, fun hcoverage => ?_, fun hopen => ?_, hvenue, hdate, hstatus, htimes⟩
  · have hsame := hkept hcoverage
    unfold changesSchedule at hsame
    simp only [Bool.or_eq_false_iff] at hsame
    obtain ⟨⟨⟨⟨hsameVenue, hsameDate⟩, hsameStatus⟩, hsameStart⟩, hsameEnd⟩ := hsame
    rw [join_of_isChanged hsameVenue] at hvenue
    rw [join_of_isChanged hsameDate] at hdate
    rw [getD_of_isChanged hsameStart, getD_of_isChanged hsameEnd] at htimes
    refine ⟨(Option.some.inj hdate).symm, (Option.some.inj hvenue).symm, meetingTimes_stored htimes, ?_⟩
    have hjoin := join_of_isChanged hsameStatus
    have hafter : statusAfter body existing = existing.status := by
      unfold statusAfter
      cases hbody : body.status.join with
      | none => rfl
      | some status =>
        rw [hbody] at hjoin
        exact Option.some.inj hjoin
    unfold DutyMeetingReservation.isOpen
    rw [hstatus, hafter]
  · unfold DutyMeetingReservation.isOpen isOpenStatus at hopen ⊢
    rw [Bool.and_eq_true, decide_eq_true_eq, decide_eq_true_eq] at hopen ⊢
    refine ⟨fun hold => hopen.1 (hstatus.trans (hcancelled hold)), fun hold => hpurpose ?_⟩
    unfold reservationRestrictions
    simp [hold]

/-- What `saveReservation` may write. -/
theorem meetingWrite_eq_ok {id : Option Nat} {write : MeetingWrite} (h : meetingWrite s db actor body id = .ok write) :
    (∃ existing ∈ db.reservations, write = writesPurpose body existing) ∨
      (∃ row, write = .schedule none row ∧ row.id = db.nextId) ∨
      ∃ existing row, write = .schedule (some existing) row ∧ id = some existing.id ∧ Rescheduled db body existing row := by
  unfold meetingWrite at h
  obtain ⟨_, -, h⟩ := bind_eq_ok.mp h
  split at h
  · obtain ⟨row, hrow, rfl⟩ := map_eq_ok.mp h
    exact .inr (.inl ⟨row, rfl, scheduledMeeting_new hrow⟩)
  · rename_i id
    obtain ⟨existing, hfound, h⟩ := bind_eq_ok.mp h
    obtain ⟨_, heditable, h⟩ := bind_eq_ok.mp h
    obtain ⟨hmem, hid⟩ := reservation?_eq_some (orNotFound_eq_ok hfound)
    split_ifs at h with hpurpose
    · cases h
      exact .inl ⟨existing, hmem, rfl⟩
    · obtain ⟨row, hrow, rfl⟩ := map_eq_ok.mp h
      refine .inr (.inr ⟨existing, row, rfl, congrArg some hid.symm, ?_⟩)
      exact rescheduled_of_eq_ok hmem heditable hpurpose hrow

end ComplianceHub.Duty
