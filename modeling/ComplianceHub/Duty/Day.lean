import ComplianceHub.Duty.Turn

/-!
# The meetings and the coverages of one day

* `Place` : the meeting of a venue's coverage, in the slot of the coverage, kept and without relievers; a coverage that
  is completed has a meeting that is completed;
* `Day` : every coverage of the day has its place, and the meetings of one slot that are kept are one;
* `Day.turn` : a turn of a duty keeps that, and `Day.unplanned` : no turn of a venue meets a coverage that is completed;
* `Day.ends` : a coverage ends with its meeting.
-/

namespace ComplianceHub.Duty

open ComplianceHub.Lib

variable {s : Services} {db db' : DutyDb} {plan : CoveragePlan} {coverage saved row : DutyDailyCoverage} {day : Int}

/-- The meeting of a venue's coverage. -/
structure Placed (db : DutyDb) (coverage : DutyDailyCoverage) (meeting : DutyMeetingReservation) : Prop where
  named : coverage.reservationId = some meeting.id
  key : coverage.key = (meeting.meetingDate, meeting.venueType, meeting.period)
  kept : meeting.status ≠ .cancelled
  unrelieved : db.relieversOf meeting.id = []
  completed : coverage.status = .completed → meeting.status = .completed

def Place (db : DutyDb) (coverage : DutyDailyCoverage) : Prop := ∃ meeting ∈ db.reservations, Placed db coverage meeting

structure Day (day : Int) (db : DutyDb) : Prop where
  sane : Sane db
  venues : ∀ meeting ∈ db.reservations, meeting.venueType ≠ .OD
  slots : ∀ a ∈ db.reservations, ∀ b ∈ db.reservations, a.meetingDate = day → b.meetingDate = day →
    a.status ≠ .cancelled → b.status ≠ .cancelled → a.venueType = b.venueType → a.period = b.period → a = b
  placed : ∀ coverage ∈ db.coverages, coverage.dutyDate = day → coverage.dutyType ≠ .OD → Place db coverage

/-! ## Meetings that are completed -/

/-- A meeting is as it was, or was kept and is completed. -/
def Progresses (old new : DutyMeetingReservation) : Prop :=
  new = old ∨ old.status ≠ .cancelled ∧ new = { old with status := .completed }

/-- Some meetings are completed. -/
structure Progress (db db' : DutyDb) : Prop where
  forth : ∀ old ∈ db.reservations, ∃ new ∈ db'.reservations, Progresses old new
  back : ∀ new ∈ db'.reservations, ∃ old ∈ db.reservations, Progresses old new

theorem Progresses.same {old new : DutyMeetingReservation} (h : Progresses old new) : new.id = old.id ∧
    new.meetingDate = old.meetingDate ∧ new.venueType = old.venueType ∧ new.period = old.period := by
  rcases h with rfl | ⟨-, rfl⟩ <;> exact ⟨rfl, rfl, rfl, rfl⟩

theorem Progresses.status {old new : DutyMeetingReservation} (h : Progresses old new) :
    (new.status = .cancelled ↔ old.status = .cancelled) ∧ (old.status = .completed → new.status = .completed) := by
  rcases h with rfl | ⟨hkept, rfl⟩
  · exact ⟨Iff.rfl, fun h => h⟩
  · exact ⟨⟨fun h => DutyReservationStatus.noConfusion h, fun h => absurd h hkept⟩, fun _ => rfl⟩

theorem progress_of_eq (h : db'.reservations = db.reservations) : Progress db db' where
  forth old hold := ⟨old, by rwa [h], .inl rfl⟩
  back new hnew := ⟨new, by rwa [h] at hnew, .inl rfl⟩

/-- A stored meeting is completed. -/
theorem progress_completed (hdb : Keyed db) {meeting : DutyMeetingReservation} (hmem : meeting ∈ db.reservations)
    (hkept : meeting.status ≠ .cancelled) : Progress db (db.saveReservation { meeting with status := .completed }) where
  forth old hold := by
    by_cases hid : old.id = meeting.id
    · obtain rfl := hdb.eq_reservation hold hmem hid
      exact ⟨_, List.mem_map.mpr ⟨old, hold, if_pos rfl⟩, .inr ⟨hkept, rfl⟩⟩
    · exact ⟨old, List.mem_map.mpr ⟨old, hold, if_neg hid⟩, .inl rfl⟩
  back new hnew := by
    rcases mem_saveReservation hnew with ⟨rfl, -⟩ | ⟨hold, -⟩
    · exact ⟨meeting, hmem, .inr ⟨hkept, rfl⟩⟩
    · exact ⟨new, hold, .inl rfl⟩

theorem reservation?_of_mem (hdb : Keyed db) {meeting : DutyMeetingReservation} (hmem : meeting ∈ db.reservations) :
    db.reservation? meeting.id = some meeting := by
  cases hfound : db.reservation? meeting.id with
  | none =>
    have hnot := List.find?_eq_none.mp hfound meeting hmem
    rw [decide_eq_true_eq] at hnot
    exact absurd rfl hnot
  | some other =>
    obtain ⟨hother, hid⟩ := reservation?_eq_some hfound
    rw [hdb.eq_reservation hother hmem hid]

theorem progress_completeMeeting (hdb : Keyed db) (reservationId : Option Nat) :
    Progress db (completeMeeting reservationId db) := by
  unfold completeMeeting
  split
  · exact progress_of_eq rfl
  · rename_i meeting hfound
    obtain ⟨hfound, hkept⟩ := Option.filter_eq_some_iff.mp hfound
    obtain ⟨id, -, hstored⟩ := Option.bind_eq_some_iff.mp hfound
    exact progress_completed hdb (reservation?_eq_some hstored).1 (of_decide_eq_true hkept)

/-- The meeting of a coverage that ends is completed, unless it is cancelled. -/
theorem completed_of_completeMeeting (hdb : Keyed db) {reservationId : Nat} {meeting : DutyMeetingReservation}
    (hmem : meeting ∈ (completeMeeting (some reservationId) db).reservations) (hid : meeting.id = reservationId)
    (hkept : meeting.status ≠ .cancelled) : meeting.status = .completed := by
  obtain ⟨old, hold, hprogress⟩ := (progress_completeMeeting hdb (some reservationId)).back meeting hmem
  have hstored : db.reservation? reservationId = some old := by
    rw [← hid, hprogress.same.1]
    exact reservation?_of_mem hdb hold
  have holdKept : old.status ≠ .cancelled := fun h => hkept (hprogress.status.1.mpr h)
  have hfound : ((some reservationId).bind db.reservation?).filter (fun row => row.status ≠ .cancelled) = some old := by
    rw [Option.bind_some, hstored]
    exact Option.filter_eq_some_iff.mpr ⟨rfl, decide_eq_true holdKept⟩
  unfold completeMeeting at hmem
  rw [hfound] at hmem
  rcases mem_saveReservation hmem with ⟨rfl, -⟩ | ⟨-, hother⟩
  · rfl
  · exact absurd hprogress.same.1 hother

/-! ## The places of the coverages -/

theorem Place.next (h : Place db row) (hprogress : Progress db db') (hrelievers : db'.relievers = db.relievers)
    (hmeeting : saved.reservationId = row.reservationId) (hkey : saved.key = row.key)
    (hcompleted : saved.status = .completed → row.status = .completed ∨ ∀ meeting ∈ db'.reservations,
      row.reservationId = some meeting.id → meeting.status ≠ .cancelled → meeting.status = .completed) : Place db' saved := by
  obtain ⟨old, hold, hplaced⟩ := h
  obtain ⟨new, hnew, hprogresses⟩ := hprogress.forth old hold
  obtain ⟨hid, hdate, hvenue, hperiod⟩ := hprogresses.same
  have hkept : new.status ≠ .cancelled := fun h => hplaced.kept (hprogresses.status.1.mp h)
  have hnamed : row.reservationId = some new.id := by
    rw [hplaced.named, hid]
  refine ⟨new, hnew, hmeeting.trans hnamed, ?_, hkept, ?_, fun hsaved => ?_⟩
  · rw [hkey, hplaced.key, hdate, hvenue, hperiod]
  · unfold DutyDb.relieversOf
    rw [hrelievers, hid]
    exact hplaced.unrelieved
  · rcases hcompleted hsaved with hrow | hall
    · exact hprogresses.status.2 (hplaced.completed hrow)
    · exact hall new hnew hnamed hkept

/-- The meetings go on, and every coverage of the day has its place. -/
theorem Day.next (h : Day day db) (hsane : Sane db') (hprogress : Progress db db')
    (hplaced : ∀ row ∈ db'.coverages, row.dutyDate = day → row.dutyType ≠ .OD → Place db' row) : Day day db' where
  sane := hsane
  venues meeting hmem := by
    obtain ⟨old, hold, hprogresses⟩ := hprogress.back meeting hmem
    rw [hprogresses.same.2.2.1]
    exact h.venues old hold
  slots a ha b hb hadate hbdate hakept hbkept hvenue hperiod := by
    obtain ⟨a', ha', hpa⟩ := hprogress.back a ha
    obtain ⟨b', hb', hpb⟩ := hprogress.back b hb
    obtain ⟨haid, hadate', havenue, haperiod⟩ := hpa.same
    obtain ⟨hbid, hbdate', hbvenue, hbperiod⟩ := hpb.same
    have hsame : a' = b' := by
      refine h.slots a' ha' b' hb' (hadate'.symm.trans hadate) (hbdate'.symm.trans hbdate)
        (fun hc => hakept (hpa.status.1.mpr hc)) (fun hc => hbkept (hpb.status.1.mpr hc)) ?_ ?_
      · exact havenue.symm.trans (hvenue.trans hbvenue)
      · exact haperiod.symm.trans (hperiod.trans hbperiod)
    refine hsane.keyed.eq_reservation ha hb ?_
    rw [haid, hbid, hsame]
  placed := hplaced

theorem type_of_key (h : row.key = plan.key) : row.dutyType = plan.type := congrArg (fun key => key.2.1) h

/-- A row in the slot of a coverage of the day, which has its place. -/
theorem Day.placed_of_key (h : Day day db) (hmem : coverage ∈ db.coverages) (hkey : row.key = coverage.key)
    (hdate : row.dutyDate = day) (hvenue : row.dutyType ≠ .OD) : Place db coverage := by
  have hsameDate : row.dutyDate = coverage.dutyDate := congrArg Prod.fst hkey
  have hsameType : row.dutyType = coverage.dutyType := congrArg (fun key => key.2.1) hkey
  exact h.placed coverage hmem (hsameDate.symm.trans hdate) fun hod => hvenue (hsameType.trans hod)

/-- The same rows, and the meetings go on. -/
theorem Day.progress (h : Day day db) (hsane : Sane db') (hprogress : Progress db db')
    (hcoverages : db'.coverages = db.coverages) (hrelievers : db'.relievers = db.relievers) : Day day db' := by
  refine h.next hsane hprogress fun row hrow hdate hvenue => ?_
  rw [hcoverages] at hrow
  exact (h.placed row hrow hdate hvenue).next hprogress hrelievers rfl rfl .inl

/-! ## Turns -/

section
variable {date : Int} {type : DutyType} {requestedPeriod : Option DutyPeriod}

/-- The meetings of a venue's plan are open, in its slot. -/
theorem mem_planned (hplan : coveragePlan db date type requestedPeriod = some plan) {meeting : DutyMeetingReservation}
    (hmem : meeting ∈ plan.reservations) : meeting ∈ db.reservations ∧ meeting.isOpen = true ∧
      plan.key = (meeting.meetingDate, meeting.venueType, meeting.period) := by
  unfold coveragePlan at hplan
  dsimp only at hplan
  split_ifs at hplan
  · cases hplan
    cases hmem
  · split at hplan
    · cases hplan
    · split_ifs at hplan
      cases hplan
      obtain ⟨hday, hopen⟩ := List.mem_filter.mp hmem
      obtain ⟨hstored, hvenue⟩ := List.mem_filter.mp hday
      simp only [Bool.and_eq_true, decide_eq_true_eq] at hopen hvenue
      refine ⟨hstored, hopen.1, ?_⟩
      rw [CoveragePlan.key, hvenue.1, hvenue.2, hopen.2]

theorem planned_ne_nil (hplan : coveragePlan db date type requestedPeriod = some plan) (hvenue : type ≠ .OD) :
    ∃ meeting, plan.reservations.head? = some meeting := by
  unfold coveragePlan at hplan
  dsimp only at hplan
  rw [if_neg hvenue] at hplan
  split at hplan
  · cases hplan
  · split_ifs at hplan with hnone
    cases hplan
    exact Option.ne_none_iff_exists'.mp fun h => hnone (List.head?_eq_none_iff.mp h)

theorem status_of_isOpen {meeting : DutyMeetingReservation} (h : meeting.isOpen = true) :
    meeting.status ≠ .cancelled ∧ meeting.status ≠ .completed := by
  unfold DutyMeetingReservation.isOpen isOpenStatus at h
  simpa using h

/-- A row for the meeting of a plan has its place. -/
theorem place_planned (hplan : coveragePlan db date type requestedPeriod = some plan) (hvenue : type ≠ .OD)
    (hkey : row.key = plan.key) (hmeeting : IsPlanned db plan row.reservationId) (hstatus : row.status ≠ .completed) :
    Place db row := by
  obtain ⟨hunrelieved, hnamed⟩ := hmeeting
  obtain ⟨meeting, hhead⟩ := planned_ne_nil hplan hvenue
  have hplanned : meeting ∈ plan.reservations := List.mem_of_mem_head? hhead
  obtain ⟨hmem, hopen, hplanKey⟩ := mem_planned hplan hplanned
  refine ⟨meeting, hmem, ?_, hkey.trans hplanKey, (status_of_isOpen hopen).1, ?_, fun h => absurd h hstatus⟩
  · rw [hnamed, hhead]
    rfl
  · unfold hasRelievers at hunrelieved
    simpa using List.any_eq_false.mp hunrelieved meeting hplanned

/-- A turn of a duty keeps the places of the day. -/
theorem Day.turn (h : Day day db) (hplan : coveragePlan db date type requestedPeriod = some plan)
    (hturn : Turn db plan db'.coverages) (hsane : Sane db') (hbeside : Beside db db') : Day day db' := by
  have hprogress := progress_of_eq hbeside.reservations
  refine h.next hsane hprogress fun row hrow hdate hvenue => ?_
  rcases hturn.cases hrow with hold | ⟨hkey, hstatus, hmeeting⟩
  · exact (h.placed row hold hdate hvenue).next hprogress hbeside.relievers rfl rfl .inl
  · have hnot : row.status ≠ .completed := by
      rcases hstatus with hstatus | hstatus <;> rw [hstatus] <;> exact DutyCoverageStatus.noConfusion
    have htype : plan.type ≠ .OD := fun hod => hvenue ((type_of_key hkey).trans hod)
    rcases hmeeting with hplanned | ⟨old, hold, holdKey, hsame⟩
    · rw [(coveragePlan_eq_some hplan).2] at htype
      exact (place_planned hplan htype hkey hplanned hnot).next hprogress hbeside.relievers rfl rfl .inl
    · have hkeys := hkey.trans holdKey.symm
      have hplaced : Place db old := h.placed_of_key hold hkeys hdate hvenue
      exact hplaced.next hprogress hbeside.relievers hsame hkeys fun hcompleted => absurd hcompleted hnot

/-- No turn of a venue meets a coverage of the day that is completed. -/
theorem Day.unplanned (h : Day day db) (hplan : coveragePlan db date type requestedPeriod = some plan)
    (hrow : row ∈ db.coverages) (hdate : row.dutyDate = day) (hcompleted : row.status = .completed)
    (hvenue : row.dutyType ≠ .OD) : row.key ≠ plan.key := by
  intro hkey
  have htype : type ≠ .OD := fun hod => hvenue ((type_of_key hkey).trans ((coveragePlan_eq_some hplan).2.trans hod))
  obtain ⟨planned, hhead⟩ := planned_ne_nil hplan htype
  obtain ⟨hmem, hopen, hplanKey⟩ := mem_planned hplan (List.mem_of_mem_head? hhead)
  obtain ⟨meeting, hmeeting, hplaced⟩ := h.placed row hrow hdate hvenue
  have hkeys : (meeting.meetingDate, meeting.venueType, meeting.period) =
      (planned.meetingDate, planned.venueType, planned.period) := hplaced.key.symm.trans (hkey.trans hplanKey)
  simp only [Prod.mk.injEq] at hkeys
  have hday : meeting.meetingDate = day := (congrArg Prod.fst hplaced.key).symm.trans hdate
  have hsame := h.slots meeting hmeeting planned hmem hday (hkeys.1.symm.trans hday) hplaced.kept
    (status_of_isOpen hopen).1 hkeys.2.1 hkeys.2.2
  refine (status_of_isOpen hopen).2 ?_
  rw [← hsame]
  exact hplaced.completed hcompleted

end

/-! ## The end of a coverage -/

/-- A row is written over another of the same meeting, and is not completed by that. -/
theorem Day.saveCoverage (h : Day day db) (hmem : coverage ∈ db.coverages) (hsaved : Replaces saved coverage)
    (hmeeting : saved.reservationId = coverage.reservationId) (hstatus : saved.status ≠ .completed) :
    Day day (db.saveCoverage saved) := by
  have hprogress : Progress db (db.saveCoverage saved) := progress_of_eq rfl
  refine h.next (h.sane.saveCoverage hmem hsaved) hprogress fun row hrow hdate hvenue => ?_
  rcases mem_saveCoverage hrow with rfl | ⟨hrow, -⟩
  · have hplaced : Place db coverage := h.placed_of_key hmem hsaved.key hdate hvenue
    exact hplaced.next hprogress rfl hmeeting hsaved.key fun hcompleted => absurd hcompleted hstatus
  · exact (h.placed row hrow hdate hvenue).next hprogress rfl rfl rfl .inl

theorem completeMeeting_relievers (reservationId : Option Nat) (db : DutyDb) :
    (completeMeeting reservationId db).relievers = db.relievers := by
  unfold completeMeeting
  split <;> rfl

/-- A coverage ends with its meeting. -/
theorem Day.ends (h : Day day db) (hmem : coverage ∈ db.coverages) (hsaved : Replaces saved coverage)
    (hmeeting : saved.reservationId = coverage.reservationId) :
    Day day (completeMeeting coverage.reservationId (db.saveCoverage saved)) := by
  have hsane := h.sane.saveCoverage hmem hsaved
  have hprogress : Progress db (completeMeeting coverage.reservationId (db.saveCoverage saved)) := by
    obtain ⟨hforth, hback⟩ := progress_completeMeeting hsane.keyed coverage.reservationId
    exact ⟨hforth, hback⟩
  have hrelievers := completeMeeting_relievers coverage.reservationId (db.saveCoverage saved)
  refine h.next (hsane.completeMeeting _) hprogress fun row hrow hdate hvenue => ?_
  rw [completeMeeting_coverages] at hrow
  rcases mem_saveCoverage hrow with rfl | ⟨hrow, -⟩
  · have hplaced : Place db coverage := h.placed_of_key hmem hsaved.key hdate hvenue
    refine hplaced.next hprogress hrelievers hmeeting hsaved.key fun _ => .inr fun meeting hnew hnamed hkept => ?_
    rw [hnamed] at hnew
    exact completed_of_completeMeeting hsane.keyed hnew rfl hkept
  · exact (h.placed row hrow hdate hvenue).next hprogress hrelievers rfl rfl .inl

end ComplianceHub.Duty
