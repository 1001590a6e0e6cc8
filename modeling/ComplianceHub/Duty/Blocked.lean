import ComplianceHub.Duty.LiveMeeting

/-!
# Who is blocked from ticket assignment

* `blockedTechnicianIds` : whom the assignment of tickets passes over on a date;
* `OnDuty` : the technician of a coverage of OD or of an open meeting without relievers, or a reliever of an open meeting;
* `Counted` : a duty whose coverages count, told by the type alone; `counts_coverages_by_venue` : the list is that of the
  duties that count, so that it is right exactly where the type stands for the meeting;
* `hidden_behind_a_reliever` : the relievers of a morning hide the technician of the afternoon.
-/

namespace ComplianceHub.Duty

/-! ## The list -/

/-- The meetings of a date and their relievers. -/
structure MeetingRelievers where
  reservations : List DutyMeetingReservation
  relievers : List DutyMeetingReliever

def activeMeetingRelieversForDate (db : DutyDb) (date : Int) (includeCompleted : Bool) : MeetingRelievers :=
  let reservations := (db.reservations.filter fun row => row.meetingDate = date && row.status ≠ .cancelled).filter
    fun row => includeCompleted || row.status ≠ .completed
  { reservations
    relievers := db.relievers.filter fun row => (reservations.map DutyMeetingReservation.id).contains row.reservationId }

def blockedTechnicianIds (db : DutyDb) (date : Int) : List Nat :=
  let rows := db.reserving date
  let meetings := activeMeetingRelieversForDate db date false
  let scheduledDutyTypes := meetings.reservations.map DutyMeetingReservation.venueType
  let overriddenDutyTypes := meetings.relievers.filterMap fun reliever =>
    (meetings.reservations.find? fun row => decide (row.id = reliever.reservationId)).map DutyMeetingReservation.venueType
  let isDutyActive := fun type => type = .OD || scheduledDutyTypes.contains type
  let coverageUserIds := (rows.filter fun coverage =>
    isDutyActive coverage.dutyType && !overriddenDutyTypes.contains coverage.dutyType).filterMap fun coverage =>
      if coverage.status = .active then coverage.assignedUserId else some coverage.primaryUserId
  (coverageUserIds ++ meetings.relievers.map DutyMeetingReliever.userId).eraseDups

/-! ## Who is on duty -/

/-- The duty of a coverage takes place: OD, or its open meeting has no relievers. -/
def TakesPlace (db : DutyDb) (coverage : DutyDailyCoverage) : Prop :=
  coverage.dutyType = .OD ∨ ∃ reservation ∈ db.reservations, IsFor coverage reservation ∧ db.relieversOf reservation.id = []

/-- A reliever of an open meeting of a date. -/
def RelievesOn (db : DutyDb) (date : Int) (userId : Nat) : Prop :=
  ∃ reservation ∈ db.reservations, reservation.meetingDate = date ∧ reservation.isOpen = true ∧
    ∃ reliever ∈ db.relieversOf reservation.id, reliever.userId = userId

def OnDuty (db : DutyDb) (date : Int) (userId : Nat) : Prop :=
  (∃ coverage ∈ db.reserving date, TakesPlace db coverage ∧ coverageCandidateUserId coverage = some userId) ∨
    RelievesOn db date userId

/-- A duty whose coverages count: OD, or a venue with open meetings of which none has relievers. -/
def Counted (db : DutyDb) (date : Int) (type : DutyType) : Prop :=
  (type = .OD ∨ ∃ reservation ∈ db.reservations, reservation.meetingDate = date ∧ reservation.isOpen = true ∧
    reservation.venueType = type) ∧
  ∀ reservation ∈ db.reservations, reservation.meetingDate = date → reservation.isOpen = true →
    reservation.venueType = type → db.relieversOf reservation.id = []

/-- A coverage that counts has the technician. -/
def CountsFor (db : DutyDb) (date : Int) (userId : Nat) : Prop :=
  ∃ coverage ∈ db.reserving date, Counted db date coverage.dutyType ∧ coverageCandidateUserId coverage = some userId

/-- Where the type and the meeting of a coverage tell different things, its technician is listed or not because of
another duty. -/
structure ToldByOthers (db : DutyDb) (date : Int) : Prop where
  elsewhere : ∀ coverage ∈ db.reserving date, Counted db date coverage.dutyType → ¬ TakesPlace db coverage →
    ∀ userId, coverageCandidateUserId coverage = some userId → OnDuty db date userId
  hidden : ∀ coverage ∈ db.reserving date, TakesPlace db coverage → ¬ Counted db date coverage.dutyType →
    ∀ userId, coverageCandidateUserId coverage = some userId → CountsFor db date userId ∨ RelievesOn db date userId

variable {db : DutyDb} {date : Int} {userId : Nat}

theorem mem_relieversOf {id : Nat} {reliever : DutyMeetingReliever} :
    reliever ∈ db.relieversOf id ↔ reliever ∈ db.relievers ∧ reliever.reservationId = id := by
  unfold DutyDb.relieversOf
  rw [List.mem_filter, decide_eq_true_eq]

theorem mem_activeReservations {row : DutyMeetingReservation} :
    row ∈ (activeMeetingRelieversForDate db date false).reservations ↔
      row ∈ db.reservations ∧ row.meetingDate = date ∧ row.isOpen = true := by
  unfold activeMeetingRelieversForDate DutyMeetingReservation.isOpen isOpenStatus
  simp only [List.mem_filter, Bool.and_eq_true, decide_eq_true_eq, Bool.false_or, ne_eq, decide_not, Bool.not_eq_true',
    decide_eq_false_iff_not, and_assoc]

theorem mem_activeRelievers {reliever : DutyMeetingReliever} :
    reliever ∈ (activeMeetingRelieversForDate db date false).relievers ↔
      ∃ row ∈ db.reservations, row.meetingDate = date ∧ row.isOpen = true ∧ reliever ∈ db.relieversOf row.id := by
  have hsplit : reliever ∈ (activeMeetingRelieversForDate db date false).relievers ↔ reliever ∈ db.relievers ∧
      reliever.reservationId ∈
        (activeMeetingRelieversForDate db date false).reservations.map DutyMeetingReservation.id := by
    show reliever ∈ List.filter _ _ ↔ _
    rw [List.mem_filter, List.contains_iff_mem]
    rfl
  rw [hsplit, List.mem_map]
  constructor
  · rintro ⟨hmem, row, hrow, hid⟩
    obtain ⟨hrow, hdate, hopen⟩ := mem_activeReservations.mp hrow
    exact ⟨row, hrow, hdate, hopen, mem_relieversOf.mpr ⟨hmem, hid.symm⟩⟩
  · rintro ⟨row, hrow, hdate, hopen, hreliever⟩
    obtain ⟨hmem, hid⟩ := mem_relieversOf.mp hreliever
    exact ⟨hmem, row, mem_activeReservations.mpr ⟨hrow, hdate, hopen⟩, hid.symm⟩

theorem relievesOn_iff : RelievesOn db date userId ↔
    userId ∈ (activeMeetingRelieversForDate db date false).relievers.map DutyMeetingReliever.userId := by
  rw [List.mem_map]
  constructor
  · rintro ⟨row, hrow, hdate, hopen, reliever, hreliever, huser⟩
    exact ⟨reliever, mem_activeRelievers.mpr ⟨row, hrow, hdate, hopen, hreliever⟩, huser⟩
  · rintro ⟨reliever, hreliever, huser⟩
    obtain ⟨row, hrow, hdate, hopen, hreliever⟩ := mem_activeRelievers.mp hreliever
    exact ⟨row, hrow, hdate, hopen, reliever, hreliever, huser⟩

/-- The meeting that a reliever is found for. -/
theorem find_activeReservation (hids : (db.reservations.map DutyMeetingReservation.id).Nodup)
    {row : DutyMeetingReservation} (hrow : row ∈ (activeMeetingRelieversForDate db date false).reservations) :
    (activeMeetingRelieversForDate db date false).reservations.find? (fun other => decide (other.id = row.id)) =
      some row := by
  cases hfound : (activeMeetingRelieversForDate db date false).reservations.find?
      (fun other => decide (other.id = row.id)) with
  | none => exact absurd (decide_eq_true rfl) (List.find?_eq_none.mp hfound row hrow)
  | some other =>
    have hid := of_decide_eq_true
      (List.find?_some (p := fun other : DutyMeetingReservation => decide (other.id = row.id)) hfound)
    have hother := (mem_activeReservations.mp (List.mem_of_find?_eq_some hfound)).1
    rw [List.inj_on_of_nodup_map hids hother (mem_activeReservations.mp hrow).1 hid]

/-- The types of the meetings that have relievers. -/
theorem mem_overriddenDutyTypes (hids : (db.reservations.map DutyMeetingReservation.id).Nodup) {type : DutyType} :
    type ∈ ((activeMeetingRelieversForDate db date false).relievers.filterMap fun reliever =>
        ((activeMeetingRelieversForDate db date false).reservations.find? fun row =>
          decide (row.id = reliever.reservationId)).map DutyMeetingReservation.venueType) ↔
      ∃ row ∈ db.reservations, row.meetingDate = date ∧ row.isOpen = true ∧ row.venueType = type ∧
        db.relieversOf row.id ≠ [] := by
  rw [List.mem_filterMap]
  constructor
  · rintro ⟨reliever, hreliever, hvenue⟩
    obtain ⟨row, hrow, hdate, hopen, hof⟩ := mem_activeRelievers.mp hreliever
    rw [(mem_relieversOf.mp hof).2, find_activeReservation hids (mem_activeReservations.mpr ⟨hrow, hdate, hopen⟩)] at hvenue
    exact ⟨row, hrow, hdate, hopen, Option.some.inj hvenue, List.ne_nil_of_mem hof⟩
  · rintro ⟨row, hrow, hdate, hopen, hvenue, hsome⟩
    obtain ⟨reliever, hof⟩ := List.exists_mem_of_ne_nil _ hsome
    refine ⟨reliever, mem_activeRelievers.mpr ⟨row, hrow, hdate, hopen, hof⟩, ?_⟩
    rw [(mem_relieversOf.mp hof).2, find_activeReservation hids (mem_activeReservations.mpr ⟨hrow, hdate, hopen⟩)]
    exact congrArg some hvenue

/-- The list is that of the duties that count, and of the relievers. -/
theorem mem_blockedTechnicianIds (hids : (db.reservations.map DutyMeetingReservation.id).Nodup) :
    userId ∈ blockedTechnicianIds db date ↔ CountsFor db date userId ∨ RelievesOn db date userId := by
  have hcandidate : ∀ coverage ∈ db.reserving date,
      (if coverage.status = .active then coverage.assignedUserId else some coverage.primaryUserId) =
        coverageCandidateUserId coverage := by
    intro coverage hcoverage
    unfold coverageCandidateUserId
    rcases (mem_reserving.mp hcoverage).2.2 with hstatus | hstatus
    · rw [hstatus]
      rfl
    · rw [hstatus]
      rfl
  have hcounted : ∀ type : DutyType,
      ((decide (type = .OD) || ((activeMeetingRelieversForDate db date false).reservations.map
          DutyMeetingReservation.venueType).contains type) &&
        !((activeMeetingRelieversForDate db date false).relievers.filterMap fun reliever =>
          ((activeMeetingRelieversForDate db date false).reservations.find? fun row =>
            decide (row.id = reliever.reservationId)).map DutyMeetingReservation.venueType).contains type) = true ↔
        Counted db date type := by
    intro type
    rw [Bool.and_eq_true, Bool.or_eq_true, decide_eq_true_eq, List.contains_iff_mem, Bool.not_eq_true',
      ← Bool.not_eq_true, List.contains_iff_mem, mem_overriddenDutyTypes hids, List.mem_map]
    refine and_congr (or_congr Iff.rfl ?_) ?_
    · refine exists_congr fun row => ?_
      rw [mem_activeReservations]
      exact ⟨fun h => ⟨h.1.1, h.1.2.1, h.1.2.2, h.2⟩, fun h => ⟨⟨h.1, h.2.1, h.2.2.1⟩, h.2.2.2⟩⟩
    · constructor
      · intro h row hrow hdate hopen hvenue
        by_contra hsome
        exact h ⟨row, hrow, hdate, hopen, hvenue, hsome⟩
      · rintro h ⟨row, hrow, hdate, hopen, hvenue, hsome⟩
        exact hsome (h row hrow hdate hopen hvenue)
  unfold blockedTechnicianIds CountsFor
  rw [List.mem_eraseDups, List.mem_append, relievesOn_iff, List.mem_filterMap]
  refine or_congr (exists_congr fun coverage => ?_) Iff.rfl
  rw [List.mem_filter]
  constructor
  · rintro ⟨⟨hcoverage, hcount⟩, huser⟩
    exact ⟨hcoverage, (hcounted _).mp hcount, (hcandidate coverage hcoverage).symm.trans huser⟩
  · rintro ⟨hcoverage, hcount, huser⟩
    exact ⟨⟨hcoverage, (hcounted _).mpr hcount⟩, (hcandidate coverage hcoverage).trans huser⟩

/-- **Everyone on duty is blocked, and nobody else**, exactly where the type of a coverage tells the same as its meeting,
or another duty does. -/
theorem blocks_those_on_duty (hids : (db.reservations.map DutyMeetingReservation.id).Nodup) :
    (∀ userId, userId ∈ blockedTechnicianIds db date ↔ OnDuty db date userId) ↔ ToldByOthers db date := by
  constructor
  · intro hall
    refine ⟨fun coverage hmem hcounted _ userId huser => ?_, fun coverage hmem hplace _ userId huser => ?_⟩
    · exact (hall userId).mp ((mem_blockedTechnicianIds hids).mpr (.inl ⟨coverage, hmem, hcounted, huser⟩))
    · exact (mem_blockedTechnicianIds hids).mp ((hall userId).mpr (.inl ⟨coverage, hmem, hplace, huser⟩))
  · intro htold userId
    rw [mem_blockedTechnicianIds hids]
    constructor
    · rintro (⟨coverage, hmem, hcounted, huser⟩ | hrelieves)
      · by_cases hplace : TakesPlace db coverage
        · exact .inl ⟨coverage, hmem, hplace, huser⟩
        · exact htold.elsewhere coverage hmem hcounted hplace userId huser
      · exact .inr hrelieves
    · rintro (⟨coverage, hmem, hplace, huser⟩ | hrelieves)
      · by_cases hcounted : Counted db date coverage.dutyType
        · exact .inl ⟨coverage, hmem, hcounted, huser⟩
        · exact htold.hidden coverage hmem hplace hcounted userId huser
      · exact .inr hrelieves

/-! ## A morning and an afternoon -/

instance (coverage : DutyDailyCoverage) : Decidable (TakesPlace db coverage) := by
  unfold TakesPlace
  infer_instance

instance : DecidablePred (RelievesOn db date) := fun userId => by
  unfold RelievesOn
  infer_instance

instance : DecidablePred (OnDuty db date) := fun userId => by
  unfold OnDuty
  infer_instance

instance : DecidablePred (Counted db date) := fun type => by
  unfold Counted
  infer_instance

/-- A meeting of the morning and one of the afternoon, with a reliever and a technician. -/
def twoMeetings (relieved : Nat) : DutyDb where
  reservations := [morningMeeting, afternoonMeeting]
  relievers := [{ reservationId := relieved, userId := 2, reason := "Requested", createdById := 9 }]
  coverages := [{ pendingCoverage 2 { date := 0, type := .ROC, period := .PM } 1 with reservationId := some 1 }]

theorem blocks_those_on_duty_without_relievers : blockedTechnicianIds { twoMeetings 0 with relievers := [] } 0 = [1] ∧
    ∀ userId, userId ∈ blockedTechnicianIds { twoMeetings 0 with relievers := [] } 0 ↔
      OnDuty { twoMeetings 0 with relievers := [] } 0 userId := by
  have htold : ∀ coverage ∈ ({ twoMeetings 0 with relievers := [] } : DutyDb).reserving 0,
      Counted { twoMeetings 0 with relievers := [] } 0 coverage.dutyType ∧
        TakesPlace { twoMeetings 0 with relievers := [] } coverage := by
    decide +kernel
  refine ⟨by decide +kernel, (blocks_those_on_duty (by decide +kernel)).mpr ⟨?_, ?_⟩⟩
  · exact fun coverage hmem _ hplace => absurd (htold coverage hmem).2 hplace
  · exact fun coverage hmem _ hcounted => absurd (htold coverage hmem).1 hcounted

/-- The reliever of the morning hides the technician of the afternoon. -/
theorem hidden_behind_a_reliever : ¬ ∀ (db : DutyDb) (date : Int) (userId : Nat),
    userId ∈ blockedTechnicianIds db date ↔ OnDuty db date userId := by
  intro hall
  have honDuty : OnDuty (twoMeetings 0) 0 1 ∧ 1 ∉ blockedTechnicianIds (twoMeetings 0) 0 := by
    decide +kernel
  exact honDuty.2 ((hall _ _ _).mpr honDuty.1)

end ComplianceHub.Duty
