import ComplianceHub.Duty.Steps

/-!
# One duty at a time

* `Alone` : no technician is assigned to two active coverages at once; `Unrelieved` : none is assigned to an active
  coverage and an immediate reliever of a meeting of another venue at once;
* `Meets` : an activation does not take a reliever, and an edit does not move a meeting onto a duty of its relievers;
* `one_duty_at_a_time` : technicians are alone after every run, and unrelieved after every run that meets the condition;
* `reliever_activated` : an activation takes a reliever.
-/

namespace ComplianceHub.Duty

open ComplianceHub.Lib

/-- A technician is an immediate reliever of a meeting. -/
def Relieves (db : DutyDb) (userId : Nat) (reservation : DutyMeetingReservation) : Prop :=
  ∃ reliever ∈ db.relievers, reliever.reservationId = reservation.id ∧ reliever.userId = userId

/-- A meeting is of another venue than a coverage, at the same time. -/
structure Collides (coverage : DutyDailyCoverage) (date : Int) (venueType : DutyType) (period : DutyPeriod) : Prop where
  date : date = coverage.dutyDate
  venue : venueType ≠ coverage.dutyType
  period : periodsOverlap coverage.dutyPeriod period = true

/-- A technician is an immediate reliever of an open meeting of another venue, in the period of a coverage. -/
def RelievesBeside (db : DutyDb) (userId : Nat) (coverage : DutyDailyCoverage) : Prop :=
  ∃ reservation ∈ db.reservations, reservation.isOpen = true ∧
    Collides coverage reservation.meetingDate reservation.venueType reservation.period ∧ Relieves db userId reservation

def Alone (db : DutyDb) : Prop :=
  ∀ a ∈ db.coverages, ∀ b ∈ db.coverages, a.status = .active → b.status = .active → a.dutyDate = b.dutyDate →
    periodsOverlap a.dutyPeriod b.dutyPeriod = true → ∀ userId, a.assignedUserId = some userId →
    b.assignedUserId = some userId → a = b

def Unrelieved (db : DutyDb) : Prop :=
  ∀ coverage ∈ db.coverages, coverage.status = .active → ∀ userId, coverage.assignedUserId = some userId →
    ¬ RelievesBeside db userId coverage

/-- An edit leaves a meeting open, on its day and at its venue, and gives it these times. -/
structure Shifts (body : ReservationBody) (existing : DutyMeetingReservation) (times : MeetingTimes) : Prop where
  date : (body.meetingDate.join <|> some existing.meetingDate) = some existing.meetingDate
  venue : (body.venueType.join <|> some existing.venueType) = some existing.venueType
  status : isOpenStatus (statusAfter body existing) = true
  times : meetingTimes (body.startTime.getD existing.startText) (body.endTime.getD existing.endText) = .ok times

/-- An activation does not take an immediate reliever of a meeting at the same time, and an edit that passes the checks
does not bring a meeting to the time of a duty of its relievers. -/
def Meets (db : DutyDb) : Event → Prop
  | .operation s (.activateCoverage actor id userId) => ∀ coverage attendance,
      activatable s db actor id userId = .ok (coverage, attendance) → ¬ RelievesBeside db userId coverage
  | .operation s (.saveReservation actor body id) => (∃ write, meetingWrite s db actor body id = .ok write) →
      ∀ existing ∈ db.reservations, id = some existing.id → existing.isOpen = true → ∀ times, Shifts body existing times →
      ∀ coverage ∈ db.coverages, coverage.status = .active →
      Collides coverage existing.meetingDate existing.venueType times.period →
      ∀ userId, coverage.assignedUserId = some userId → ¬ Relieves db userId existing
  | _ => True

/-! ## Fewer duties -/

variable {s : Services} {db db' : DutyDb} {op : Operation} {coverage : DutyDailyCoverage}

/-- No coverage becomes active, no meeting is opened or moved, and no reliever is added. -/
structure Fewer (db db' : DutyDb) : Prop where
  active : ∀ coverage ∈ db'.coverages, coverage.status = .active → coverage ∈ db.coverages
  meetings : ∀ reservation ∈ db'.reservations, reservation.isOpen = true → ∃ old ∈ db.reservations, old.isOpen = true ∧
    old.id = reservation.id ∧ old.meetingDate = reservation.meetingDate ∧ old.venueType = reservation.venueType ∧
    old.period = reservation.period
  relievers : ∀ reliever ∈ db'.relievers, reliever ∈ db.relievers

theorem Alone.of_active (h : Alone db) (hactive : ∀ row ∈ db'.coverages, row.status = .active → row ∈ db.coverages) :
    Alone db' :=
  fun a ha b hb hastatus hbstatus => h a (hactive a ha hastatus) b (hactive b hb hbstatus) hastatus hbstatus

theorem Relieves.mono {userId : Nat} {reservation old : DutyMeetingReservation} (h : Relieves db' userId reservation)
    (hrelievers : ∀ reliever ∈ db'.relievers, reliever ∈ db.relievers) (hid : old.id = reservation.id) :
    Relieves db userId old := by
  obtain ⟨reliever, hmem, hfor, huser⟩ := h
  exact ⟨reliever, hrelievers reliever hmem, hfor.trans hid.symm, huser⟩

theorem Unrelieved.fewer (h : Unrelieved db) (hfewer : Fewer db db') : Unrelieved db' := by
  rintro coverage hmem hactive userId huser ⟨reservation, hreservation, hopen, hcollides, hrelieves⟩
  obtain ⟨old, hold, holdOpen, hid, hdate, hvenue, hperiod⟩ := hfewer.meetings reservation hreservation hopen
  refine h coverage (hfewer.active coverage hmem hactive) hactive userId huser ⟨old, hold, holdOpen, ?_, ?_⟩
  · rw [hdate, hvenue, hperiod]
    exact hcollides
  · exact hrelieves.mono hfewer.relievers hid

theorem Beside.fewer (h : Beside db db') : Fewer db db' where
  active := h.active
  meetings reservation hmem hopen := by
    rw [h.reservations] at hmem
    exact ⟨reservation, hmem, hopen, rfl, rfl, rfl, rfl⟩
  relievers reliever hmem := by rwa [h.relievers] at hmem

/-- A meeting is written, in its place, or ended. -/
theorem fewer_saveReservation {row : DutyMeetingReservation} (h : row.isOpen = true → ∃ old ∈ db.reservations,
    old.isOpen = true ∧ old.id = row.id ∧ old.meetingDate = row.meetingDate ∧ old.venueType = row.venueType ∧
    old.period = row.period) : Fewer db (db.saveReservation row) where
  active _ hmem _ := hmem
  meetings reservation hmem hopen := by
    rcases mem_saveReservation hmem with ⟨rfl, -⟩ | ⟨hmem, -⟩
    · exact h hopen
    · exact ⟨reservation, hmem, hopen, rfl, rfl, rfl, rfl⟩
  relievers _ hmem := hmem

theorem isOpen_completed (reservation : DutyMeetingReservation) :
    ({ reservation with status := .completed } : DutyMeetingReservation).isOpen = false := rfl

theorem fewer_completed (reservation : DutyMeetingReservation) (db : DutyDb) :
    Fewer db (db.saveReservation { reservation with status := .completed }) := by
  apply fewer_saveReservation
  intro hopen
  rw [isOpen_completed] at hopen
  cases hopen

theorem fewer_completeMeeting (reservationId : Option Nat) (db : DutyDb) : Fewer db (completeMeeting reservationId db) := by
  unfold completeMeeting
  split
  · exact (Beside.refl db).fewer
  · exact fewer_completed _ db

theorem fewer_deleteRelievers (id : Nat) (db : DutyDb) : Fewer db (db.deleteRelievers id) where
  active _ hmem _ := hmem
  meetings reservation hmem hopen := ⟨reservation, hmem, hopen, rfl, rfl, rfl, rfl⟩
  relievers _ hmem := (List.mem_filter.mp hmem).1

theorem fewer_deleteMeeting (id : Option Nat) (db : DutyDb) : Fewer db (deleteMeeting id db) := by
  unfold deleteMeeting
  split
  · exact (Beside.refl db).fewer
  · refine ⟨fun _ hmem _ => hmem, fun reservation hmem hopen => ?_, fun _ hmem => (List.mem_filter.mp hmem).1⟩
    exact ⟨reservation, (List.mem_filter.mp hmem).1, hopen, rfl, rfl, rfl, rfl⟩

theorem fewer_corrected {actor : Actor} {body : ReservationBody} {id : Option Nat} {row : DutyMeetingReservation}
    (h : meetingWrite s db actor body id = .ok (.purpose row)) : Fewer db (db.saveReservation row) := by
  apply fewer_saveReservation
  intro hopen
  rcases meetingWrite_eq_ok h with ⟨existing, hmem, hwrite⟩ | ⟨_, hwrite, -⟩ | ⟨_, _, hwrite, -, -⟩
  · cases hwrite
    exact ⟨existing, hmem, hopen, rfl, rfl, rfl, rfl⟩
  · cases hwrite
  · cases hwrite

/-! ## An activation -/

theorem periodsOverlap_comm (a b : DutyPeriod) : periodsOverlap a b = periodsOverlap b a := by
  cases a <;> cases b <;> rfl

/-- A row that becomes active is alone, if no other active row of its technician is at its time. -/
theorem Alone.saveCoverage (h : Alone db) (halone : ∀ row ∈ db.coverages, row.id ≠ coverage.id → row.status = .active →
    row.dutyDate = coverage.dutyDate → periodsOverlap row.dutyPeriod coverage.dutyPeriod = true →
    ∀ userId, coverage.assignedUserId = some userId → row.assignedUserId ≠ some userId) : Alone (db.saveCoverage coverage) := by
  intro a ha b hb hastatus hbstatus hdate hperiod userId hauser hbuser
  rcases mem_saveCoverage ha with haeq | ⟨ha', haid⟩
  · rcases mem_saveCoverage hb with hbeq | ⟨hb', hbid⟩
    · rw [haeq, hbeq]
    · rw [haeq] at hdate hauser hperiod
      rw [periodsOverlap_comm] at hperiod
      exact absurd hbuser (halone b hb' hbid hbstatus hdate.symm hperiod userId hauser)
  · rcases mem_saveCoverage hb with hbeq | ⟨hb', -⟩
    · rw [hbeq] at hdate hbuser hperiod
      exact absurd hauser (halone a ha' haid hastatus hdate hperiod userId hbuser)
    · exact h a ha' b hb' hastatus hbstatus hdate hperiod userId hauser hbuser

theorem Alone.activated (h : Alone db) {id userId : Nat} {attendance : TechAttendance}
    (hread : Activatable db id userId coverage attendance) :
    Alone ((db.saveAttendance userId coverage.dutyDate (onDuty coverage.dutyType)).saveCoverage
      (activated coverage userId attendance)) := by
  refine Alone.saveCoverage (h : Alone (db.saveAttendance userId coverage.dutyDate (onDuty coverage.dutyType))) ?_
  intro row hrow hid hactive hdate hperiod user huser hrowUser
  cases huser
  have hfree := hread.alone row hrow hdate hactive hrowUser hid
  exact Bool.noConfusion (hfree.symm.trans hperiod)

theorem attendDuty_eq (coverage : DutyDailyCoverage) (db : DutyDb) :
    ∃ attendance, attendDuty coverage db = { db with attendance } := by
  unfold attendDuty
  split <;> exact ⟨_, rfl⟩

/-- An OD that is put back was active before, beside the same duties or fewer. -/
theorem Alone.reinstate (h : Alone db) (hmem : coverage ∈ db.coverages) (hactive : coverage.status = .active)
    (hbeside : Beside db db') : Alone (reinstate coverage db') := by
  obtain ⟨attendance, hattended⟩ := attendDuty_eq coverage db'
  unfold Duty.reinstate
  rw [hattended]
  refine Alone.saveCoverage (h.of_active hbeside.active : Alone { db' with attendance }) ?_
  intro row hrow hid hrowActive hdate hperiod userId huser hrowUser
  have hrow' := hbeside.active row hrow hrowActive
  have hsame : row = coverage := h row hrow' coverage hmem hrowActive hactive hdate hperiod userId hrowUser huser
  have hsameId : row.id = coverage.id := congrArg DutyDailyCoverage.id hsame
  exact hid hsameId

/-- The end of a coverage that is stored. -/
theorem fewer_finalizeCoverage (hdb : Sane db) (hmem : coverage ∈ db.coverages) :
    ∃ db', Fewer db db' ∧ Fewer db' (finalizeCoverage db coverage) := by
  rcases finalizeCoverage_cases hmem with hwrites | ⟨db', hwrites, -, heq⟩
  · exact ⟨db, (Beside.refl db).fewer, (hdb.writes hwrites).2.fewer⟩
  · refine ⟨db', (hdb.writes hwrites).2.fewer, ?_⟩
    rw [heq]
    exact fewer_completeMeeting _ db'

theorem Alone.change (hdb : Sane db) (h : Alone db) (hchange : Change s db op db') : Alone db' := by
  cases hchange with
  | beside => exact h
  | activates hread => exact h.activated (activatable_eq_ok hread)
  | @releases _ _ coverage hread _ =>
    refine (h.of_active (hdb.writes (writes_releases hread)).2.active).of_active ?_
    exact (fewer_completeMeeting coverage.reservationId _).active
  | reinstates hread _ hwrites =>
    obtain ⟨hmem, -, hactive⟩ := releasable_eq_ok hread
    exact h.reinstate hmem hactive (hdb.writes hwrites).2
  | completes hread =>
    refine h.of_active fun row hrow hactive => ?_
    exact (hdb.writes (writes_recordRelievers _ _ _ _ db)).2.active row hrow hactive
  | corrects _ => exact h
  | @schedules _ _ _ existing row _ =>
    refine h.of_active fun coverage hmem _ => ?_
    unfold putMeeting at hmem
    split at hmem
    · exact hmem
    · split_ifs at hmem <;> exact hmem
  | deletes _ => exact h.of_active (fewer_deleteMeeting _ db).active
  | relieves _ => exact h
  | clears _ => exact h
  | finalizes hwrites =>
    obtain ⟨hsane, hbeside⟩ := hdb.writes hwrites
    refine (keeps_finalizeCoverages (I := fun db => Sane db ∧ Alone db) (fun db coverage h hmem _ => ?_) hsane.keyed
      ⟨hsane, h.of_active hbeside.active⟩).2
    obtain ⟨db', hfirst, hlast⟩ := fewer_finalizeCoverage h.1 hmem
    exact ⟨h.1.finalizeCoverage hmem, (h.2.of_active hfirst.active).of_active hlast.active⟩

theorem Alone.step {e : Event} (hdb : Sane db) (h : Alone db) (hstep : DutyStep db e db') : Alone db' := by
  cases hstep with
  | attendance _ => exact h
  | operation s op =>
    obtain ⟨db', hchange, hwrites⟩ := op.reaches s db
    exact (h.change hdb hchange).of_active ((hdb.change hchange).writes hwrites).2.active

theorem alone_of_run {history : List (Transition DutyDb Event)} (h : Run duties history db) : Sane db ∧ Alone db := by
  refine Run.always (P := fun _ => True) (I := fun db => Sane db ∧ Alone db) ?_
    (fun a e b h hstep _ => ⟨h.1.step hstep, h.2.step h.1 hstep⟩) h fun _ _ => trivial
  rintro db ⟨hsane, hnone⟩
  refine ⟨hsane, fun a ha => ?_⟩
  rw [hnone] at ha
  cases ha

/-! ## Relievers -/

theorem Unrelieved.activated (h : Unrelieved db) {userId : Nat} {attendance : TechAttendance}
    (hfree : ¬ RelievesBeside db userId coverage) :
    Unrelieved ((db.saveAttendance userId coverage.dutyDate (onDuty coverage.dutyType)).saveCoverage
      (activated coverage userId attendance)) := by
  intro row hrow hactive user huser hrelieves
  rcases mem_saveCoverage hrow with rfl | ⟨hrow, -⟩
  · cases huser
    obtain ⟨reservation, hmem, hopen, ⟨hdate, hvenue, hperiod⟩, hrelieves⟩ := hrelieves
    exact hfree ⟨reservation, hmem, hopen, ⟨hdate, hvenue, hperiod⟩, hrelieves⟩
  · exact h row hrow hactive user huser hrelieves

theorem Unrelieved.reinstate (h : Unrelieved db) (hmem : coverage ∈ db.coverages) (hactive : coverage.status = .active)
    (hbeside : Beside db db') : Unrelieved (reinstate coverage db') := by
  obtain ⟨attendance, hattended⟩ := attendDuty_eq coverage db'
  have hfewer := h.fewer hbeside.fewer
  unfold Duty.reinstate
  rw [hattended]
  intro row hrow hrowActive user huser hrelieves
  rcases mem_saveCoverage hrow with rfl | ⟨hrow, -⟩
  · obtain ⟨reservation, hreservation, hopen, ⟨hdate, hvenue, hperiod⟩, hrelieves⟩ := hrelieves
    refine h coverage hmem hactive user huser ⟨reservation, ?_, hopen, ⟨hdate, hvenue, hperiod⟩, ?_⟩
    · rwa [← hbeside.reservations]
    · exact hrelieves.mono (fun reliever hreliever => by rwa [← hbeside.relievers]) rfl
  · exact hfewer row hrow hrowActive user huser hrelieves

/-- The relievers of one meeting change. -/
theorem Unrelieved.putRelievers (hdb : Sane db) (h : Unrelieved db) {reservation : DutyMeetingReservation}
    {userIds : List Nat} (hmem : reservation ∈ db.reservations)
    (hfree : ∀ row ∈ db.coverages, row.dutyDate = reservation.meetingDate → row.status = .active →
      row.dutyType ≠ reservation.venueType → periodsOverlap row.dutyPeriod reservation.period = true →
      ∀ userId ∈ userIds, row.assignedUserId ≠ some userId) (reason : String) (createdById : Nat) :
    Unrelieved (putRelievers reservation.id userIds reason createdById db) := by
  rintro coverage hcoverage hactive userId huser ⟨other, hother, hopen, hcollides, reliever, hreliever, hfor, hrelieverUser⟩
  rcases List.mem_append.mp hreliever with hreliever | hreliever
  · have hold : reliever ∈ db.relievers := (List.mem_filter.mp hreliever).1
    exact h coverage hcoverage hactive userId huser ⟨other, hother, hopen, hcollides, reliever, hold, hfor, hrelieverUser⟩
  · obtain ⟨selected, hselected, rfl⟩ := List.mem_map.mp hreliever
    obtain rfl := hdb.keyed.eq_reservation hmem hother hfor
    cases hrelieverUser
    exact hfree coverage hcoverage hcollides.date.symm hactive hcollides.venue.symm hcollides.period selected hselected huser

/-- A new meeting has no relievers. -/
theorem not_relieves_new (hdb : Sane db) {row : DutyMeetingReservation} (hid : row.id = db.nextId) (userId : Nat) :
    ¬ Relieves db userId row := by
  rintro ⟨reliever, hmem, hfor, -⟩
  have hlt := hdb.keyed.relieverBelow reliever hmem
  rw [hfor, hid] at hlt
  exact Nat.lt_irrefl _ hlt

theorem Unrelieved.newMeeting (hdb : Sane db) (h : Unrelieved db) {row : DutyMeetingReservation}
    (hid : row.id = db.nextId) : Unrelieved (putMeeting none row db) := by
  rintro coverage hmem hactive userId huser ⟨other, hother, hopen, hcollides, hrelieves⟩
  rcases List.mem_append.mp hother with hother | hother
  · exact h coverage hmem hactive userId huser ⟨other, hother, hopen, hcollides, hrelieves⟩
  · obtain rfl := List.mem_singleton.mp hother
    exact not_relieves_new hdb hid userId hrelieves

/-- An edited meeting is moved without its relievers, or stays clear of their duties. -/
theorem Unrelieved.editMeeting (h : Unrelieved db) {existing row : DutyMeetingReservation}
    (hid : row.id = existing.id)
    (hclear : row.isOpen = true → row.meetingDate = existing.meetingDate → row.venueType = existing.venueType →
      ∀ coverage ∈ db.coverages, coverage.status = .active → Collides coverage row.meetingDate row.venueType row.period →
      ∀ userId, coverage.assignedUserId = some userId → ¬ Relieves db userId existing) :
    Unrelieved (putMeeting (some existing) row db) := by
  have hother : ∀ coverage ∈ db.coverages, coverage.status = .active → ∀ userId, coverage.assignedUserId = some userId →
      ∀ other ∈ db.reservations, other.isOpen = true →
      Collides coverage other.meetingDate other.venueType other.period → ¬ Relieves db userId other :=
    fun coverage hmem hactive userId huser other hother hopen hcollides hrelieves =>
      h coverage hmem hactive userId huser ⟨other, hother, hopen, hcollides, hrelieves⟩
  unfold putMeeting
  dsimp only
  split_ifs with hstays
  · rintro coverage hmem hactive userId huser ⟨other, hmeeting, hopen, hcollides, hrelieves⟩
    rcases mem_saveReservation hmeeting with ⟨rfl, -⟩ | ⟨hmeeting, -⟩
    · refine hclear hopen hstays.1.symm hstays.2.symm coverage hmem hactive hcollides userId huser ?_
      exact hrelieves.mono (fun _ hreliever => hreliever) hid.symm
    · exact hother coverage hmem hactive userId huser other hmeeting hopen hcollides hrelieves
  · rintro coverage hmem hactive userId huser ⟨other, hmeeting, hopen, hcollides, hrelieves⟩
    rcases mem_saveReservation hmeeting with ⟨rfl, -⟩ | ⟨hmeeting, -⟩
    · obtain ⟨reliever, hreliever, hfor, -⟩ := hrelieves
      exact absurd hfor (of_decide_eq_true (List.mem_filter.mp hreliever).2)
    · refine hother coverage hmem hactive userId huser other hmeeting hopen hcollides ?_
      exact hrelieves.mono (fun _ hreliever => (List.mem_filter.mp hreliever).1) rfl

/-- What is saved is clear, if the edit meets the condition. -/
theorem Unrelieved.schedules (hdb : Sane db) (h : Unrelieved db) {actor : Actor} {body : ReservationBody} {id : Option Nat}
    {existing : Option DutyMeetingReservation} {row : DutyMeetingReservation}
    (hread : meetingWrite s db actor body id = .ok (.schedule existing row))
    (hmeets : Meets db (.operation s (.saveReservation actor body id))) : Unrelieved (putMeeting existing row db) := by
  rcases meetingWrite_eq_ok hread with ⟨_, -, hwrite⟩ | ⟨_, hwrite, hid⟩ | ⟨old, _, hwrite, hold, hrow⟩
  · cases hwrite
  · cases hwrite
    exact h.newMeeting hdb hid
  · cases hwrite
    refine h.editMeeting hrow.id fun hopen hdate hvenue => ?_
    have hshifts : Shifts body old row.times := by
      refine ⟨?_, ?_, ?_, hrow.times⟩
      · exact hrow.date.trans (congrArg some hdate)
      · exact hrow.venue.trans (congrArg some hvenue)
      · rw [← hrow.status]
        exact hopen
    have hclear := hmeets ⟨_, hread⟩ old hrow.mem hold (hrow.reopened hopen) row.times hshifts
    rw [hdate, hvenue]
    exact hclear

theorem Unrelieved.change (hdb : Sane db) (h : Unrelieved db) (hchange : Change s db op db')
    (hmeets : Meets db (.operation s op)) : Unrelieved db' := by
  cases hchange with
  | beside => exact h
  | activates hread => exact h.activated (hmeets _ _ hread)
  | @releases _ _ coverage hread _ =>
    have hended := h.fewer (hdb.writes (writes_releases hread)).2.fewer
    exact hended.fewer (fewer_completeMeeting coverage.reservationId _)
  | reinstates hread _ hwrites =>
    obtain ⟨hmem, -, hactive⟩ := releasable_eq_ok hread
    exact h.reinstate hmem hactive (hdb.writes hwrites).2
  | completes hread =>
    exact (h.fewer (hdb.writes (writes_recordRelievers _ _ _ _ db)).2.fewer).fewer (fewer_completed _ _)
  | corrects hread => exact h.fewer (fewer_corrected hread)
  | schedules hread => exact h.schedules hdb hread hmeets
  | deletes _ => exact h.fewer (fewer_deleteMeeting _ db)
  | relieves hread =>
    obtain ⟨⟨hmem, -⟩, hfree⟩ := relievable_eq_ok hread
    exact h.putRelievers hdb hmem hfree _ _
  | clears id => exact h.fewer (fewer_deleteRelievers id db)
  | finalizes hwrites =>
    obtain ⟨hsane, hbeside⟩ := hdb.writes hwrites
    refine (keeps_finalizeCoverages (I := fun db => Sane db ∧ Unrelieved db) (fun db coverage h hmem _ => ?_) hsane.keyed
      ⟨hsane, h.fewer hbeside.fewer⟩).2
    obtain ⟨db', hfirst, hlast⟩ := fewer_finalizeCoverage h.1 hmem
    exact ⟨h.1.finalizeCoverage hmem, (h.2.fewer hfirst).fewer hlast⟩

theorem Unrelieved.step {e : Event} (hdb : Sane db) (h : Unrelieved db) (hstep : DutyStep db e db') (hmeets : Meets db e) :
    Unrelieved db' := by
  cases hstep with
  | attendance _ => exact h
  | operation s op =>
    obtain ⟨db', hchange, hwrites⟩ := op.reaches s db
    exact (h.change hdb hchange hmeets).fewer ((hdb.change hchange).writes hwrites).2.fewer

/-- **No one is on two duties at once.** Of the active coverages that holds after every run; of the immediate relievers,
after every run whose activations and edits meet the condition. -/
theorem one_duty_at_a_time {history : List (Transition DutyDb Event)} (h : Run duties history db) :
    Alone db ∧ ((∀ e ∈ history, Meets e.before e.label) → Unrelieved db) := by
  refine ⟨(alone_of_run h).2, fun hmeets => ?_⟩
  refine (Run.always (I := fun db => Sane db ∧ Unrelieved db) ?_
    (fun a e b h hstep hmeets => ⟨h.1.step hstep, h.2.step h.1 hstep hmeets⟩) h hmeets).2
  rintro db ⟨hsane, hnone⟩
  refine ⟨hsane, fun a ha => ?_⟩
  rw [hnone] at ha
  cases ha

/-! ## A reliever on another duty -/

instance (userId : Nat) (reservation : DutyMeetingReservation) : Decidable (Relieves db userId reservation) := by
  unfold Relieves
  infer_instance

instance (date : Int) (venueType : DutyType) (period : DutyPeriod) :
    Decidable (Collides coverage date venueType period) :=
  decidable_of_iff (date = coverage.dutyDate ∧ venueType ≠ coverage.dutyType ∧
      periodsOverlap coverage.dutyPeriod period = true)
    ⟨fun h => ⟨h.1, h.2.1, h.2.2⟩, fun h => ⟨h.date, h.venue, h.period⟩⟩

instance (userId : Nat) : Decidable (RelievesBeside db userId coverage) := by
  unfold RelievesBeside
  infer_instance

/-- Nine in the morning, with two technicians on the roster. -/
def nineOClock : Services where
  now := 3600000
  isDutyAdminAccess _ := true
  usersById := [1, 2]
  roster := [{ userId := 1 }, { userId := 2, sortOrder := 1 }]

def dutyAdministrator : Actor := ⟨9, .super_admin⟩

/-- A full hour. -/
def oClock (hours : Fin 24) : ClockTime := ⟨hours, ⟨0, by decide⟩, ⟨0, by decide⟩⟩

def rocMeeting : DutyMeetingReservation where
  id := 0
  meetingDate := 0
  venueType := .ROC
  times := ⟨none, .WHOLE_DAY, rfl⟩
  status := .confirmed
  createdById := 9

def morningMeeting : DutyMeetingReservation :=
  { rocMeeting with times := ⟨some (oClock ⟨9, by decide⟩, oClock ⟨11, by decide⟩), .AM, by decide +kernel⟩ }

def afternoonMeeting : DutyMeetingReservation :=
  { rocMeeting with id := 1, times := ⟨some (oClock ⟨13, by decide⟩, oClock ⟨15, by decide⟩), .PM, by decide +kernel⟩ }

/-- A meeting today, and both technicians are present. -/
def meetingDay : DutyDb where
  reservations := [rocMeeting]
  attendance := [{ userId := 1, date := 0, status := .present, isManualOverride := true },
    { userId := 2, date := 0, status := .present, isManualOverride := true }]
  nextId := 1

theorem run_meetingDay : Run duties [] meetingDay := by
  refine .init ⟨⟨⟨?_, ?_, ?_, ?_, ?_, ?_, ?_⟩, ?_⟩, rfl⟩
  · exact List.nodup_nil
  · exact List.nodup_nil
  · decide
  · exact fun _ hmem => absurd hmem List.not_mem_nil
  · decide
  · decide
  · decide
  · exact fun _ hmem => absurd hmem List.not_mem_nil

/-- The meeting is covered by a reliever, and the first technician becomes the OD. -/
def relievedBy (userId : Nat) : List Operation :=
  [.replaceMeetingRelievers dutyAdministrator 0 [userId] "Requested", .reconcileToday,
    .activateCoverage dutyAdministrator 1 1]

theorem one_duty_at_a_time_with_a_reliever :
    (after nineOClock meetingDay (relievedBy 2)).coverages.map DutyDailyCoverage.status = [.active] ∧
      Alone (after nineOClock meetingDay (relievedBy 2)) ∧ Unrelieved (after nineOClock meetingDay (relievedBy 2)) := by
  have hfree : ∀ coverage ∈ (after nineOClock meetingDay ((relievedBy 2).take 2)).coverages,
      ¬ RelievesBeside (after nineOClock meetingDay ((relievedBy 2).take 2)) 1 coverage := by
    decide +kernel
  have hmeets : Throughout nineOClock Meets meetingDay (relievedBy 2) :=
    ⟨trivial, trivial, fun coverage _ hread => hfree coverage (activatable_eq_ok hread).mem, trivial⟩
  obtain ⟨history, hrun, hmeets⟩ := run_operations (relievedBy 2) run_meetingDay
    (fun _ he => absurd he List.not_mem_nil) hmeets
  obtain ⟨halone, hunrelieved⟩ := one_duty_at_a_time hrun
  exact ⟨by decide +kernel, halone, hunrelieved hmeets⟩

/-- The technician who relieves the meeting becomes the OD. -/
theorem reliever_activated : ¬ ∀ (history : List (Transition DutyDb Event)) (db : DutyDb), Run duties history db →
    Alone db ∧ Unrelieved db := by
  intro hall
  obtain ⟨history, hrun, -⟩ := run_operations (P := fun _ _ => True) (s := nineOClock) (relievedBy 1) run_meetingDay
    (fun _ _ => trivial) ⟨trivial, trivial, trivial, trivial⟩
  have hboth : ∃ coverage ∈ (after nineOClock meetingDay (relievedBy 1)).coverages, coverage.status = .active ∧
      coverage.assignedUserId = some 1 ∧ RelievesBeside (after nineOClock meetingDay (relievedBy 1)) 1 coverage := by
    decide +kernel
  obtain ⟨coverage, hmem, hactive, huser, hrelieves⟩ := hboth
  exact (hall history _ hrun).2 coverage hmem hactive 1 huser hrelieves

end ComplianceHub.Duty
