import ComplianceHub.Duty.Guards
import ComplianceHub.Duty.Reconcile
import ComplianceHub.Lib.Run

/-!
# What an operation can do

* `Change` : what an operation writes to the meetings, their relievers and the active coverages;
* `Operation.reaches` : an operation leaves what its change leaves, up to the writes beside the meetings;
* `foldl_finalizeCoverage` : what the end of one coverage keeps, the end of the day keeps;
* `duties` : the runs of the service.
-/

namespace ComplianceHub.Duty

open ComplianceHub.Lib

/-- What the end of a day writes to its coverages. -/
def finalizeCoverages (s : Services) (db : DutyDb) : DutyDb :=
  (db.coverages.filter fun row => row.dutyDate = s.today && (row.status = .active || row.status = .released)).foldl
    finalizeCoverage db

/-- The own writes of an operation, none where it raises before. -/
inductive Change (s : Services) (db : DutyDb) : Operation → DutyDb → Prop
  | beside {op : Operation} : Change s db op db
  | activates {actor : Actor} {id userId : Nat} {coverage : DutyDailyCoverage} {attendance : TechAttendance} :
      activatable s db actor id userId = .ok (coverage, attendance) →
      Change s db (.activateCoverage actor id userId)
        ((db.saveAttendance userId coverage.dutyDate (onDuty coverage.dutyType)).saveCoverage
          (activated coverage userId attendance))
  | releases {actor : Actor} {id : Nat} {coverage : DutyDailyCoverage} :
      releasable s db actor id = .ok coverage → coverage.dutyType ≠ .OD →
      Change s db (.releaseCoverage actor id) (completeMeeting coverage.reservationId
        ((restoreAttendance coverage (recordCompletedCoverage coverage db)).saveCoverage
          { coverage with status := .completed, releasedAt := some s.now }))
  /-- An OD without a replacement, whatever was written to find one. -/
  | reinstates {actor : Actor} {id : Nat} {coverage : DutyDailyCoverage} {db' : DutyDb} :
      releasable s db actor id = .ok coverage → coverage.dutyType = .OD → Writes db db' →
      Change s db (.releaseCoverage actor id) (reinstate coverage db')
  | completes {actor : Actor} {id : Nat} {reservation : DutyMeetingReservation} :
      completable s db actor id = .ok (some reservation) →
      Change s db (.completeReservation actor id) (((db.relieversOf reservation.id).foldl
        (fun db reliever => recordReliever reservation actor.id "Immediate reliever duty completed: " reliever db)
        db).saveReservation { reservation with status := .completed })
  | corrects {actor : Actor} {body : ReservationBody} {id : Option Nat} {row : DutyMeetingReservation} :
      meetingWrite s db actor body id = .ok (.purpose row) →
      Change s db (.saveReservation actor body id) (db.saveReservation row)
  | schedules {actor : Actor} {body : ReservationBody} {id : Option Nat} {existing : Option DutyMeetingReservation}
      {row : DutyMeetingReservation} : meetingWrite s db actor body id = .ok (.schedule existing row) →
      Change s db (.saveReservation actor body id) (putMeeting existing row db)
  | deletes {actor : Actor} {id : Nat} {found : Option Nat} : removable s db actor id = .ok found →
      Change s db (.deleteReservation actor id) (deleteMeeting found db)
  | relieves {actor : Actor} {reservationId : Nat} {userIds selectedUserIds : List Nat} {reason normalizedReason : String}
      {reservation : DutyMeetingReservation} :
      relievable s db actor reservationId userIds reason = .ok (reservation, selectedUserIds, normalizedReason) →
      Change s db (.replaceMeetingRelievers actor reservationId userIds reason)
        (putRelievers reservation.id selectedUserIds normalizedReason actor.id db)
  | clears {actor : Actor} {reservationId : Nat} (id : Nat) :
      Change s db (.clearMeetingRelievers actor reservationId) (db.deleteRelievers id)
  | finalizes {db' : DutyDb} : Writes db db' → Change s db .finalizeToday (finalizeCoverages s db')

/-- What an operation leaves: its change, and writes beside the meetings. -/
def Reaches (s : Services) (db : DutyDb) (op : Operation) (db'' : DutyDb) : Prop :=
  ∃ db', Change s db op db' ∧ Writes db' db''

variable {s : Services} {db db' : DutyDb} {op : Operation}

theorem Change.reaches (h : Change s db op db') : Reaches s db op db' := ⟨db', h, .refl⟩

theorem Reaches.write (h : Reaches s db op db') {db'' : DutyDb} (hwrite : Write db' db'') : Reaches s db op db'' := by
  obtain ⟨first, hchange, hwrites⟩ := h
  exact ⟨first, hchange, hwrites.tail hwrite⟩

theorem reaches_writes (h : Writes db db') : Reaches s db op db' := ⟨db, .beside, h⟩

theorem reaches_closed (s : Services) (db : DutyDb) (op : Operation) (a b : DutyDb) (h : Reaches s db op a)
    (hwrite : Write a b) : Reaches s db op b :=
  h.write hwrite

theorem writes_closed (db a b : DutyDb) (h : Writes db a) (hwrite : Write a b) : Writes db b := h.tail hwrite

/-! ## Logs -/

theorem writes_recordCompletedCoverage (coverage : DutyDailyCoverage) (db : DutyDb) :
    Writes db (recordCompletedCoverage coverage db) := by
  unfold recordCompletedCoverage
  split
  · exact .refl
  · split_ifs
    · exact .refl
    · exact .single (.logs _ db.exceptions db.nextId le_rfl)

theorem writes_recordReliever (reservation : DutyMeetingReservation) (createdById : Nat) (remarks : String)
    (reliever : DutyMeetingReliever) (db : DutyDb) :
    Writes db (recordReliever reservation createdById remarks reliever db) := by
  unfold recordReliever
  split_ifs
  · exact .refl
  · exact .single (.logs _ db.exceptions db.nextId le_rfl)

theorem writes_foldl {α : Type} {f : DutyDb → α → DutyDb} (h : ∀ db a, Writes db (f db a)) (items : List α)
    (db : DutyDb) : Writes db (items.foldl f db) := by
  induction items generalizing db with
  | nil => exact .refl
  | cons item rest ih => exact (h db item).trans (ih (f db item))

theorem writes_recordRelievers (reservation : DutyMeetingReservation) (createdById : Nat) (remarks : String)
    (relievers : List DutyMeetingReliever) (db : DutyDb) : Writes db
      (relievers.foldl (fun db reliever => recordReliever reservation createdById remarks reliever db) db) :=
  writes_foldl (fun db reliever => writes_recordReliever reservation createdById remarks reliever db) relievers db

/-! ## Operations -/

section
variable {I : DutyDb → Prop} (hI : ∀ db db', I db → Write db db' → I db')

include hI

theorem putException_keeps (exception : DutyException) (h : I db) : I (putException exception db) := by
  unfold putException
  split_ifs
  · exact hI _ _ h (.logs db.assignments _ db.nextId le_rfl)
  · exact hI _ _ h (.logs db.assignments _ (db.nextId + 1) (Nat.le_succ _))

theorem keeps_saveException (actor : Actor) (body : ExceptionBody) (id : Option Nat) :
    Keeps I (saveException s actor body id) := by
  refine triple_bind (Q := fun _ => I) (triple_reads (fun _ _ h _ => h) fun _ h => h) fun exception => ?_
  refine triple_bind (Q := fun _ => I) (triple_modify fun _ h => putException_keeps hI exception h) fun _ => ?_
  split_ifs
  · exact keeps_reconcileToday hI
  · exact triple_pure fun _ h => h

theorem keeps_skipCoverage (actor : Actor) (id userId : Nat) : Keeps I (skipCoverage s actor id userId) :=
  triple_bind (Q := fun _ => I) (triple_reads (fun _ _ h _ => h) fun _ h => h) fun _ => keeps_saveException hI _ _ _

theorem keeps_deleteException (actor : Actor) (id : Nat) : Keeps I (deleteException s actor id) := by
  refine triple_bind (Q := fun _ => I) (triple_reads (fun _ _ h _ => h) fun _ h => h) fun existing => ?_
  refine triple_bind (Q := fun _ => I)
    (triple_modify fun db h => hI _ _ h (.logs db.assignments _ db.nextId le_rfl)) fun _ => ?_
  split_ifs
  · exact keeps_reconcileToday hI
  · exact triple_pure fun _ h => h

end

/-- What the operation reads first is read from the tables that it starts from. -/
theorem triple_reads_start {α : Type} {f : DutyDb → Except HttpException α} :
    Triple (fun a => a = db) (reads f) (fun r a => a = db ∧ f db = .ok r) (Reaches s db op) :=
  triple_reads (fun _ _ ha hr => ⟨ha, ha ▸ hr⟩) fun _ ha => ha ▸ reaches_writes .refl

theorem reaches_activateCoverage (actor : Actor) (id userId : Nat) : Triple (fun a => a = db)
    (activateCoverage s actor id userId) (fun _ => Reaches s db (.activateCoverage actor id userId))
    (Reaches s db (.activateCoverage actor id userId)) := by
  refine triple_bind triple_reads_start fun read => ?_
  refine triple_modify fun a h => ?_
  obtain ⟨rfl, hread⟩ := h
  exact (Change.activates hread).reaches

theorem reaches_releaseVenue {actor : Actor} {id : Nat} {coverage : DutyDailyCoverage} : Triple
    (fun a => a = db ∧ releasable s db actor id = .ok coverage ∧ coverage.dutyType ≠ .OD) (releaseVenue s coverage)
    (fun _ => Reaches s db (.releaseCoverage actor id)) (Reaches s db (.releaseCoverage actor id)) := by
  refine triple_bind (Q := fun _ => Reaches s db (.releaseCoverage actor id)) (triple_modify fun a h => ?_) fun _ => ?_
  · obtain ⟨rfl, hread, hvenue⟩ := h
    exact (Change.releases hread hvenue).reaches
  · exact keeps_reconcileNext (reaches_closed s db _) coverage.dutyDate coverage.dutyType

theorem writes_release {coverage saved : DutyDailyCoverage} (hmem : coverage ∈ db.coverages)
    (hsaved : saved = { coverage with status := .released, releasedAt := some s.now }) (hod : coverage.dutyType = .OD) :
    Writes db ((restoreAttendance coverage db).saveCoverage saved) := by
  subst hsaved
  refine .single (.ends hmem ⟨rfl, rfl, fun h => ⟨h.od, fun _ => hod⟩⟩ ?_ fun hover => ⟨hover, rfl, rfl, rfl⟩)
  exact DutyCoverageStatus.noConfusion

theorem reaches_releaseOd {actor : Actor} {id : Nat} {coverage : DutyDailyCoverage} : Triple
    (fun a => a = db ∧ releasable s db actor id = .ok coverage ∧ coverage.dutyType = .OD) (releaseOd s coverage)
    (fun _ => Reaches s db (.releaseCoverage actor id)) (Reaches s db (.releaseCoverage actor id)) := by
  intro a h
  obtain ⟨rfl, hread, hod⟩ := h
  have htriple : Triple (fun x => x = a) (releaseOd s coverage) (fun _ => Reaches s a (.releaseCoverage actor id))
      (Reaches s a (.releaseCoverage actor id)) := by
    refine triple_bind (Q := fun _ => Writes a) (triple_modify fun x hx => ?_) fun _ => ?_
    · subst hx
      exact writes_release (releasable_eq_ok hread).1 rfl hod
    refine triple_bind (Q := fun _ => Writes a)
      (triple_attempt (keeps_reconcileCoverage (writes_closed a) _ _ _ _)) fun replacement => ?_
    split_ifs
    · exact triple_modify fun x hx => reaches_writes (hx.trans (writes_recordCompletedCoverage coverage x))
    · refine triple_bind (Q := fun _ => Reaches s a (.releaseCoverage actor id)) (triple_modify fun x hx => ?_) fun _ => ?_
      · exact (Change.reinstates hread hod hx).reaches
      · exact triple_reads (fun _ _ hx _ => hx) fun _ hx => hx
  exact htriple a rfl

theorem reaches_releaseCoverage (actor : Actor) (id : Nat) : Triple (fun a => a = db) (releaseCoverage s actor id)
    (fun _ => Reaches s db (.releaseCoverage actor id)) (Reaches s db (.releaseCoverage actor id)) := by
  refine triple_bind triple_reads_start fun coverage => ?_
  split_ifs with hod
  · exact fun a h => reaches_releaseOd a ⟨h.1, h.2, hod⟩
  · exact fun a h => reaches_releaseVenue a ⟨h.1, h.2, hod⟩

theorem reaches_completeReservation (actor : Actor) (id : Nat) : Triple (fun a => a = db) (completeReservation s actor id)
    (fun _ => Reaches s db (.completeReservation actor id)) (Reaches s db (.completeReservation actor id)) := by
  refine triple_bind triple_reads_start fun found => ?_
  cases found with
  | none => exact triple_pure fun a h => h.1 ▸ reaches_writes .refl
  | some reservation =>
    refine triple_bind (Q := fun _ => Reaches s db (.completeReservation actor id)) (triple_modify fun a h => ?_) fun _ => ?_
    · obtain ⟨rfl, hread⟩ := h
      exact (Change.completes hread).reaches
    · exact keeps_reconcileNext (reaches_closed s db _) reservation.meetingDate reservation.venueType

theorem reaches_saveReservation (actor : Actor) (body : ReservationBody) (id : Option Nat) : Triple (fun a => a = db)
    (saveReservation s actor body id) (fun _ => Reaches s db (.saveReservation actor body id))
    (Reaches s db (.saveReservation actor body id)) := by
  refine triple_bind triple_reads_start fun write => ?_
  cases write with
  | purpose row =>
    refine triple_modify fun a h => ?_
    obtain ⟨rfl, hread⟩ := h
    exact (Change.corrects hread).reaches
  | schedule existing row =>
    refine triple_bind (Q := fun _ => Reaches s db (.saveReservation actor body id)) (triple_modify fun a h => ?_) fun _ => ?_
    · obtain ⟨rfl, hread⟩ := h
      exact (Change.schedules hread).reaches
    · split_ifs
      · exact keeps_reconcileToday (reaches_closed s db _)
      · exact triple_pure fun _ h => h

theorem reaches_deleteReservation (actor : Actor) (id : Nat) : Triple (fun a => a = db) (deleteReservation s actor id)
    (fun _ => Reaches s db (.deleteReservation actor id)) (Reaches s db (.deleteReservation actor id)) := by
  refine triple_bind triple_reads_start fun found => ?_
  refine triple_modify fun a h => ?_
  obtain ⟨rfl, hread⟩ := h
  exact (Change.deletes hread).reaches

theorem reaches_replaceMeetingRelievers (actor : Actor) (reservationId : Nat) (userIds : List Nat) (reason : String) :
    Triple (fun a => a = db) (replaceMeetingRelievers s actor reservationId userIds reason)
      (fun _ => Reaches s db (.replaceMeetingRelievers actor reservationId userIds reason))
      (Reaches s db (.replaceMeetingRelievers actor reservationId userIds reason)) := by
  refine triple_bind triple_reads_start fun read => ?_
  refine triple_bind (Q := fun _ => Reaches s db (.replaceMeetingRelievers actor reservationId userIds reason))
    (triple_modify fun a h => ?_) fun _ => ?_
  · obtain ⟨rfl, hread⟩ := h
    exact (Change.relieves hread).reaches
  · split_ifs
    · exact keeps_reconcileDuty (reaches_closed s db _) _ _ none
    · exact triple_pure fun _ h => h

theorem reaches_clearMeetingRelievers (actor : Actor) (reservationId : Nat) : Triple (fun a => a = db)
    (clearMeetingRelievers s actor reservationId) (fun _ => Reaches s db (.clearMeetingRelievers actor reservationId))
    (Reaches s db (.clearMeetingRelievers actor reservationId)) := by
  refine triple_bind triple_reads_start fun reservation => ?_
  refine triple_bind (Q := fun _ => Reaches s db (.clearMeetingRelievers actor reservationId))
    (triple_modify fun a h => ?_) fun _ => ?_
  · rw [h.1]
    exact (Change.clears reservation.id).reaches
  · split_ifs
    · exact keeps_reconcileDuty (reaches_closed s db _) _ _ none
    · exact triple_pure fun _ h => h

theorem reaches_finalizeToday : Triple (fun a => a = db) (finalizeToday s) (fun _ => Reaches s db .finalizeToday)
    (Reaches s db .finalizeToday) := by
  unfold finalizeToday
  split_ifs
  · exact triple_pure fun a h => h ▸ reaches_writes .refl
  · refine triple_bind (Q := fun _ => Writes db) (triple_modify fun a h => ?_) fun _ => ?_
    · subst h
      exact writes_foldl (fun db entry => writes_recordReliever _ _ _ _ db) _ a
    · exact triple_modify fun a h => (Change.finalizes h).reaches

/-- An operation leaves what its change leaves, up to writes beside the meetings. -/
theorem Operation.reaches (s : Services) (op : Operation) (db : DutyDb) : Reaches s db op (leaves (op.run s) db) := by
  have hstart : ∀ op, Reaches s db op db := fun op => reaches_writes .refl
  cases op with
  | reconcileToday => exact (keeps_reconcileToday (reaches_closed s db _)).leaves (hstart _)
  | activateCoverage actor id userId => exact (reaches_activateCoverage actor id userId).leaves rfl
  | skipCoverage actor id userId => exact (keeps_skipCoverage (reaches_closed s db _) actor id userId).leaves (hstart _)
  | releaseCoverage actor id => exact (reaches_releaseCoverage actor id).leaves rfl
  | completeReservation actor id => exact (reaches_completeReservation actor id).leaves rfl
  | saveReservation actor body id => exact (reaches_saveReservation actor body id).leaves rfl
  | deleteReservation actor id => exact (reaches_deleteReservation actor id).leaves rfl
  | replaceMeetingRelievers actor reservationId userIds reason =>
    exact (reaches_replaceMeetingRelievers actor reservationId userIds reason).leaves rfl
  | clearMeetingRelievers actor reservationId => exact (reaches_clearMeetingRelievers actor reservationId).leaves rfl
  | saveException actor body id => exact (keeps_saveException (reaches_closed s db _) actor body id).leaves (hstart _)
  | deleteException actor id => exact (keeps_deleteException (reaches_closed s db _) actor id).leaves (hstart _)
  | finalizeToday => exact reaches_finalizeToday.leaves rfl

/-! ## Meetings -/

theorem Sane.meetings (hdb : Sane db) {reservations : List DutyMeetingReservation} {relievers : List DutyMeetingReliever}
    {nextId : Nat} (hids : (reservations.map DutyMeetingReservation.id).Nodup)
    (hreservations : ∀ reservation ∈ reservations, reservation.id < nextId)
    (hrelievers : ∀ reliever ∈ relievers, reliever.reservationId < nextId) (hnext : db.nextId ≤ nextId) :
    Sane { db with reservations, relievers, nextId } where
  keyed :=
    { coverageIds := hdb.keyed.coverageIds
      coverageKeys := hdb.keyed.coverageKeys
      reservationIds := hids
      coverageBelow := fun row hrow => Nat.lt_of_lt_of_le (hdb.keyed.coverageBelow row hrow) hnext
      reservationBelow := hreservations
      relieverBelow := hrelievers
      attendanceKeys := hdb.keyed.attendanceKeys }
  regular := hdb.regular

theorem map_saveReservation_id (row : DutyMeetingReservation) (db : DutyDb) :
    (db.saveReservation row).reservations.map DutyMeetingReservation.id = db.reservations.map DutyMeetingReservation.id := by
  unfold DutyDb.saveReservation
  exact map_column_of_change fun _ _ hid => hid.symm

theorem mem_saveReservation {reservation row : DutyMeetingReservation} (h : row ∈ (db.saveReservation reservation).reservations) :
    row = reservation ∧ (∃ old ∈ db.reservations, old.id = reservation.id) ∨ row ∈ db.reservations ∧ row.id ≠ reservation.id := by
  obtain ⟨old, hold, rfl⟩ := List.mem_map.mp h
  split_ifs with hid
  · exact .inl ⟨rfl, old, hold, hid⟩
  · exact .inr ⟨hold, hid⟩

theorem Sane.saveReservation (hdb : Sane db) (row : DutyMeetingReservation) : Sane (db.saveReservation row) := by
  refine hdb.meetings ?_ (fun reservation hmem => ?_) hdb.keyed.relieverBelow le_rfl
  · rw [show (db.reservations.map fun old => if old.id = row.id then row else old) =
      (db.saveReservation row).reservations from rfl, map_saveReservation_id]
    exact hdb.keyed.reservationIds
  · rcases mem_saveReservation hmem with ⟨rfl, old, hold, hid⟩ | ⟨hmem, -⟩
    · rw [← hid]
      exact hdb.keyed.reservationBelow old hold
    · exact hdb.keyed.reservationBelow reservation hmem

theorem Sane.deleteRelievers (hdb : Sane db) (id : Nat) : Sane (db.deleteRelievers id) :=
  hdb.meetings hdb.keyed.reservationIds hdb.keyed.reservationBelow
    (fun reliever hmem => hdb.keyed.relieverBelow reliever (List.mem_filter.mp hmem).1) le_rfl

theorem Sane.completeMeeting (hdb : Sane db) (reservationId : Option Nat) : Sane (completeMeeting reservationId db) := by
  unfold Duty.completeMeeting
  split
  · exact hdb
  · exact hdb.saveReservation _

theorem Sane.deleteMeeting (hdb : Sane db) (id : Option Nat) : Sane (deleteMeeting id db) := by
  unfold Duty.deleteMeeting
  split
  · exact hdb
  · refine hdb.meetings ?_ (fun reservation hmem => ?_) (fun reliever hmem => ?_) le_rfl
    · exact hdb.keyed.reservationIds.sublist (List.filter_sublist.map _)
    · exact hdb.keyed.reservationBelow reservation (List.mem_filter.mp hmem).1
    · exact hdb.keyed.relieverBelow reliever (List.mem_filter.mp hmem).1

theorem Sane.putMeeting (hdb : Sane db) {existing : Option DutyMeetingReservation} {row : DutyMeetingReservation}
    (hnew : existing = none → row.id = db.nextId) : Sane (putMeeting existing row db) := by
  unfold Duty.putMeeting
  split
  · refine hdb.meetings ?_ (fun reservation hmem => ?_) (fun reliever hmem => ?_) (Nat.le_succ _)
    · rw [List.map_append, List.map_singleton]
      refine List.Nodup.append hdb.keyed.reservationIds (List.nodup_singleton _) fun id hold hid => ?_
      obtain ⟨old, hmem, rfl⟩ := List.mem_map.mp hold
      have hlt := hdb.keyed.reservationBelow old hmem
      rw [List.mem_singleton, hnew rfl] at hid
      omega
    · rcases List.mem_append.mp hmem with hmem | hmem
      · exact Nat.lt_succ_of_lt (hdb.keyed.reservationBelow reservation hmem)
      · rw [List.mem_singleton.mp hmem, hnew rfl]
        exact Nat.lt_succ_self _
    · exact Nat.lt_succ_of_lt (hdb.keyed.relieverBelow reliever hmem)
  · split_ifs
    · exact hdb.saveReservation row
    · exact (hdb.saveReservation row).deleteRelievers row.id

theorem Sane.putRelievers (hdb : Sane db) {reservation : DutyMeetingReservation} (hmem : reservation ∈ db.reservations)
    (userIds : List Nat) (reason : String) (createdById : Nat) :
    Sane (putRelievers reservation.id userIds reason createdById db) := by
  refine hdb.meetings hdb.keyed.reservationIds hdb.keyed.reservationBelow (fun reliever hreliever => ?_) le_rfl
  rcases List.mem_append.mp hreliever with hreliever | hreliever
  · exact hdb.keyed.relieverBelow reliever (List.mem_filter.mp hreliever).1
  · obtain ⟨userId, -, rfl⟩ := List.mem_map.mp hreliever
    exact hdb.keyed.reservationBelow reservation hmem

/-! ## The end of a coverage -/

/-- A coverage is not active any more. -/
def Over (id : Nat) (db : DutyDb) : Prop := ∀ row ∈ db.coverages, row.id = id → row.status ≠ .active

theorem over_saveCoverage {coverage : DutyDailyCoverage} {id : Nat} (hid : coverage.id = id)
    (h : coverage.status ≠ .active) : Over id (db.saveCoverage coverage) := by
  intro row hrow hrowId
  rcases mem_saveCoverage hrow with rfl | ⟨-, hother⟩
  · exact h
  · exact absurd (hrowId.trans hid.symm) hother

theorem saveAttendance_completeMeeting (reservationId : Option Nat) (db : DutyDb) (userId : Nat) (date : Int)
    (f : TechAttendance → TechAttendance) : (completeMeeting reservationId db).saveAttendance userId date f =
      completeMeeting reservationId (db.saveAttendance userId date f) := by
  have hsame : (db.saveAttendance userId date f).reservation? = db.reservation? := rfl
  unfold completeMeeting
  rw [hsame]
  cases (reservationId.bind db.reservation?).filter fun row => row.status ≠ .cancelled <;> rfl

theorem restoreAttendance_completeMeeting (coverage : DutyDailyCoverage) (reservationId : Option Nat) (db : DutyDb) :
    restoreAttendance coverage (completeMeeting reservationId db) =
      completeMeeting reservationId (restoreAttendance coverage db) := by
  unfold restoreAttendance
  split
  · split_ifs
    · exact saveAttendance_completeMeeting _ _ _ _ _
    · rfl
  · rfl

theorem restoreAttendance_saveCoverage (coverage saved : DutyDailyCoverage) (db : DutyDb) :
    restoreAttendance coverage (db.saveCoverage saved) = (restoreAttendance coverage db).saveCoverage saved := by
  unfold restoreAttendance
  split
  · split_ifs <;> rfl
  · rfl

theorem recordCompletedCoverage_coverages (coverage : DutyDailyCoverage) (db : DutyDb) :
    (recordCompletedCoverage coverage db).coverages = db.coverages := by
  unfold recordCompletedCoverage
  split
  · rfl
  · split_ifs <;> rfl

/-- A coverage that ends with its log. -/
theorem writes_recorded_ends {coverage saved : DutyDailyCoverage} (hmem : coverage ∈ db.coverages)
    (hsaved : Replaces saved coverage) (hstatus : saved.status ≠ .active) (hover : SameOverride saved coverage) :
    Writes db ((restoreAttendance coverage (recordCompletedCoverage coverage db)).saveCoverage saved) := by
  refine (writes_recordCompletedCoverage coverage db).tail (.ends ?_ hsaved hstatus hover)
  rwa [recordCompletedCoverage_coverages]

theorem writes_releases {actor : Actor} {id : Nat} {coverage : DutyDailyCoverage}
    (h : releasable s db actor id = .ok coverage) :
    Writes db ((restoreAttendance coverage (recordCompletedCoverage coverage db)).saveCoverage
      { coverage with status := .completed, releasedAt := some s.now }) := by
  refine writes_recorded_ends (releasable_eq_ok h).1 (.of_meeting rfl rfl rfl ?_) ?_ fun hover => ⟨hover, rfl, rfl, rfl⟩
  · exact DutyCoverageStatus.noConfusion
  · exact DutyCoverageStatus.noConfusion

theorem finalizeCoverage_cases {coverage : DutyDailyCoverage} (hmem : coverage ∈ db.coverages) :
    Writes db (finalizeCoverage db coverage) ∨
      ∃ db', Writes db db' ∧ Over coverage.id db' ∧ finalizeCoverage db coverage = completeMeeting coverage.reservationId db' := by
  unfold finalizeCoverage
  split_ifs
  · refine .inr ⟨(restoreAttendance coverage (recordCompletedCoverage coverage db)).saveCoverage
      { coverage with status := .completed }, ?_, ?_, ?_⟩
    · refine writes_recorded_ends hmem (.of_meeting rfl rfl rfl ?_) ?_ fun hover => ⟨hover, rfl, rfl, rfl⟩
      · exact DutyCoverageStatus.noConfusion
      · exact DutyCoverageStatus.noConfusion
    · exact over_saveCoverage rfl DutyCoverageStatus.noConfusion
    · rw [restoreAttendance_completeMeeting, restoreAttendance_saveCoverage]
  · exact .inl .refl
  · exact .inl (.single (.restores hmem))

theorem completeMeeting_coverages (reservationId : Option Nat) (db : DutyDb) :
    (completeMeeting reservationId db).coverages = db.coverages := by
  unfold completeMeeting
  split <;> rfl

/-- The end of a coverage leaves the rows of the others. -/
theorem finalizeCoverage_keeps {coverage row : DutyDailyCoverage} (hrow : row ∈ db.coverages) (hid : row.id ≠ coverage.id) :
    row ∈ (finalizeCoverage db coverage).coverages := by
  unfold finalizeCoverage
  split_ifs
  · rw [restoreAttendance_coverages, completeMeeting_coverages]
    have hmem : row ∈ (recordCompletedCoverage coverage db).coverages := by rwa [recordCompletedCoverage_coverages]
    exact saveCoverage_keeps hmem hid
  · exact hrow
  · rwa [restoreAttendance_coverages]

/-- What the end of each active or released coverage keeps, the end of the day keeps. -/
theorem foldl_finalizeCoverage {I : DutyDb → Prop}
    (hstep : ∀ db coverage, I db → coverage ∈ db.coverages → coverage.status = .active ∨ coverage.status = .released →
      I (finalizeCoverage db coverage)) : ∀ (items : List DutyDailyCoverage) (db : DutyDb), I db →
      (items.map DutyDailyCoverage.id).Nodup →
      (∀ coverage ∈ items, coverage ∈ db.coverages ∧ (coverage.status = .active ∨ coverage.status = .released)) →
      I (items.foldl finalizeCoverage db)
  | [], _, h, _, _ => h
  | coverage :: rest, db, h, hids, hitems => by
    rw [List.map_cons, List.nodup_cons] at hids
    obtain ⟨hmem, hstatus⟩ := hitems coverage List.mem_cons_self
    refine foldl_finalizeCoverage hstep rest _ (hstep db coverage h hmem hstatus) hids.2 fun other hother => ?_
    obtain ⟨hmem', hstatus'⟩ := hitems other (List.mem_cons_of_mem _ hother)
    refine ⟨finalizeCoverage_keeps hmem' fun hid => hids.1 ?_, hstatus'⟩
    rw [← hid]
    exact List.mem_map_of_mem hother

theorem keeps_finalizeCoverages {I : DutyDb → Prop}
    (hstep : ∀ db coverage, I db → coverage ∈ db.coverages → coverage.status = .active ∨ coverage.status = .released →
      I (finalizeCoverage db coverage)) (hdb : Keyed db) (h : I db) : I (finalizeCoverages s db) := by
  refine foldl_finalizeCoverage hstep _ db h (hdb.coverageIds.sublist (List.filter_sublist.map _)) fun coverage hmem => ?_
  obtain ⟨hmem, hstatus⟩ := List.mem_filter.mp hmem
  simp only [Bool.and_eq_true, Bool.or_eq_true, decide_eq_true_eq] at hstatus
  exact ⟨hmem, hstatus.2⟩

/-! ## Sanity -/

theorem Sane.finalizeCoverage (hdb : Sane db) {coverage : DutyDailyCoverage} (hmem : coverage ∈ db.coverages) :
    Sane (finalizeCoverage db coverage) := by
  rcases finalizeCoverage_cases hmem with hwrites | ⟨db', hwrites, -, heq⟩
  · exact (hdb.writes hwrites).1
  · rw [heq]
    exact (hdb.writes hwrites).1.completeMeeting _

theorem Sane.saveCoverage (hdb : Sane db) {coverage saved : DutyDailyCoverage} (hmem : coverage ∈ db.coverages)
    (hsaved : Replaces saved coverage) : Sane (db.saveCoverage saved) :=
  ⟨hdb.keyed.saveCoverage hmem hsaved, hdb.regular.saveCoverage hmem hsaved⟩

theorem Sane.saveAttendance (hdb : Sane db) {userId : Nat} {date : Int} {f : TechAttendance → TechAttendance}
    (hf : ∀ row, (f row).userId = row.userId ∧ (f row).date = row.date) : Sane (db.saveAttendance userId date f) :=
  ⟨hdb.keyed.saveAttendance f hf db.yielded, hdb.regular⟩

theorem attendDuty_coverages (coverage : DutyDailyCoverage) (db : DutyDb) :
    (attendDuty coverage db).coverages = db.coverages := by
  unfold attendDuty
  split <;> rfl

theorem Sane.attendDuty (hdb : Sane db) (coverage : DutyDailyCoverage) : Sane (attendDuty coverage db) := by
  unfold Duty.attendDuty
  split
  · exact hdb.saveAttendance fun _ => ⟨rfl, rfl⟩
  · exact hdb

/-- The row of a coverage that is put back. -/
theorem Sane.reinstate (hdb : Sane db) (hwrites : Writes db db') {coverage : DutyDailyCoverage}
    (hmem : coverage ∈ db.coverages) : Sane (reinstate coverage db') := by
  obtain ⟨hdb', hbeside⟩ := hdb.writes hwrites
  obtain ⟨row, hrow, hid, hkey⟩ := hbeside.rows coverage hmem
  have hregular : (reinstated coverage).Regular :=
    ⟨(hdb.regular coverage hmem).od, fun h => DutyCoverageStatus.noConfusion h⟩
  have hattended := hdb'.attendDuty coverage
  refine hattended.saveCoverage ?_ ⟨hid.symm, hkey.symm, fun _ => hregular⟩
  rwa [attendDuty_coverages]

theorem Sane.change (hdb : Sane db) (h : Change s db op db') : Sane db' := by
  cases h with
  | beside => exact hdb
  | @activates _ _ userId coverage attendance hread =>
    have hattended : Sane (db.saveAttendance userId coverage.dutyDate (onDuty coverage.dutyType)) :=
      hdb.saveAttendance fun _ => ⟨rfl, rfl⟩
    exact hattended.saveCoverage (activatable_eq_ok hread).mem (.of_meeting rfl rfl rfl DutyCoverageStatus.noConfusion)
  | @releases _ _ coverage hread _ =>
    exact (hdb.writes (writes_releases hread)).1.completeMeeting _
  | reinstates hread _ hwrites => exact hdb.reinstate hwrites (releasable_eq_ok hread).1
  | completes hread =>
    exact (hdb.writes (writes_recordRelievers _ _ _ _ db)).1.saveReservation _
  | corrects _ => exact hdb.saveReservation _
  | schedules hread =>
    refine hdb.putMeeting fun hnone => ?_
    rcases meetingWrite_eq_ok hread with ⟨_, -, hwrite⟩ | ⟨row, hwrite, hid⟩ | ⟨_, _, hwrite, -, -⟩
    · cases hwrite
    · cases hwrite
      exact hid
    · cases hwrite
      cases hnone
  | deletes _ => exact hdb.deleteMeeting _
  | relieves hread => exact hdb.putRelievers (relievable_eq_ok hread).1.1 _ _ _
  | clears id => exact hdb.deleteRelievers id
  | finalizes hwrites =>
    have hsane := (hdb.writes hwrites).1
    exact keeps_finalizeCoverages (fun _ _ h hmem _ => h.finalizeCoverage hmem) hsane.keyed hsane

/-! ## Runs -/

/-- What happens to the tables: an operation, or the other services write the attendance. -/
inductive Event where
  | attendance (rows : List TechAttendance)
  | operation (s : Services) (op : Operation)

inductive DutyStep (db : DutyDb) : Event → DutyDb → Prop
  | attendance {rows : List TechAttendance} : (rows.map fun row => (row.userId, row.date)).Nodup →
      DutyStep db (.attendance rows) { db with attendance := rows }
  | operation (s : Services) (op : Operation) : DutyStep db (.operation s op) (leaves (op.run s) db)

/-- Meetings, relievers and attendance are as they are, no duty is covered yet. -/
def duties : System DutyDb Event where
  init db := Sane db ∧ db.coverages = []
  step := DutyStep

theorem Sane.step {e : Event} (hdb : Sane db) (h : DutyStep db e db') : Sane db' := by
  cases h with
  | attendance hkeys =>
    obtain ⟨⟨hids, hkeys', hreservations, hbelow, hbelow', hbelow'', -⟩, hregular⟩ := hdb
    exact ⟨⟨hids, hkeys', hreservations, hbelow, hbelow', hbelow'', hkeys⟩, hregular⟩
  | operation s op =>
    obtain ⟨db', hchange, hwrites⟩ := op.reaches s db
    exact ((hdb.change hchange).writes hwrites).1

/-- The tables after some operations. -/
def after (s : Services) : DutyDb → List Operation → DutyDb
  | db, [] => db
  | db, op :: rest => after s (leaves (op.run s) db) rest

/-- A condition of each of some operations, on the tables that it starts from. -/
def Throughout (s : Services) (P : DutyDb → Event → Prop) : DutyDb → List Operation → Prop
  | _, [] => True
  | db, op :: rest => P db (.operation s op) ∧ Throughout s P (leaves (op.run s) db) rest

/-- A run of the operations in any system that has their steps. -/
theorem run_operations_of {S : System DutyDb Event} (hS : ∀ db e db', DutyStep db e db' → S.step db e db')
    {P : DutyDb → Event → Prop} : ∀ (ops : List Operation) {history : List (Transition DutyDb Event)} {db : DutyDb},
    Run S history db → (∀ e ∈ history, P e.before e.label) → Throughout s P db ops →
      ∃ longer, Run S longer (after s db ops) ∧ ∀ e ∈ longer, P e.before e.label
  | [], history, _, h, hP, _ => ⟨history, h, hP⟩
  | op :: rest, history, db, h, hP, hops => by
    refine run_operations_of hS rest (h.step (hS _ _ _ (.operation s op))) (fun e he => ?_) hops.2
    rcases List.mem_append.mp he with he | he
    · exact hP e he
    · rw [List.mem_singleton.mp he]
      exact hops.1

theorem run_operations {P : DutyDb → Event → Prop} (ops : List Operation) {history : List (Transition DutyDb Event)}
    {db : DutyDb} (h : Run duties history db) (hP : ∀ e ∈ history, P e.before e.label) (hops : Throughout s P db ops) :
    ∃ longer, Run duties longer (after s db ops) ∧ ∀ e ∈ longer, P e.before e.label :=
  run_operations_of (fun _ _ _ hstep => hstep) ops h hP hops

end ComplianceHub.Duty
