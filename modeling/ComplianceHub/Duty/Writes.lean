import ComplianceHub.Duty.Operations
import ComplianceHub.Lib.Rows
import Mathlib.Logic.Relation

/-!
# The writes beside the meetings

* `Keyed`, `Regular` : the keys of the tables, and what every row of a coverage has; `Sane` : both;
* `Write` : a write of `reconcileCoverage`, of a log or of an attendance. None makes a coverage active, and none changes
  a meeting or its relievers (`Beside`);
* `Writes` : some of them, one after the other, which keep the tables sane (`Sane.writes`).
-/

namespace ComplianceHub.Duty

open ComplianceHub.Lib

/-! ## Keys -/

/-- The unique key of a coverage. -/
def DutyDailyCoverage.key (coverage : DutyDailyCoverage) : Int × DutyType × DutyPeriod :=
  (coverage.dutyDate, coverage.dutyType, coverage.dutyPeriod)

/-- The identifiers are given once, and a day has one coverage of a duty in a period. -/
structure Keyed (db : DutyDb) : Prop where
  coverageIds : (db.coverages.map DutyDailyCoverage.id).Nodup
  coverageKeys : (db.coverages.map DutyDailyCoverage.key).Nodup
  reservationIds : (db.reservations.map DutyMeetingReservation.id).Nodup
  coverageBelow : ∀ coverage ∈ db.coverages, coverage.id < db.nextId
  reservationBelow : ∀ reservation ∈ db.reservations, reservation.id < db.nextId
  relieverBelow : ∀ reliever ∈ db.relievers, reliever.reservationId < db.nextId
  attendanceKeys : (db.attendance.map fun row => (row.userId, row.date)).Nodup

/-- What every row of a coverage has: only an OD is released, and an OD is for no meeting. -/
structure DutyDailyCoverage.Regular (coverage : DutyDailyCoverage) : Prop where
  od : coverage.dutyType = .OD → coverage.reservationId = none ∧ coverage.dutyPeriod = .WHOLE_DAY
  released : coverage.status = .released → coverage.dutyType = .OD

/-- A coverage as it is written over another. -/
structure Replaces (saved coverage : DutyDailyCoverage) : Prop where
  id : saved.id = coverage.id
  key : saved.key = coverage.key
  regular : coverage.Regular → saved.Regular

/-- A coverage of another status, for the same meeting. -/
theorem Replaces.of_meeting {saved coverage : DutyDailyCoverage} (hid : saved.id = coverage.id)
    (hkey : saved.key = coverage.key) (hmeeting : saved.reservationId = coverage.reservationId)
    (hstatus : saved.status ≠ .released) : Replaces saved coverage where
  id := hid
  key := hkey
  regular h := by
    have htype : saved.dutyType = coverage.dutyType := congrArg (fun key => key.2.1) hkey
    have hperiod : saved.dutyPeriod = coverage.dutyPeriod := congrArg (fun key => key.2.2) hkey
    refine ⟨fun hod => ?_, fun hreleased => absurd hreleased hstatus⟩
    rw [hmeeting, hperiod]
    exact h.od (htype ▸ hod)

/-- An override that a written coverage still has is that of the coverage before. -/
def SameOverride (saved coverage : DutyDailyCoverage) : Prop :=
  saved.attendanceOverridden = true → coverage.attendanceOverridden = true ∧
    saved.assignedUserId = coverage.assignedUserId ∧
    saved.previousAttendanceStatus = coverage.previousAttendanceStatus ∧
    saved.previousAttendanceNotes = coverage.previousAttendanceNotes

/-- A write beside the meetings that makes no coverage active. -/
inductive Write (db : DutyDb) : DutyDb → Prop
  /-- A coverage ends or is ended again, and its technician's attendance is restored. -/
  | ends {coverage saved : DutyDailyCoverage} : coverage ∈ db.coverages → Replaces saved coverage →
      saved.status ≠ .active → SameOverride saved coverage →
      Write db ((restoreAttendance coverage db).saveCoverage saved)
  /-- A coverage that is not active stays so. -/
  | changes {coverage saved : DutyDailyCoverage} : coverage ∈ db.coverages → Replaces saved coverage →
      coverage.status ≠ .active → saved.status ≠ .active → SameOverride saved coverage → Write db (db.saveCoverage saved)
  | yields {coverage prior : DutyDailyCoverage} {userId : Nat} {date : Int} : coverage ∈ db.coverages →
      Write db ((handOver coverage prior userId date db).saveCoverage (yielded coverage))
  | inserts {coverage : DutyDailyCoverage} : coverage.id = db.nextId → coverage.key ∉ db.coverages.map DutyDailyCoverage.key →
      coverage.status ≠ .active → coverage.attendanceOverridden = false → coverage.Regular →
      Write db { db with coverages := db.coverages ++ [coverage], nextId := db.nextId + 1 }
  | restores {coverage : DutyDailyCoverage} : coverage ∈ db.coverages → Write db (restoreAttendance coverage db)
  | sweeps (date : Int) : Write db (restoreOrphanedDutyAttendance date db)
  | logs (assignments : List DutyAssignment) (exceptions : List DutyException) (nextId : Nat) : db.nextId ≤ nextId →
      Write db { db with assignments, exceptions, nextId }

variable {db db' : DutyDb} {coverage saved row : DutyDailyCoverage}

theorem mem_saveCoverage (h : row ∈ (db.saveCoverage coverage).coverages) :
    row = coverage ∨ row ∈ db.coverages ∧ row.id ≠ coverage.id := by
  rcases mem_change (f := fun _ => coverage) h with ⟨_, _, _, hsaved⟩ | hkept
  · exact .inl hsaved
  · exact .inr hkept

theorem saveCoverage_mem (h : coverage ∈ db.coverages) (hid : saved.id = coverage.id) :
    saved ∈ (db.saveCoverage saved).coverages :=
  List.mem_map.mpr ⟨coverage, h, if_pos hid.symm⟩

theorem saveCoverage_keeps (h : row ∈ db.coverages) (hid : row.id ≠ coverage.id) :
    row ∈ (db.saveCoverage coverage).coverages :=
  List.mem_map.mpr ⟨row, h, if_neg hid⟩

theorem Keyed.eq_coverage (h : Keyed db) {row' : DutyDailyCoverage} (hrow : row ∈ db.coverages)
    (hrow' : row' ∈ db.coverages) (hid : row.id = row'.id) : row = row' :=
  List.inj_on_of_nodup_map h.coverageIds hrow hrow' hid

theorem Keyed.eq_of_key (h : Keyed db) {row' : DutyDailyCoverage} (hrow : row ∈ db.coverages)
    (hrow' : row' ∈ db.coverages) (hkey : row.key = row'.key) : row = row' :=
  List.inj_on_of_nodup_map h.coverageKeys hrow hrow' hkey

theorem Keyed.eq_reservation (h : Keyed db) {reservation reservation' : DutyMeetingReservation}
    (hrow : reservation ∈ db.reservations) (hrow' : reservation' ∈ db.reservations)
    (hid : reservation.id = reservation'.id) : reservation = reservation' :=
  List.inj_on_of_nodup_map h.reservationIds hrow hrow' hid

/-- A column that a write leaves is that of the table before. -/
theorem map_saveCoverage {β : Type} (column : DutyDailyCoverage → β) (hdb : Keyed db) (h : coverage ∈ db.coverages)
    (hid : saved.id = coverage.id) (hsame : column saved = column coverage) :
    (db.saveCoverage saved).coverages.map column = db.coverages.map column := by
  unfold DutyDb.saveCoverage
  refine map_column_of_change fun row hrow heq => ?_
  obtain rfl := hdb.eq_coverage hrow h (heq.trans hid)
  exact hsame

theorem Keyed.saveCoverage (hdb : Keyed db) (h : coverage ∈ db.coverages) (hsaved : Replaces saved coverage) :
    Keyed (db.saveCoverage saved) where
  coverageIds := by
    rw [map_saveCoverage _ hdb h hsaved.id hsaved.id]
    exact hdb.coverageIds
  coverageKeys := by
    rw [map_saveCoverage _ hdb h hsaved.id hsaved.key]
    exact hdb.coverageKeys
  reservationIds := hdb.reservationIds
  coverageBelow row hrow := by
    rcases mem_saveCoverage hrow with rfl | ⟨hrow, -⟩
    · rw [hsaved.id]
      exact hdb.coverageBelow coverage h
    · exact hdb.coverageBelow row hrow
  reservationBelow := hdb.reservationBelow
  relieverBelow := hdb.relieverBelow
  attendanceKeys := hdb.attendanceKeys

theorem map_attendance_key (rows : List TechAttendance) (f : TechAttendance → TechAttendance)
    (hf : ∀ row, (f row).userId = row.userId ∧ (f row).date = row.date) :
    (rows.map f).map (fun row => (row.userId, row.date)) = rows.map fun row => (row.userId, row.date) := by
  rw [List.map_map]
  refine List.map_congr_left fun row _ => ?_
  rw [Function.comp_apply, (hf row).1, (hf row).2]

theorem Keyed.attend (hdb : Keyed db) (f : TechAttendance → TechAttendance)
    (hf : ∀ row, (f row).userId = row.userId ∧ (f row).date = row.date) (ids : List Nat) :
    Keyed { db with attendance := db.attendance.map f, yielded := ids } where
  coverageIds := hdb.coverageIds
  coverageKeys := hdb.coverageKeys
  reservationIds := hdb.reservationIds
  coverageBelow := hdb.coverageBelow
  reservationBelow := hdb.reservationBelow
  relieverBelow := hdb.relieverBelow
  attendanceKeys := by
    rw [map_attendance_key db.attendance f hf]
    exact hdb.attendanceKeys

theorem Keyed.saveAttendance (hdb : Keyed db) {userId : Nat} {date : Int} (f : TechAttendance → TechAttendance)
    (hf : ∀ row, (f row).userId = row.userId ∧ (f row).date = row.date) (ids : List Nat) :
    Keyed { db.saveAttendance userId date f with yielded := ids } := by
  refine hdb.attend (fun row => if row.userId = userId ∧ row.date = date then f row else row) (fun row => ?_) ids
  split_ifs
  · exact hf row
  · exact ⟨rfl, rfl⟩

/-! ## Attendance and the other tables -/

section
variable (coverage : DutyDailyCoverage) (db : DutyDb)

/-- Nothing but an attendance is restored. -/
theorem restoreAttendance_eq : ∃ attendance, restoreAttendance coverage db = { db with attendance } := by
  unfold restoreAttendance
  split
  · split_ifs
    · exact ⟨_, rfl⟩
    · exact ⟨_, rfl⟩
  · exact ⟨_, rfl⟩

@[simp] theorem restoreAttendance_coverages : (restoreAttendance coverage db).coverages = db.coverages := by
  obtain ⟨_, h⟩ := restoreAttendance_eq coverage db
  rw [h]

@[simp] theorem restoreAttendance_reservations : (restoreAttendance coverage db).reservations = db.reservations := by
  obtain ⟨_, h⟩ := restoreAttendance_eq coverage db
  rw [h]

@[simp] theorem restoreAttendance_relievers : (restoreAttendance coverage db).relievers = db.relievers := by
  obtain ⟨_, h⟩ := restoreAttendance_eq coverage db
  rw [h]

@[simp] theorem handOver_coverages (prior : DutyDailyCoverage) (userId : Nat) (date : Int) :
    (handOver coverage prior userId date db).coverages = db.coverages := by
  unfold handOver
  split_ifs <;> rfl

@[simp] theorem handOver_reservations (prior : DutyDailyCoverage) (userId : Nat) (date : Int) :
    (handOver coverage prior userId date db).reservations = db.reservations := by
  unfold handOver
  split_ifs <;> rfl

@[simp] theorem handOver_relievers (prior : DutyDailyCoverage) (userId : Nat) (date : Int) :
    (handOver coverage prior userId date db).relievers = db.relievers := by
  unfold handOver
  split_ifs <;> rfl

end

theorem Keyed.restoreAttendance (hdb : Keyed db) (coverage : DutyDailyCoverage) :
    Keyed (restoreAttendance coverage db) := by
  unfold Duty.restoreAttendance
  split
  · split_ifs
    · exact hdb.saveAttendance (restored coverage) (fun _ => ⟨rfl, rfl⟩) db.yielded
    · exact hdb
  · exact hdb

theorem Keyed.handOver (hdb : Keyed db) (coverage prior : DutyDailyCoverage) (userId : Nat) (date : Int) :
    Keyed (handOver coverage prior userId date db) := by
  unfold Duty.handOver
  split_ifs
  · exact hdb.saveAttendance (onDuty prior.dutyType) (fun _ => ⟨rfl, rfl⟩) _
  · exact hdb

theorem Keyed.write (hdb : Keyed db) (h : Write db db') : Keyed db' := by
  cases h with
  | @ends coverage saved hmem hsaved _ _ =>
    exact (hdb.restoreAttendance coverage).saveCoverage (by rwa [restoreAttendance_coverages]) hsaved
  | changes hmem hsaved _ _ _ => exact hdb.saveCoverage hmem hsaved
  | @yields coverage prior userId date hmem =>
    have hmem' : coverage ∈ (Duty.handOver coverage prior userId date db).coverages := by rwa [handOver_coverages]
    exact (hdb.handOver coverage prior userId date).saveCoverage hmem'
      (.of_meeting rfl rfl rfl DutyCoverageStatus.noConfusion)
  | @inserts coverage hid hkey _ _ _ =>
    refine ⟨?_, ?_, hdb.reservationIds, ?_, fun row hrow => ?_, fun row hrow => ?_, hdb.attendanceKeys⟩
    · rw [List.map_append, List.map_singleton]
      refine List.Nodup.append hdb.coverageIds (List.nodup_singleton _) fun id hid' hnew => ?_
      obtain ⟨row, hrow, rfl⟩ := List.mem_map.mp hid'
      have hlt := hdb.coverageBelow row hrow
      rw [List.mem_singleton] at hnew
      omega
    · rw [List.map_append, List.map_singleton]
      refine List.Nodup.append hdb.coverageKeys (List.nodup_singleton _) fun key hold hnew => ?_
      rw [List.mem_singleton] at hnew
      subst hnew
      exact hkey hold
    · intro row hrow
      rcases List.mem_append.mp hrow with hrow | hrow
      · exact Nat.lt_succ_of_lt (hdb.coverageBelow row hrow)
      · obtain rfl := List.mem_singleton.mp hrow
        rw [hid]
        exact Nat.lt_succ_self _
    · exact Nat.lt_succ_of_lt (hdb.reservationBelow row hrow)
    · exact Nat.lt_succ_of_lt (hdb.relieverBelow row hrow)
  | restores _ => exact hdb.restoreAttendance _
  | sweeps date =>
    refine hdb.attend _ (fun row => ?_) db.yielded
    split_ifs <;> exact ⟨rfl, rfl⟩
  | logs _ _ nextId hle =>
    exact ⟨hdb.coverageIds, hdb.coverageKeys, hdb.reservationIds,
      fun row hrow => Nat.lt_of_lt_of_le (hdb.coverageBelow row hrow) hle,
      fun row hrow => Nat.lt_of_lt_of_le (hdb.reservationBelow row hrow) hle,
      fun row hrow => Nat.lt_of_lt_of_le (hdb.relieverBelow row hrow) hle, hdb.attendanceKeys⟩

/-- What writes beside the meetings leave: the meetings, their relievers, the keys of every coverage, and each coverage
that is active afterwards. -/
structure Beside (db db' : DutyDb) : Prop where
  reservations : db'.reservations = db.reservations
  relievers : db'.relievers = db.relievers
  active : ∀ coverage ∈ db'.coverages, coverage.status = .active → coverage ∈ db.coverages
  rows : ∀ coverage ∈ db.coverages, ∃ row ∈ db'.coverages, row.id = coverage.id ∧ row.key = coverage.key

theorem Beside.refl (db : DutyDb) : Beside db db :=
  ⟨rfl, rfl, fun _ h _ => h, fun coverage h => ⟨coverage, h, rfl, rfl⟩⟩

theorem Beside.trans {db'' : DutyDb} (h : Beside db db') (h' : Beside db' db'') : Beside db db'' where
  reservations := h'.reservations.trans h.reservations
  relievers := h'.relievers.trans h.relievers
  active coverage hmem hactive := h.active coverage (h'.active coverage hmem hactive) hactive
  rows coverage hmem := by
    obtain ⟨row, hrow, hid, hkey⟩ := h.rows coverage hmem
    obtain ⟨row', hrow', hid', hkey'⟩ := h'.rows row hrow
    exact ⟨row', hrow', hid'.trans hid, hkey'.trans hkey⟩

/-- A write of one coverage that it does not make active. -/
theorem beside_saveCoverage (hdb : Keyed db) (hmem : coverage ∈ db.coverages) (hsaved : Replaces saved coverage)
    (hstatus : saved.status ≠ .active) : Beside db (db.saveCoverage saved) where
  reservations := rfl
  relievers := rfl
  active row hrow hactive := by
    rcases mem_saveCoverage hrow with rfl | ⟨hrow, -⟩
    · exact absurd hactive hstatus
    · exact hrow
  rows row hrow := by
    by_cases hid : row.id = saved.id
    · obtain rfl := hdb.eq_coverage hrow hmem (hid.trans hsaved.id)
      exact ⟨saved, saveCoverage_mem hmem hsaved.id, hsaved.id, hsaved.key⟩
    · exact ⟨row, saveCoverage_keeps hrow hid, rfl, rfl⟩

theorem beside_of_eq (hcoverages : db'.coverages = db.coverages) (hreservations : db'.reservations = db.reservations)
    (hrelievers : db'.relievers = db.relievers) : Beside db db' where
  reservations := hreservations
  relievers := hrelievers
  active row hrow _ := by rwa [← hcoverages]
  rows row hrow := ⟨row, by rwa [hcoverages], rfl, rfl⟩

theorem beside_restoreAttendance (coverage : DutyDailyCoverage) (db : DutyDb) : Beside db (restoreAttendance coverage db) :=
  beside_of_eq (restoreAttendance_coverages _ _) (restoreAttendance_reservations _ _) (restoreAttendance_relievers _ _)

theorem Write.beside (hdb : Keyed db) (h : Write db db') : Beside db db' := by
  cases h with
  | @ends coverage saved hmem hsaved hstatus _ =>
    refine (beside_restoreAttendance coverage db).trans ?_
    exact beside_saveCoverage (hdb.restoreAttendance coverage) (by rwa [restoreAttendance_coverages]) hsaved hstatus
  | changes hmem hsaved _ hstatus _ => exact beside_saveCoverage hdb hmem hsaved hstatus
  | @yields coverage prior userId date hmem =>
    have hmem' : coverage ∈ (handOver coverage prior userId date db).coverages := by rwa [handOver_coverages]
    refine (beside_of_eq (handOver_coverages coverage db prior userId date) (handOver_reservations _ _ _ _ _)
      (handOver_relievers _ _ _ _ _)).trans ?_
    refine beside_saveCoverage (hdb.handOver coverage prior userId date) hmem' (.of_meeting rfl rfl rfl ?_) ?_
    · exact DutyCoverageStatus.noConfusion
    · exact DutyCoverageStatus.noConfusion
  | inserts hid hkey hstatus _ _ =>
    refine ⟨rfl, rfl, fun row hrow hactive => ?_, fun row hrow => ⟨row, List.mem_append_left _ hrow, rfl, rfl⟩⟩
    rcases List.mem_append.mp hrow with hrow | hrow
    · exact hrow
    · obtain rfl := List.mem_singleton.mp hrow
      exact absurd hactive hstatus
  | restores _ => exact beside_restoreAttendance _ _
  | sweeps _ => exact beside_of_eq rfl rfl rfl
  | logs _ _ _ _ => exact beside_of_eq rfl rfl rfl

/-- Every row is regular. -/
def Regular (db : DutyDb) : Prop := ∀ coverage ∈ db.coverages, coverage.Regular

theorem Regular.saveCoverage (hdb : Regular db) (hmem : coverage ∈ db.coverages) (hsaved : Replaces saved coverage) :
    Regular (db.saveCoverage saved) := by
  intro row hrow
  rcases mem_saveCoverage hrow with rfl | ⟨hrow, -⟩
  · exact hsaved.regular (hdb coverage hmem)
  · exact hdb row hrow

theorem Regular.of_eq (hdb : Regular db) (h : db'.coverages = db.coverages) : Regular db' := by
  intro row hrow
  rw [h] at hrow
  exact hdb row hrow

theorem Regular.write (hdb : Regular db) (h : Write db db') : Regular db' := by
  cases h with
  | @ends coverage saved hmem hsaved _ _ =>
    have hrestored := hdb.of_eq (restoreAttendance_coverages coverage db)
    exact hrestored.saveCoverage (by rwa [restoreAttendance_coverages]) hsaved
  | changes hmem hsaved _ _ _ => exact hdb.saveCoverage hmem hsaved
  | @yields coverage prior userId date hmem =>
    have hmem' : coverage ∈ (handOver coverage prior userId date db).coverages := by rwa [handOver_coverages]
    have hhanded := hdb.of_eq (handOver_coverages coverage db prior userId date)
    exact hhanded.saveCoverage hmem' (.of_meeting rfl rfl rfl DutyCoverageStatus.noConfusion)
  | inserts _ _ _ _ hregular =>
    intro row hrow
    rcases List.mem_append.mp hrow with hrow | hrow
    · exact hdb row hrow
    · rwa [List.mem_singleton.mp hrow]
  | restores _ => exact hdb.of_eq (restoreAttendance_coverages _ _)
  | sweeps _ => exact hdb
  | logs _ _ _ _ => exact hdb

/-- Some writes, one after the other. -/
abbrev Writes : DutyDb → DutyDb → Prop := Relation.ReflTransGen Write

/-- What the tables are to begin with, and after every write. -/
structure Sane (db : DutyDb) : Prop where
  keyed : Keyed db
  regular : Regular db

theorem Sane.writes (hdb : Sane db) (h : Writes db db') : Sane db' ∧ Beside db db' := by
  induction h with
  | refl => exact ⟨hdb, .refl db⟩
  | tail _ hwrite ih =>
    obtain ⟨hsane, hbeside⟩ := ih
    exact ⟨⟨hsane.keyed.write hwrite, hsane.regular.write hwrite⟩, hbeside.trans (hwrite.beside hsane.keyed)⟩

end ComplianceHub.Duty
